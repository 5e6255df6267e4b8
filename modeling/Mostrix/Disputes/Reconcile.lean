import Mostrix.Disputes.AdminDispute

/-!
# The relay reconcile in memory and in the database

`relay_dispute_db_reconcile.rs` applies the terminal statuses of a relay snapshot twice: to the rows
of `admin_disputes`, in a guarded statement for each dispute, and to the rows the UI holds, by
walking the list. The guard of the statement compares the status column with the texts of the
terminal statuses; the walk parses the status and asks whether it is terminal.

Both do to a row what `advance` does. `reconciles_agree` follows from that row by row: what was
loaded from the table is the table's after both.
-/

namespace Mostrix.Disputes

/-! ## The statement's guard -/

/-- `status IS NULL OR status NOT IN (?, ?, ?)`, with the texts of the terminal statuses. -/
def sqlNotFinalized (status : Option String) : Bool :=
  match status with
  | none => true
  | some s =>
    !([DisputeStatus.settled.text, DisputeStatus.sellerRefunded.text,
      DisputeStatus.released.text].contains s)

/-- The text of a parsed status is what was parsed. -/
theorem DisputeStatus.text_of_fromStr {s : String} {status : DisputeStatus}
    (h : DisputeStatus.fromStr s = some status) : status.text = s := by
  unfold DisputeStatus.fromStr at h
  split at h
  · next hs => cases h; exact hs.symm
  · split at h
    · next hs => cases h; exact hs.symm
    · split at h
      · next hs => cases h; exact hs.symm
      · split at h
        · next hs => cases h; exact hs.symm
        · split at h
          · next hs => cases h; exact hs.symm
          · cases h

/-- The terminal statuses are the three texts. -/
theorem isTerminalStatus_iff {s : String} :
    isTerminalStatus s = true ↔
      s ∈ [DisputeStatus.settled.text, DisputeStatus.sellerRefunded.text,
        DisputeStatus.released.text] := by
  refine ⟨fun h => ?_, fun h => ?_⟩
  · unfold isTerminalStatus at h
    cases hs : DisputeStatus.fromStr s with
    | none => rw [hs] at h; cases h
    | some status =>
      rw [hs] at h
      rw [← DisputeStatus.text_of_fromStr hs]
      cases status with
      | initiated => cases h
      | inProgress => cases h
      | sellerRefunded => exact .tail _ (.head _)
      | settled => exact .head _
      | released => exact .tail _ (.tail _ (.head _))
  · rcases List.mem_cons.1 h with rfl | h
    · rfl
    · rcases List.mem_cons.1 h with rfl | h
      · rfl
      · obtain rfl := List.mem_singleton.1 h
        rfl

/-- The statement's guard holds of the rows that are not finalized. -/
theorem sqlNotFinalized_iff {d : AdminDispute} :
    sqlNotFinalized d.status = true ↔ d.isFinalized = false := by
  unfold sqlNotFinalized AdminDispute.isFinalized
  cases d.status with
  | none => simp
  | some s =>
    rw [Bool.not_eq_true', ← Bool.not_eq_true, List.contains_iff_mem, ← isTerminalStatus_iff,
      Bool.not_eq_true]
    rfl

/-! ## The two reconciles -/

/-- The statement of `set_status_by_dispute_id` as it is written. -/
def setStatusWhereNotFinalized (rows : Table Uuid AdminDispute) (disputeId : Uuid)
    (status : DisputeStatus) : Table Uuid AdminDispute :=
  fun id => (rows id).map fun d =>
    if d.disputeId = some disputeId ∧ sqlNotFinalized d.status then
      { d with status := some status.text }
    else d

/-- `reconcile_terminal_admin_disputes_from_relay`. -/
def reconcileTerminalAdminDisputesFromRelay (rows : Table Uuid AdminDispute)
    (relayDisputes : List Dispute) : Table Uuid AdminDispute :=
  relayDisputes.foldl
    (fun rows relay =>
      if isTerminalStatus relay.status then
        match DisputeStatus.fromStr relay.status with
        | some status => setStatusWhereNotFinalized rows relay.id status
        | none => rows
      else rows)
    rows

/-- One round of the loop in `apply_terminal_relay_statuses_to_admin_disputes`, from the search for
the local row on, with the id it pushes on `closed`. -/
def applyToLocal (relay : Dispute) : List AdminDispute → List AdminDispute × Option Uuid
  | [] => ([], none)
  | d :: ds =>
    if d.disputeId = some relay.id then
      if d.isFinalized then (d :: ds, none)
      else if d.status = some relay.status then (d :: ds, none)
      else ({ d with status := some relay.status } :: ds, some relay.id)
    else
      let (ds, closed) := applyToLocal relay ds
      (d :: ds, closed)

/-- `apply_terminal_relay_statuses_to_admin_disputes`: the rows and the closed disputes. -/
def applyTerminalRelayStatuses (rows : List AdminDispute) :
    List Dispute → List AdminDispute × List Uuid
  | [] => (rows, [])
  | relay :: relays =>
    if isTerminalStatus relay.status then
      let (rows, closed) := applyToLocal relay rows
      let (rows, more) := applyTerminalRelayStatuses rows relays
      (rows, closed.toList ++ more)
    else applyTerminalRelayStatuses rows relays

/-! ## What both do to a row -/

/-- A terminal relay status reaches a row of its dispute that is not finalized. -/
def advance (d : AdminDispute) (relay : Dispute) : AdminDispute :=
  if isTerminalStatus relay.status ∧ d.disputeId = some relay.id ∧ d.isFinalized = false then
    { d with status := some relay.status }
  else d

@[simp] theorem advance_id (d : AdminDispute) (relay : Dispute) : (advance d relay).id = d.id := by
  unfold advance
  split <;> rfl

@[simp] theorem advance_disputeId (d : AdminDispute) (relay : Dispute) :
    (advance d relay).disputeId = d.disputeId := by
  unfold advance
  split <;> rfl

/-- A row that a status does not reach stays. -/
theorem advance_of_not {d : AdminDispute} {relay : Dispute}
    (h : ¬(isTerminalStatus relay.status = true ∧ d.disputeId = some relay.id ∧
      d.isFinalized = false)) : advance d relay = d := if_neg h

/-- A row that a status reaches is finalized by it. -/
theorem isFinalized_advance_or_eq (d : AdminDispute) (relay : Dispute) :
    (advance d relay).isFinalized = true ∨ advance d relay = d := by
  unfold advance
  split
  · next h => exact .inl h.1
  · exact .inr rfl

/-- A finalized row stays. -/
theorem foldl_advance_of_finalized {d : AdminDispute} (h : d.isFinalized = true)
    (relays : List Dispute) : relays.foldl advance d = d := by
  induction relays with
  | nil => rfl
  | cons relay relays ih =>
    have hstay : advance d relay = d := advance_of_not fun hreach => by
      rw [h] at hreach
      cases hreach.2.2
    rw [List.foldl_cons, hstay, ih]

@[simp] theorem foldl_advance_disputeId (d : AdminDispute) (relays : List Dispute) :
    (relays.foldl advance d).disputeId = d.disputeId := by
  induction relays generalizing d with
  | nil => rfl
  | cons relay relays ih => rw [List.foldl_cons, ih, advance_disputeId]

@[simp] theorem foldl_advance_id (d : AdminDispute) (relays : List Dispute) :
    (relays.foldl advance d).id = d.id := by
  induction relays generalizing d with
  | nil => rfl
  | cons relay relays ih => rw [List.foldl_cons, ih, advance_id]

/-- What a list of statuses leaves of a row, none of them changes again. -/
theorem advance_foldl_advance (d : AdminDispute) {relays : List Dispute} {relay : Dispute}
    (h : relay ∈ relays) : advance (relays.foldl advance d) relay = relays.foldl advance d := by
  induction relays generalizing d with
  | nil => cases h
  | cons r relays ih =>
    rw [List.foldl_cons]
    rcases List.mem_cons.1 h with rfl | h
    · rcases isFinalized_advance_or_eq d relay with hfin | hstay
      · rw [foldl_advance_of_finalized hfin]
        exact foldl_advance_of_finalized hfin [relay]
      · -- the status does not reach the row now, so it does not after the rest either
        rw [hstay]
        rcases Bool.eq_false_or_eq_true (relays.foldl advance d).isFinalized with hfin | hopen
        · exact foldl_advance_of_finalized hfin [relay]
        · refine advance_of_not fun hreach => ?_
          have hd : d.isFinalized = false := by
            by_contra hne
            rw [foldl_advance_of_finalized (Bool.not_eq_false _ ▸ hne)] at hopen
            exact hne hopen
          have hid : d.disputeId = some relay.id := by
            rw [← hreach.2.1, foldl_advance_disputeId]
          have hset : (advance d relay).isFinalized = true := by
            rw [advance, if_pos ⟨hreach.1, hid, hd⟩]
            exact hreach.1
          rw [hstay, hd] at hset
          cases hset
    · exact ih (advance d r) h

/-- A second application of a list of statuses changes no row. -/
theorem foldl_advance_idem (d : AdminDispute) (relays : List Dispute) :
    relays.foldl advance (relays.foldl advance d) = relays.foldl advance d := by
  suffices h : ∀ l : List Dispute, (∀ r ∈ l, r ∈ relays) →
      l.foldl advance (relays.foldl advance d) = relays.foldl advance d from
    h relays fun _ hr => hr
  intro l hl
  induction l with
  | nil => rfl
  | cons r l ih =>
    rw [List.foldl_cons, advance_foldl_advance d (hl r List.mem_cons_self)]
    exact ih fun r hr => hl r (List.mem_cons_of_mem _ hr)

/-! ## The table -/

/-- The rows of the table after a reconcile. -/
theorem reconcile_apply (rows : Table Uuid AdminDispute) (relays : List Dispute) (id : Uuid) :
    reconcileTerminalAdminDisputesFromRelay rows relays id =
      (rows id).map fun d => relays.foldl advance d := by
  unfold reconcileTerminalAdminDisputesFromRelay
  induction relays generalizing rows with
  | nil => simp
  | cons relay relays ih =>
    rw [List.foldl_cons, ih]
    by_cases hterm : isTerminalStatus relay.status = true
    · cases hs : DisputeStatus.fromStr relay.status with
      | none =>
        rw [isTerminalStatus, hs] at hterm
        cases hterm
      | some status =>
        have hrow : ∀ d : AdminDispute,
            (if d.disputeId = some relay.id ∧ sqlNotFinalized d.status then
              { d with status := some status.text } else d) = advance d relay := fun d => by
          simp only [advance, DisputeStatus.text_of_fromStr hs, sqlNotFinalized_iff, hterm,
            true_and]
        rw [if_pos hterm]
        dsimp only [setStatusWhereNotFinalized]
        rw [Option.map_map]
        refine Option.map_congr fun d _ => ?_
        rw [Function.comp_apply, hrow]
        rfl
    · rw [if_neg hterm]
      refine Option.map_congr fun d _ => ?_
      rw [List.foldl_cons, advance_of_not fun h => hterm h.1]

/-! ## The rows in memory -/

/-- No two rows have one dispute id. -/
def UniqueDisputeIds (rows : List AdminDispute) : Prop :=
  rows.Pairwise fun a b => ∀ k, a.disputeId = some k → b.disputeId ≠ some k

/-- The rows stay of different disputes. -/
theorem UniqueDisputeIds.map_advance {rows : List AdminDispute} (h : UniqueDisputeIds rows)
    (relay : Dispute) : UniqueDisputeIds (rows.map (advance · relay)) := by
  refine List.pairwise_map.2 (h.imp fun hab => ?_)
  simpa only [advance_disputeId] using hab

/-- With different disputes, the walk reaches the rows the statement reaches. -/
theorem applyToLocal_fst {relay : Dispute} (hterm : isTerminalStatus relay.status = true)
    {rows : List AdminDispute} (h : UniqueDisputeIds rows) :
    (applyToLocal relay rows).1 = rows.map (advance · relay) := by
  induction rows with
  | nil => rfl
  | cons d ds ih =>
    obtain ⟨hd, hds⟩ := List.pairwise_cons.1 h
    unfold applyToLocal
    split
    · next hid =>
      have hrest : ds.map (advance · relay) = ds := by
        refine (List.map_congr_left fun e he => ?_).trans (List.map_id' ds)
        exact advance_of_not fun hreach => hd e he relay.id hid hreach.2.1
      rw [List.map_cons, hrest]
      split
      · next hfin =>
        rw [advance_of_not fun hreach => by rw [hfin] at hreach; cases hreach.2.2]
      · next hopen =>
        have hopen' : d.isFinalized = false := Bool.not_eq_true _ ▸ hopen
        split
        · next hsame =>
          rw [AdminDispute.isFinalized, hsame] at hopen'
          exact absurd (hopen'.symm.trans hterm) Bool.false_ne_true
        · rw [advance, if_pos ⟨hterm, hid, hopen'⟩]
    · next hid =>
      rw [List.map_cons, advance_of_not fun hreach => hid hreach.2.1]
      exact congrArg (d :: ·) (ih hds)

/-- A walk that changes no row closes no dispute. -/
theorem applyToLocal_snd {relay : Dispute} {rows : List AdminDispute}
    (h : (applyToLocal relay rows).1 = rows) : (applyToLocal relay rows).2 = none := by
  induction rows with
  | nil => rfl
  | cons d ds ih =>
    unfold applyToLocal at h ⊢
    split at h
    · next hid =>
      rw [if_pos hid]
      split at h
      · next hfin => rw [if_pos hfin]
      · next hopen =>
        rw [if_neg hopen]
        split at h
        · next hsame => rw [if_pos hsame]
        · next hdiff =>
          have hd := (List.cons.inj h).1
          exact absurd (congrArg AdminDispute.status hd).symm hdiff
    · next hid =>
      rw [if_neg hid]
      exact ih (List.cons.inj h).2

/-- The rows in memory after a reconcile. -/
theorem applyTerminalRelayStatuses_fst {rows : List AdminDispute} (h : UniqueDisputeIds rows)
    (relays : List Dispute) :
    (applyTerminalRelayStatuses rows relays).1 = rows.map fun d => relays.foldl advance d := by
  induction relays generalizing rows with
  | nil => exact (List.map_id' rows).symm
  | cons relay relays ih =>
    unfold applyTerminalRelayStatuses
    split
    · next hterm =>
      have hlocal := applyToLocal_fst hterm h
      have hunique : UniqueDisputeIds (applyToLocal relay rows).1 := hlocal ▸ h.map_advance relay
      have hrest := ih hunique
      rw [hlocal, List.map_map] at hrest
      rw [← hlocal] at hrest
      exact hrest
    · next hterm =>
      rw [ih h]
      refine List.map_congr_left fun d _ => ?_
      rw [List.foldl_cons, advance_of_not fun hreach => hterm hreach.1]

/-- Statuses that change no row close no dispute. -/
theorem applyTerminalRelayStatuses_snd {rows : List AdminDispute} (h : UniqueDisputeIds rows)
    {relays : List Dispute} (hstay : ∀ d ∈ rows, ∀ relay ∈ relays, advance d relay = d) :
    (applyTerminalRelayStatuses rows relays).2 = [] := by
  induction relays with
  | nil => rfl
  | cons relay relays ih =>
    have hrest := ih fun d hd r hr => hstay d hd r (List.mem_cons_of_mem _ hr)
    unfold applyTerminalRelayStatuses
    split
    · next hterm =>
      have hlocal : (applyToLocal relay rows).1 = rows := by
        rw [applyToLocal_fst hterm h]
        refine (List.map_congr_left fun d hd => ?_).trans (List.map_id' rows)
        exact hstay d hd relay List.mem_cons_self
      dsimp only
      rw [applyToLocal_snd hlocal, hlocal, hrest]
      rfl
    · exact hrest

/-! ## Both -/

/-- The rows were loaded from the table. -/
def Loaded (table : Table Uuid AdminDispute) (rows : List AdminDispute) : Prop :=
  ∀ d ∈ rows, table d.id = some d

/-- Statuses that are not terminal reach no row. -/
theorem foldl_advance_filter (d : AdminDispute) (relays : List Dispute) :
    (relays.filter fun r => isTerminalStatus r.status).foldl advance d =
      relays.foldl advance d := by
  induction relays generalizing d with
  | nil => rfl
  | cons relay relays ih =>
    by_cases hterm : isTerminalStatus relay.status = true
    · rw [List.filter_cons_of_pos (by simpa using hterm), List.foldl_cons, List.foldl_cons, ih]
    · rw [List.filter_cons_of_neg (by simpa using hterm), List.foldl_cons, ih,
        advance_of_not fun h => hterm h.1]

/-- Rows of different disputes, loaded from the table, are the table's after the statuses of a relay
snapshot are applied to both; what is not terminal changes nothing, and a second application of the
snapshot changes nothing and closes nothing. -/
theorem reconciles_agree {table : Table Uuid AdminDispute} {rows : List AdminDispute}
    (hunique : UniqueDisputeIds rows) (hloaded : Loaded table rows) (relays : List Dispute) :
    let rows' := (applyTerminalRelayStatuses rows relays).1
    let table' := reconcileTerminalAdminDisputesFromRelay table relays
    let terminal := relays.filter fun r => isTerminalStatus r.status
    (rows'.map (·.disputeId) = rows.map (·.disputeId) ∧ Loaded table' rows') ∧
      ((applyTerminalRelayStatuses rows terminal).1 = rows' ∧
        reconcileTerminalAdminDisputesFromRelay table terminal = table') ∧
      applyTerminalRelayStatuses rows' relays = (rows', []) ∧
        reconcileTerminalAdminDisputesFromRelay table' relays = table' := by
  intro rows' table' terminal
  have hrows' : rows' = rows.map fun d => relays.foldl advance d :=
    applyTerminalRelayStatuses_fst hunique relays
  have htable' : ∀ id, table' id = (table id).map fun d => relays.foldl advance d :=
    reconcile_apply table relays
  have hunique' : UniqueDisputeIds rows' := by
    rw [hrows']
    refine List.pairwise_map.2 (hunique.imp fun hab => ?_)
    simpa only [foldl_advance_disputeId] using hab
  have hstay : ∀ d ∈ rows', ∀ relay ∈ relays, advance d relay = d := by
    intro d hd relay hrelay
    rw [hrows'] at hd
    obtain ⟨e, -, rfl⟩ := List.mem_map.1 hd
    exact advance_foldl_advance e hrelay
  refine ⟨⟨?_, ?_⟩, ⟨?_, ?_⟩, ?_, ?_⟩
  · rw [hrows', List.map_map]
    exact List.map_congr_left fun d _ => foldl_advance_disputeId d relays
  · intro d hd
    rw [hrows'] at hd
    obtain ⟨e, he, rfl⟩ := List.mem_map.1 hd
    rw [htable', foldl_advance_id, hloaded e he]
    rfl
  · rw [applyTerminalRelayStatuses_fst hunique, hrows']
    exact List.map_congr_left fun d _ => foldl_advance_filter d relays
  · funext id
    rw [reconcile_apply, htable']
    exact Option.map_congr fun d _ => foldl_advance_filter d relays
  · refine Prod.ext ?_ (applyTerminalRelayStatuses_snd hunique' hstay)
    rw [applyTerminalRelayStatuses_fst hunique', hrows', List.map_map]
    exact List.map_congr_left fun d _ => foldl_advance_idem d relays
  · funext id
    rw [reconcile_apply, htable', Option.map_map]
    exact Option.map_congr fun d _ => foldl_advance_idem d relays

/-- A dispute refunded twice over, one that is settled already, and one nobody took. -/
theorem reconciles_agree_example :
    let row (id disputeId : Nat) (status : String) : AdminDispute :=
      ⟨id, some disputeId, some status, some "buyer", some "seller"⟩
    let rows := [row 1 7 "in-progress", row 2 8 "settled"]
    let table : Table Uuid AdminDispute :=
      (Table.empty.put 1 (row 1 7 "in-progress")).put 2 (row 2 8 "settled")
    let relays : List Dispute :=
      [⟨7, "in-progress", 4⟩, ⟨7, "seller-refunded", 5⟩, ⟨7, "settled", 6⟩, ⟨8, "released", 6⟩,
        ⟨9, "settled", 6⟩]
    applyTerminalRelayStatuses rows relays = ([row 1 7 "seller-refunded", row 2 8 "settled"], [7]) ∧
      Loaded (reconcileTerminalAdminDisputesFromRelay table relays)
        [row 1 7 "seller-refunded", row 2 8 "settled"] := by
  intro row rows table relays
  have hrows : applyTerminalRelayStatuses rows relays =
      ([row 1 7 "seller-refunded", row 2 8 "settled"], [7]) := by decide
  have hunique : UniqueDisputeIds rows := by simp [UniqueDisputeIds, rows, row]
  have hloaded : Loaded table rows := by unfold Loaded; decide
  have hagree := (reconciles_agree hunique hloaded relays).1.2
  rw [hrows] at hagree
  exact ⟨hrows, hagree⟩

end Mostrix.Disputes
