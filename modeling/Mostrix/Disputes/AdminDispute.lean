import Mostrix.Library.Run
import Mostrix.Library.Table
import Mostrix.Protocol.Message

/-!
# The admin's disputes

`models.rs`, `util/order_utils/execute_finalize_dispute.rs` and `relay_dispute_db_reconcile.rs`: the
rows of `admin_disputes` and everything that writes their status. Taking a dispute inserts its row,
or checks the one that is there and overwrites it; finalizing one checks the row, asks Mostro and
writes; the relay reconcile moves a row to a terminal status in one guarded statement; and two
setters write without looking. Each statement is one step, so a check and the write that relies on
it are separate steps with any others in between, and `calls` holds what is on the way.

A terminal status survives the guarded statements. It does not survive a write whose check is old,
nor an unguarded one, and `MeetsCheck` says when those are harmless.
-/

namespace Mostrix.Disputes

/-- `mostro_core::dispute::Status`. -/
inductive DisputeStatus
  | initiated
  | inProgress
  | sellerRefunded
  | settled
  | released
deriving DecidableEq, Repr

/-- Its `to_string`, which is what the column holds. -/
def DisputeStatus.text : DisputeStatus → String
  | .initiated => "initiated"
  | .inProgress => "in-progress"
  | .sellerRefunded => "seller-refunded"
  | .settled => "settled"
  | .released => "released"

/-- Its `from_str`. -/
def DisputeStatus.fromStr (s : String) : Option DisputeStatus :=
  if s = "initiated" then some .initiated
  else if s = "in-progress" then some .inProgress
  else if s = "seller-refunded" then some .sellerRefunded
  else if s = "settled" then some .settled
  else if s = "released" then some .released
  else none

/-- A row of `admin_disputes`, the columns its writers look at. The primary key is the order's id; a
migrated row has no dispute id. The status is the text Mostro sent. -/
structure AdminDispute where
  id : Uuid
  disputeId : Option Uuid
  status : Option String
  buyerPubkey : Option String
  sellerPubkey : Option String
deriving DecidableEq, Repr

/-- `AdminDispute::is_terminal_status`. -/
def isTerminalStatus (status : String) : Bool :=
  match DisputeStatus.fromStr status with
  | some .settled | some .sellerRefunded | some .released => true
  | _ => false

/-- `AdminDispute::is_finalized`. -/
def AdminDispute.isFinalized (d : AdminDispute) : Bool := (d.status.map isTerminalStatus).getD false

/-- `AdminDispute::can_settle`. -/
def AdminDispute.canSettle (d : AdminDispute) : Bool := !d.isFinalized

/-- `AdminDispute::can_cancel`. -/
def AdminDispute.canCancel (d : AdminDispute) : Bool := !d.isFinalized

/-- `SolverDisputeInfo`, as far as the row takes it. -/
structure SolverDisputeInfo where
  id : Uuid
  status : String
  buyerPubkey : Option String
  sellerPubkey : Option String
deriving DecidableEq, Repr

/-- `mostro_core::dispute::Dispute`, a dispute as the relay shows it. -/
structure Dispute where
  id : Uuid := 0
  status : String := ""
  createdAt : Int := 0
deriving DecidableEq, Repr

/-- `AdminFinalizeAck`. -/
inductive AdminFinalizeAck
  | confirmed
  | alreadyCooperativelyCanceled
deriving DecidableEq, Repr

/-- A call between two of its statements. -/
inductive Call
  /-- `AdminDispute::new` after its insert hit a row. -/
  | conflict (d : AdminDispute)
  /-- `AdminDispute::new` after it found that row not finalized. -/
  | checked (d : AdminDispute)
  /-- `execute_finalize_dispute` after its checks, while Mostro is asked. -/
  | awaitingAck (orderId : Uuid) (isSettle : Bool)
deriving DecidableEq, Repr

/-- The table, and the calls on their way. -/
structure State where
  rows : Table Uuid AdminDispute
  calls : Table Nat Call

/-- One statement of one party. -/
inductive Step
  /-- `AdminDispute::new` up to its `INSERT`. -/
  | newInsert (call : Nat) (info : SolverDisputeInfo) (disputeId : Uuid)
  /-- Its `SELECT` of the row in the way. -/
  | newCheck (call : Nat)
  /-- Its `UPDATE`. -/
  | newUpdate (call : Nat)
  | setStatusSettled (orderId : Uuid)
  | setStatusSellerRefunded (orderId : Uuid)
  | setStatusByDisputeId (disputeId : Uuid) (status : DisputeStatus)
  /-- `execute_finalize_dispute` up to its request; `row` is the row that `LIMIT 1` picks. -/
  | finalizeCheck (call : Nat) (disputeId row : Uuid) (isSettle : Bool)
  /-- Its write after the reply, or its end on an error. -/
  | finalizeWrite (call : Nat) (ack : Option AdminFinalizeAck)
  /-- One dispute of the relay reconcile. The bulk one goes over a snapshot and the targeted one
  over what it fetched, each with an await between two disputes. -/
  | reconcileOne (relay : Dispute)
deriving DecidableEq, Repr

/-! ## The statements -/

/-- The row `AdminDispute::new` builds; an error without both pubkeys. -/
def newRow (info : SolverDisputeInfo) (disputeId : Uuid) : Option AdminDispute :=
  if info.buyerPubkey = none ∨ info.sellerPubkey = none then none
  else
    some
      { id := info.id
        disputeId := some disputeId
        status := some info.status
        buyerPubkey := info.buyerPubkey
        sellerPubkey := info.sellerPubkey }

/-- `UPDATE admin_disputes SET status = ? WHERE id = ?`. -/
def setStatus (rows : Table Uuid AdminDispute) (orderId : Uuid) (status : DisputeStatus) :
    Table Uuid AdminDispute :=
  rows.modify orderId fun d => { d with status := some status.text }

/-- The statement of `set_status_by_dispute_id`: every row of the dispute that is not finalized. -/
def setStatusByDisputeId (rows : Table Uuid AdminDispute) (disputeId : Uuid)
    (status : DisputeStatus) : Table Uuid AdminDispute :=
  fun id => (rows id).map fun d =>
    if d.disputeId = some disputeId ∧ d.isFinalized = false then { d with status := some status.text }
    else d

/-- `reconcile_one_admin_dispute_if_terminal`. -/
def reconcileOneAdminDisputeIfTerminal (rows : Table Uuid AdminDispute) (relay : Dispute) :
    Table Uuid AdminDispute :=
  if isTerminalStatus relay.status then
    match DisputeStatus.fromStr relay.status with
    | some status => setStatusByDisputeId rows relay.id status
    | none => rows
  else rows

/-- The status a finalization writes. -/
def finalStatus (isSettle : Bool) (ack : AdminFinalizeAck) : DisputeStatus :=
  if ack = .alreadyCooperativelyCanceled ∨ isSettle = false then .sellerRefunded else .settled

/-- `AdminDispute::new` up to its `INSERT`. -/
def newInsert (s : State) (call : Nat) (info : SolverDisputeInfo) (disputeId : Uuid) : State :=
  match newRow info disputeId with
  | none => s
  | some d =>
    match s.rows d.id with
    | none => { s with rows := s.rows.put d.id d }
    | some _ => { s with calls := s.calls.put call (.conflict d) }

/-- The check of `AdminDispute::new`, after a unique violation. -/
def newCheck (s : State) (call : Nat) : State :=
  match s.calls call with
  | some (.conflict d) =>
    match s.rows d.id with
    | none => { s with calls := s.calls.erase call }
    | some existing =>
      if existing.isFinalized then { s with calls := s.calls.erase call }
      else { s with calls := s.calls.put call (.checked d) }
  | _ => s

/-- The overwrite of `AdminDispute::new`, status included. -/
def newUpdate (s : State) (call : Nat) : State :=
  match s.calls call with
  | some (.checked d) =>
    { rows := s.rows.modify d.id fun _ => d
      calls := s.calls.erase call }
  | _ => s

/-- `execute_finalize_dispute` up to its request. -/
def finalizeCheck (s : State) (call : Nat) (disputeId row : Uuid) (isSettle : Bool) : State :=
  match (s.rows row).filter (·.disputeId = some disputeId) with
  | none => s
  | some dispute =>
    if dispute.isFinalized then s
    else if isSettle ∧ dispute.canSettle = false then s
    else if isSettle = false ∧ dispute.canCancel = false then s
    else { s with calls := s.calls.put call (.awaitingAck dispute.id isSettle) }

/-- `execute_finalize_dispute` from the reply on; `none` is an error, which ends it. -/
def finalizeWrite (s : State) (call : Nat) (ack : Option AdminFinalizeAck) : State :=
  match s.calls call with
  | some (.awaitingAck orderId isSettle) =>
    match ack with
    | some ack =>
      { rows := setStatus s.rows orderId (finalStatus isSettle ack)
        calls := s.calls.erase call }
    | none => { s with calls := s.calls.erase call }
  | _ => s

/-- The step function. -/
def next (s : State) : Step → State
  | .newInsert call info disputeId => newInsert s call info disputeId
  | .newCheck call => newCheck s call
  | .newUpdate call => newUpdate s call
  | .setStatusSettled orderId => { s with rows := setStatus s.rows orderId .settled }
  | .setStatusSellerRefunded orderId => { s with rows := setStatus s.rows orderId .sellerRefunded }
  | .setStatusByDisputeId disputeId status =>
    { s with rows := setStatusByDisputeId s.rows disputeId status }
  | .finalizeCheck call disputeId row isSettle => finalizeCheck s call disputeId row isSettle
  | .finalizeWrite call ack => finalizeWrite s call ack
  | .reconcileOne relay => { s with rows := reconcileOneAdminDisputeIfTerminal s.rows relay }

/-! ## What a step must not do -/

/-- A finalized row keeps its status. -/
def KeepsFinalized (s s' : State) : Prop :=
  ∀ id d, s.rows id = some d → d.isFinalized = true →
    ∃ d', s'.rows id = some d' ∧ d'.status = d.status

/-- The row of an order is not finalized, or has this status already. -/
def MayWrite (s : State) (orderId : Uuid) (status : Option String) : Prop :=
  ∀ d, s.rows orderId = some d → d.isFinalized = true → d.status = status

/-- The condition on a step: what it writes without a guard lands on a row that is not finalized at
that moment, or changes no status. -/
def Step.MeetsCheck (s : State) : Step → Prop
  | .newUpdate call => ∀ d, s.calls call = some (.checked d) → MayWrite s d.id d.status
  | .setStatusSettled orderId => MayWrite s orderId (some DisputeStatus.settled.text)
  | .setStatusSellerRefunded orderId => MayWrite s orderId (some DisputeStatus.sellerRefunded.text)
  | .finalizeWrite call (some ack) => ∀ orderId isSettle,
      s.calls call = some (.awaitingAck orderId isSettle) →
        MayWrite s orderId (some (finalStatus isSettle ack).text)
  | _ => True

/-! ## Each statement -/

theorem keepsFinalized_refl (s : State) : KeepsFinalized s s := fun _ d hd _ => ⟨d, hd, rfl⟩

theorem keepsFinalized_trans {s t u : State} (h : KeepsFinalized s t) (h' : KeepsFinalized t u) :
    KeepsFinalized s u := by
  intro id d hd hfin
  obtain ⟨d', hd', hstatus⟩ := h id d hd hfin
  have hfin' : d'.isFinalized = true := by
    rw [AdminDispute.isFinalized, hstatus]
    exact hfin
  obtain ⟨d'', hd'', hstatus'⟩ := h' id d' hd' hfin'
  exact ⟨d'', hd'', hstatus'.trans hstatus⟩

/-- A step that leaves the table alone keeps every status. -/
theorem keepsFinalized_of_rows {s s' : State} (h : s'.rows = s.rows) : KeepsFinalized s s' := by
  intro id d hd _
  exact ⟨d, by rw [h, hd], rfl⟩

/-- A new row changes no other. -/
theorem keepsFinalized_insert {s s' : State} {d : AdminDispute} (hnone : s.rows d.id = none)
    (h : s'.rows = s.rows.put d.id d) : KeepsFinalized s s' := by
  intro id e he _
  have hne : id ≠ d.id := by
    rintro rfl
    rw [hnone] at he
    cases he
  exact ⟨e, by rw [h, Table.put_of_ne hne, he], rfl⟩

/-- An unguarded write of one row keeps the finalized ones exactly when it may write that row. -/
theorem keepsFinalized_write_iff {s s' : State} {orderId : Uuid} {f : AdminDispute → AdminDispute}
    {status : Option String} (hf : ∀ d, (f d).status = status)
    (h : s'.rows = s.rows.modify orderId f) :
    KeepsFinalized s s' ↔ MayWrite s orderId status := by
  refine ⟨fun hk d hd hfin => ?_, fun hw id d hd hfin => ?_⟩
  · obtain ⟨d', hd', hstatus⟩ := hk orderId d hd hfin
    rw [h, Table.modify_self, hd, Option.map_some] at hd'
    rw [← hstatus, ← Option.some.inj hd', hf]
  · by_cases hid : id = orderId
    · subst hid
      refine ⟨f d, by rw [h, Table.modify_self, hd, Option.map_some], ?_⟩
      rw [hf, hw d hd hfin]
    · exact ⟨d, by rw [h, Table.modify_of_ne hid, hd], rfl⟩

/-- Setting a status by order id is an unguarded write. -/
theorem keepsFinalized_setStatus_iff (s : State) (calls : Table Nat Call) (orderId : Uuid)
    (status : DisputeStatus) :
    KeepsFinalized s ⟨setStatus s.rows orderId status, calls⟩ ↔
      MayWrite s orderId (some status.text) :=
  keepsFinalized_write_iff (fun _ => rfl) rfl

/-- The guarded statement keeps every finalized row. -/
theorem keepsFinalized_guarded {s s' : State} {disputeId : Uuid} {status : DisputeStatus}
    (h : s'.rows = setStatusByDisputeId s.rows disputeId status) : KeepsFinalized s s' := by
  intro id d hd hfin
  exact ⟨d, by simp [h, setStatusByDisputeId, hd, hfin], rfl⟩

/-- The relay reconcile goes through the guarded statement. -/
theorem keepsFinalized_reconcile {s s' : State} {relay : Dispute}
    (h : s'.rows = reconcileOneAdminDisputeIfTerminal s.rows relay) : KeepsFinalized s s' := by
  unfold reconcileOneAdminDisputeIfTerminal at h
  split at h
  · split at h
    · exact keepsFinalized_guarded h
    · exact keepsFinalized_of_rows h
  · exact keepsFinalized_of_rows h

/-- Inserting a row keeps every other, and a conflict writes nothing. -/
theorem keepsFinalized_newInsert (s : State) (call : Nat) (info : SolverDisputeInfo)
    (disputeId : Uuid) : KeepsFinalized s (newInsert s call info disputeId) := by
  unfold newInsert
  cases newRow info disputeId with
  | none => exact keepsFinalized_refl s
  | some d =>
    cases hrow : s.rows d.id with
    | none => exact keepsFinalized_insert hrow (by simp [hrow])
    | some e => exact keepsFinalized_of_rows (by simp [hrow])

/-- The check of `AdminDispute::new` writes nothing. -/
theorem newCheck_rows (s : State) (call : Nat) : (newCheck s call).rows = s.rows := by
  unfold newCheck
  split
  · split
    · rfl
    · split <;> rfl
  · rfl

/-- The overwrite of `AdminDispute::new` is unguarded: its check is old. -/
theorem keepsFinalized_newUpdate_iff (s : State) (call : Nat) :
    KeepsFinalized s (newUpdate s call) ↔ Step.MeetsCheck s (.newUpdate call) := by
  unfold newUpdate
  split
  · rename_i d hcall
    rw [keepsFinalized_write_iff (fun _ => rfl) rfl]
    simp [Step.MeetsCheck, hcall]
  · rename_i hcall
    exact iff_of_true (keepsFinalized_refl s) fun d hd => absurd hd (hcall d)

/-- The checks of `execute_finalize_dispute` write nothing. -/
theorem finalizeCheck_rows (s : State) (call : Nat) (disputeId row : Uuid) (isSettle : Bool) :
    (finalizeCheck s call disputeId row isSettle).rows = s.rows := by
  unfold finalizeCheck
  split
  · rfl
  · split
    · rfl
    · split
      · rfl
      · split <;> rfl

/-- The write of `execute_finalize_dispute` is unguarded: its check is from before the reply. -/
theorem keepsFinalized_finalizeWrite_iff (s : State) (call : Nat) (ack : Option AdminFinalizeAck) :
    KeepsFinalized s (finalizeWrite s call ack) ↔ Step.MeetsCheck s (.finalizeWrite call ack) := by
  unfold finalizeWrite
  split
  · rename_i orderId isSettle hcall
    cases ack with
    | none => exact iff_of_true (keepsFinalized_of_rows rfl) trivial
    | some ack =>
      refine (keepsFinalized_setStatus_iff s _ orderId _).trans ?_
      simp [Step.MeetsCheck, hcall]
  · rename_i hcall
    refine iff_of_true (keepsFinalized_refl s) ?_
    cases ack with
    | none => trivial
    | some ack => exact fun orderId isSettle hd => absurd hd (hcall orderId isSettle)

/-! ## Runs -/

/-- A step keeps the finalized rows exactly when it meets its condition. -/
theorem keepsFinalized_next_iff (s : State) (a : Step) :
    KeepsFinalized s (next s a) ↔ a.MeetsCheck s := by
  cases a with
  | newInsert call info disputeId =>
    exact iff_of_true (keepsFinalized_newInsert s call info disputeId) trivial
  | newCheck call => exact iff_of_true (keepsFinalized_of_rows (newCheck_rows s call)) trivial
  | newUpdate call => exact keepsFinalized_newUpdate_iff s call
  | setStatusSettled orderId => exact keepsFinalized_setStatus_iff s s.calls orderId .settled
  | setStatusSellerRefunded orderId =>
    exact keepsFinalized_setStatus_iff s s.calls orderId .sellerRefunded
  | setStatusByDisputeId disputeId status => exact iff_of_true (keepsFinalized_guarded rfl) trivial
  | finalizeCheck call disputeId row isSettle =>
    exact iff_of_true (keepsFinalized_of_rows (finalizeCheck_rows s call disputeId row isSettle))
      trivial
  | finalizeWrite call ack => exact keepsFinalized_finalizeWrite_iff s call ack
  | reconcileOne relay => exact iff_of_true (keepsFinalized_reconcile rfl) trivial

/-- **Finalized disputes.** Over every interleaving of the writers, from any table and with any
calls on their way, no later step changes the status of a finalized row exactly when every unguarded
write meets its condition. -/
theorem finalized_immutable_iff (s : State) (steps : List Step) :
    (∀ earlier later rest, steps = earlier ++ later ++ rest →
      KeepsFinalized (earlier.foldl next s) ((earlier ++ later).foldl next s)) ↔
      Run.Guarded next (fun s a => a.MeetsCheck s) s steps :=
  (Run.Guarded.iff_related keepsFinalized_refl keepsFinalized_trans keepsFinalized_next_iff
    steps).symm

/-- A dispute in progress on order 1. -/
def openDispute : State where
  rows := Table.empty.put 1 ⟨1, some 7, some "in-progress", some "buyer", some "seller"⟩
  calls := Table.empty

/-- The relay closes a dispute while the admin's settlement waits for Mostro: the settlement
overwrites `seller-refunded`. -/
theorem settlement_overwrites_refund :
    ¬ ∀ (s : State) (steps earlier later rest : List Step), steps = earlier ++ later ++ rest →
      KeepsFinalized (earlier.foldl next s) ((earlier ++ later).foldl next s) := by
  intro h
  have hkeeps := h openDispute _ [.finalizeCheck 0 7 1 true, .reconcileOne ⟨7, "seller-refunded", 5⟩]
    [.finalizeWrite 0 (some .confirmed)] [] rfl
  obtain ⟨d', hd', hstatus⟩ := hkeeps 1
    ⟨1, some 7, some "seller-refunded", some "buyer", some "seller"⟩ (by decide) (by decide)
  have hrow : d' = ⟨1, some 7, some "settled", some "buyer", some "seller"⟩ := by
    have : some d' = some ⟨1, some 7, some "settled", some "buyer", some "seller"⟩ :=
      hd'.symm.trans (by decide)
    exact Option.some.inj this
  rw [hrow] at hstatus
  exact absurd hstatus (by decide)

end Mostrix.Disputes
