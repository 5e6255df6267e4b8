import Mostrix.Library.KeyedList
import Mostrix.Library.Run
import Mostrix.TradeDm.Redelivered

/-!
# The law of the Messages list

What a run of trade DMs keeps of the Messages list. That it has one row per order and is sorted,
newest first, every message keeps (`listed_handleTradeDmForOrder`). That a row's status never goes
back to an earlier phase, and that a row which is put in shows the status of the order's row in the
table, `RowLaw`, are another matter: the status of the row is computed next to the one that is
written, from the same gate but not from the same writes. `messages_law_iff` says on which messages
they agree, `RowFollows`: the table must not lag behind the row, and what the upsert leaves in the
status column must be overwritten by the gated write or be the status the gate compares with.
-/

namespace Mostrix

/-- A list with at most one row per order, newest first. -/
structure MessagesListed (messages : List OrderMessage) : Prop where
  oneRow : KeyedList.Distinct (·.orderId) messages
  sorted : messages.Pairwise fun a b => b.timestamp ≤ a.timestamp

/-- A status comes before another on a listing of the kind: its phase rank is lower, or the other
is terminal and it is not. -/
def EarlierPhase (kind : Option Kind) (st st' : Status) : Prop :=
  (∃ r r', statusPhaseRankForActor st kind = some r ∧ statusPhaseRankForActor st' kind = some r' ∧
      r < r') ∨
    isTerminalTradeStatus st' = true ∧ isTerminalTradeStatus st = false

/-- The law of a step: where an order has a row before and after, its status is not lost and not of
an earlier phase, and a row that is new has the status of the order in the table. -/
structure RowLaw (s s' : TradeState) : Prop where
  phase : ∀ m ∈ s.messages, ∀ m' ∈ s'.messages, m'.orderId = m.orderId →
    ∀ st, m.orderStatus = some st →
      ∃ st', m'.orderStatus = some st' ∧ ¬ EarlierPhase m'.orderKind st' st
  persisted : ∀ m' ∈ s'.messages, m' ∉ s.messages → ∀ id, m'.orderId = some id →
    m'.orderStatus = (s'.db id).bind (·.status)

/-- The table does not lag behind the row: where both have a status, the one that is accepted from
the table's, or else the table's, is not of an earlier phase than the row's. -/
def TableKeepsUp (s : TradeState) (dm : TradeDm) : Prop :=
  ∀ m st row stored, newestMessage s.messages dm.orderId = some m → m.orderStatus = some st →
    s.db dm.orderId = some row → row.status = some stored →
      (∀ c, statusCandidate dm.message = some c →
        shouldApplyStatusTransition (some stored) c (gateKind s dm) = true →
          ¬ EarlierPhase (gateKind s dm) c st) ∧
      ((∀ c, statusCandidate dm.message = some c →
        shouldApplyStatusTransition (some stored) c (gateKind s dm) = false) →
          ¬ EarlierPhase (gateKind s dm) stored st)

/-- The status column ends as the row shows it: the gated write sets it, to a status that is
accepted and new or back to the one before, or what the upsert leaves is what the gate compares
with. An order without a row in the table has no status to show. -/
def WriteShown (s : TradeState) (dm : TradeDm) : Prop :=
  match s.db dm.orderId with
  | none => statusCandidate dm.message = none ∧ baselineStatus (inFlight s dm) = none
  | some row =>
    upsertedStatus dm row.status = baselineStatus (inFlight s dm) ∨
      ∃ c, statusCandidate dm.message = some c ∧
        if shouldApplyStatusTransition (baselineStatus (inFlight s dm)) c (gateKind s dm) then
          baselineStatus (inFlight s dm) ≠ some c
        else row.status ≠ none

/-- A message on which the row follows the table: it puts no row in the list, or both conditions
hold. -/
def RowFollows (s : TradeState) (dm : TradeDm) : Prop :=
  tradeDmPath s.db dm = .full → KeepsRow s dm ∨ TableKeepsUp s dm ∧ WriteShown s dm

section
variable {ops : ChatOps} {env : Env} {s : TradeState} {dm : TradeDm}

/-! ## The list -/

/-- Replacing an order's rows by one keeps the list as it should be. -/
theorem listed_replaced {messages : List OrderMessage} {id : Uuid} {m : OrderMessage}
    (h : MessagesListed messages) (hm : m.orderId = some id) :
    MessagesListed (sortMessages (removeOrderFromMessages messages id ++ [m])) where
  oneRow := by
    have hremoved : KeyedList.Distinct (·.orderId) (removeOrderFromMessages messages id) :=
      h.oneRow.filter _
    have happend : KeyedList.Distinct (·.orderId) (removeOrderFromMessages messages id ++ [m]) := by
      refine List.pairwise_append.2 ⟨hremoved, List.pairwise_singleton _ _, ?_⟩
      intro a ha b hb
      obtain rfl := List.mem_singleton.1 hb
      show a.orderId ≠ b.orderId
      rw [hm]
      simpa using (List.mem_filter.1 ha).2
    exact KeyedList.distinct_perm happend (List.perm_insertionSort _ _).symm
  sorted := by
    have htotal : Std.Total fun a b : OrderMessage => b.timestamp ≤ a.timestamp :=
      ⟨fun a b => le_total b.timestamp a.timestamp⟩
    have htrans : IsTrans OrderMessage fun a b => b.timestamp ≤ a.timestamp :=
      ⟨fun a b c hab hbc => le_trans hbc hab⟩
    exact List.pairwise_insertionSort _ _

/-- Every message keeps the list as it should be. -/
theorem listed_handleTradeDmForOrder (h : MessagesListed s.messages) :
    MessagesListed (handleTradeDmForOrder ops env s dm).messages := by
  have hremoved : MessagesListed (removeOrderFromMessages s.messages dm.orderId) :=
    ⟨h.oneRow.filter _, h.sorted.filter _⟩
  rw [handleTradeDmForOrder_messages]
  cases tradeDmPath s.db dm with
  | rangeChild o => exact h
  | dropTake => exact hremoved
  | republish => exact hremoved
  | hydrateOnly => exact h
  | full =>
    dsimp only
    split
    · exact listed_replaced h rfl
    · exact h

/-- Two rows of one order are the same row. -/
theorem MessagesListed.eq_of_orderId {messages : List OrderMessage} {m m' : OrderMessage}
    (h : MessagesListed messages) (hm : m ∈ messages) (hm' : m' ∈ messages)
    (hid : m'.orderId = m.orderId) : m' = m :=
  List.inj_on_of_nodup_map (KeyedList.distinct_iff_nodup.1 h.oneRow) hm' hm hid

/-- In a list with one row per order, an order's row is its newest. -/
theorem newestMessage_of_mem {messages : List OrderMessage} {id : Uuid} {m : OrderMessage}
    (h : MessagesListed messages) (hm : m ∈ messages) (hid : m.orderId = some id) :
    newestMessage messages id = some m := by
  obtain ⟨m', hm'⟩ := Option.isSome_iff_exists.1 (newestMessage_isSome_iff.2 ⟨m, hm, hid⟩)
  obtain ⟨⟨hmem, hid'⟩, -⟩ := newestMessage_spec hm'
  rw [hm', h.eq_of_orderId hm hmem (hid'.trans hid.symm)]

/-! ## Phases -/

theorem not_earlierPhase_self (kind : Option Kind) (st : Status) : ¬ EarlierPhase kind st st := by
  rintro (⟨r, r', hr, hr', hlt⟩ | ⟨hterminal, hlive⟩)
  · obtain rfl := Option.some.inj (hr.symm.trans hr')
    omega
  · rw [hterminal] at hlive
    cases hlive

/-- What the gate accepts is not of an earlier phase. -/
theorem not_earlierPhase_of_accepted {kind : Option Kind} {st c : Status}
    (h : shouldApplyStatusTransition (some st) c kind = true) : ¬ EarlierPhase kind c st := by
  rintro (⟨r, r', hr, hr', hlt⟩ | ⟨hterminal, hlive⟩)
  · have hle := shouldApplyStatusTransition_rank_le h hr' hr
    omega
  · obtain rfl := (shouldApplyStatusTransition_terminal hterminal c kind).1 h
    rw [hterminal] at hlive
    cases hlive

/-! ## The status a row shows -/

/-- The status of the row that a message builds. -/
def StatusView.shown (v : StatusView) (dm : TradeDm) : Option Status :=
  match statusCandidate dm.message with
  | some c => if shouldApplyStatusTransition v.baseline c v.kind then some c else v.baseline
  | none => v.baseline

variable (ops env) in
theorem builtMessage_orderStatus (s : TradeState) (dm : TradeDm) :
    (builtMessage ops env s dm).orderStatus = (statusView s dm).shown dm := by
  have hcandidate : (inFlight s dm).statusCandidate = statusCandidate dm.message := rfl
  unfold builtMessage tradeDmMessage StatusView.shown shouldAcceptCandidate
  dsimp only
  rw [hcandidate]
  cases statusCandidate dm.message <;> rfl

variable (ops env) in
/-- The status the table has after the full way. -/
theorem full_persisted (hpath : tradeDmPath s.db dm = .full) :
    ((handleTradeDmForOrder ops env s dm).db dm.orderId).bind (·.status) =
      (s.db dm.orderId).bind fun row => (statusView s dm).gated dm row.status := by
  have hleft : ((handleTradeDmForOrder ops env s dm).db dm.orderId).map (·.status) =
      leftStatus env dm (statusView s dm) := handleTradeDmForOrder_leftStatus ops s dm
  rw [leftStatus, ← tradeDmPath_eq_path, hpath] at hleft
  have hbind : ∀ o : Option Order, o.bind (·.status) = (o.map (·.status)).bind id := by
    intro o
    cases o <;> rfl
  rw [hbind, hleft]
  simp only [statusView]
  cases s.db dm.orderId <;> rfl

/-- The row shows the status that the gated write leaves. -/
theorem shown_eq_gated_iff {v : StatusView} {status : Option Status}
    (hbaseline : ∀ st, status = some st → v.baseline = some st) :
    v.shown dm = v.gated dm status ↔
      upsertedStatus dm status = v.baseline ∨
        ∃ c, statusCandidate dm.message = some c ∧
          if shouldApplyStatusTransition v.baseline c v.kind then v.baseline ≠ some c
          else status ≠ none := by
  unfold StatusView.shown StatusView.gated
  cases statusCandidate dm.message with
  | none =>
    simp only [reduceCtorEq, false_and, exists_false, or_false]
    exact eq_comm
  | some c =>
    simp only [Option.some.injEq, exists_eq_left']
    cases hgate : shouldApplyStatusTransition v.baseline c v.kind with
    | true =>
      by_cases hsame : v.baseline = some c
      · simp only [hsame, if_true, ne_eq, not_true_eq_false, if_false, or_false]
        exact eq_comm
      · simp [hsame]
    | false =>
      cases status with
      | none =>
        simp only [Bool.false_eq_true, if_false, ne_eq, not_true_eq_false, or_false,
          Option.none_or]
        exact eq_comm
      | some st => simp [hbaseline st rfl]

/-- The row shows the status of the table exactly when the write is shown. -/
theorem writeShown_iff :
    (statusView s dm).shown dm =
        (s.db dm.orderId).bind (fun row => (statusView s dm).gated dm row.status) ↔
      WriteShown s dm := by
  have hbase : (statusView s dm).baseline = baselineStatus (inFlight s dm) := rfl
  unfold WriteShown
  cases hrow : s.db dm.orderId with
  | some row => exact shown_eq_gated_iff (baseline_of_stored hrow)
  | none =>
    unfold StatusView.shown
    rw [hbase, Option.bind_none]
    cases statusCandidate dm.message with
    | none => simp
    | some c =>
      -- a status that is rejected is rejected from another one
      cases baselineStatus (inFlight s dm) with
      | none => simp
      | some st =>
        by_cases hgate : shouldApplyStatusTransition (some st) c (statusView s dm).kind <;>
          simp [hgate]

/-- What a row shows where the gate compares with a status: an accepted one, or that one. -/
theorem shown_of_baseline (dm : TradeDm) {v : StatusView} {st : Status}
    (hst : v.baseline = some st) :
    ∃ st', v.shown dm = some st' ∧
      ((statusCandidate dm.message = some st' ∧
          shouldApplyStatusTransition (some st) st' v.kind = true) ∨
        st' = st ∧ ∀ c, statusCandidate dm.message = some c →
          shouldApplyStatusTransition (some st) c v.kind = false) := by
  unfold StatusView.shown
  rw [hst]
  cases statusCandidate dm.message with
  | none => exact ⟨st, rfl, .inr ⟨rfl, nofun⟩⟩
  | some c =>
    by_cases hgate : shouldApplyStatusTransition (some st) c v.kind = true
    · exact ⟨c, if_pos hgate, .inl ⟨rfl, hgate⟩⟩
    · refine ⟨st, if_neg hgate, .inr ⟨rfl, ?_⟩⟩
      rintro _ ⟨⟩
      exact eq_false_of_ne_true hgate

/-- The row that is put in is not of an earlier phase than the one it replaces exactly when the
table keeps up. -/
theorem tableKeepsUp_iff {m : OrderMessage} (hm : newestMessage s.messages dm.orderId = some m) :
    (∀ st, m.orderStatus = some st →
        ∃ st', (statusView s dm).shown dm = some st' ∧ ¬ EarlierPhase (gateKind s dm) st' st) ↔
      TableKeepsUp s dm := by
  have hbaseline : (statusView s dm).baseline =
      ((s.db dm.orderId).bind (·.status)).or m.orderStatus := by
    simp [statusView, baselineStatus, inFlight, hm, PriorMessageSnapshot.ofMessage]
  constructor
  · intro h m' st row stored hm' hst hrow hstored
    obtain rfl := Option.some.inj (hm.symm.trans hm')
    have hstored' : (statusView s dm).baseline = some stored := by simp [hbaseline, hrow, hstored]
    obtain ⟨st', hshown, hphase⟩ := h st hst
    obtain ⟨st'', hshown', hcases⟩ := shown_of_baseline dm hstored'
    obtain rfl := Option.some.inj (hshown.symm.trans hshown')
    rcases hcases with ⟨hcandidate, hgate⟩ | ⟨rfl, hrejects⟩
    · refine ⟨fun c hc _ => ?_, fun hall => ?_⟩
      · obtain rfl := Option.some.inj (hcandidate.symm.trans hc)
        exact hphase
      · exact absurd (hgate.symm.trans (hall _ hcandidate)) Bool.noConfusion
    · refine ⟨fun c hc hgate => ?_, fun _ => hphase⟩
      exact absurd (hgate.symm.trans (hrejects c hc)) Bool.noConfusion
  · intro h st hst
    cases hstored : (s.db dm.orderId).bind (·.status) with
    | none =>
      -- the gate compares with the row's own status
      have hrow : (statusView s dm).baseline = some st := by simp [hbaseline, hstored, hst]
      obtain ⟨st', hshown, ⟨-, hgate⟩ | ⟨rfl, -⟩⟩ := shown_of_baseline dm hrow
      · exact ⟨st', hshown, not_earlierPhase_of_accepted hgate⟩
      · exact ⟨st', hshown, not_earlierPhase_self _ _⟩
    | some stored =>
      obtain ⟨row, hrow, hstatus⟩ := Option.bind_eq_some_iff.1 hstored
      have hstored' : (statusView s dm).baseline = some stored := by simp [hbaseline, hstored]
      obtain ⟨haccepted, hkept⟩ := h m st row stored hm hst hrow hstatus
      obtain ⟨st', hshown, ⟨hcandidate, hgate⟩ | ⟨rfl, hrejects⟩⟩ :=
        shown_of_baseline dm hstored'
      · exact ⟨st', hshown, haccepted st' hcandidate hgate⟩
      · exact ⟨st', hshown, hkept hrejects⟩

/-! ## The law of a step -/

variable (ops env) in
/-- A row that is put in was not in the list. -/
theorem builtMessage_not_mem (h : MessagesListed s.messages)
    (hreplace : shouldReplaceRow dm (inFlight s dm) = true) :
    builtMessage ops env s dm ∉ s.messages := by
  intro hmem
  have hkeeps : KeepsRow s dm := ⟨_, newestMessage_of_mem h hmem rfl, .inr (.inl ⟨rfl, rfl⟩)⟩
  rw [shouldReplaceRow_eq_false_iff.2 hkeeps] at hreplace
  cases hreplace

/-- A message that puts no row in the list keeps the law. -/
theorem rowLaw_of_subset {s' : TradeState} (h : MessagesListed s.messages)
    (hsub : ∀ m ∈ s'.messages, m ∈ s.messages) : RowLaw s s' where
  phase := by
    intro m hm m' hm' hid st hst
    rw [h.eq_of_orderId hm (hsub m' hm') hid]
    exact ⟨st, hst, not_earlierPhase_self _ _⟩
  persisted := by
    intro m' hm' hnew
    exact absurd (hsub m' hm') hnew

/-- A message that puts a row in the list keeps the law exactly when both conditions hold. -/
theorem rowLaw_replaced_iff (h : MessagesListed s.messages) (hpath : tradeDmPath s.db dm = .full)
    (hreplace : shouldReplaceRow dm (inFlight s dm) = true) :
    RowLaw s (handleTradeDmForOrder ops env s dm) ↔ TableKeepsUp s dm ∧ WriteShown s dm := by
  have hmem : ∀ m, m ∈ (handleTradeDmForOrder ops env s dm).messages ↔
      (m ∈ s.messages ∧ m.orderId ≠ some dm.orderId) ∨ m = builtMessage ops env s dm := by
    intro m
    rw [handleTradeDmForOrder_messages, hpath]
    simp [hreplace, mem_sortMessages, removeOrderFromMessages]
  have hnew := builtMessage_not_mem ops env h hreplace
  constructor
  · intro hlaw
    constructor
    · cases hm : newestMessage s.messages dm.orderId with
      | none =>
        intro m st row stored hm'
        rw [hm] at hm'
        cases hm'
      | some m =>
        obtain ⟨⟨hmold, hid⟩, -⟩ := newestMessage_spec hm
        refine (tableKeepsUp_iff hm).1 fun st hst => ?_
        rw [← builtMessage_orderStatus ops env s dm]
        exact hlaw.phase m hmold _ ((hmem _).2 (.inr rfl)) hid.symm st hst
    · rw [← writeShown_iff, ← full_persisted ops env hpath,
        ← builtMessage_orderStatus ops env s dm]
      exact hlaw.persisted _ ((hmem _).2 (.inr rfl)) hnew _ rfl
  · rintro ⟨hkeeps, hshown⟩
    refine ⟨fun m hm m' hm' hid st hst => ?_, fun m' hm' hm'new id hid => ?_⟩
    · rcases (hmem m').1 hm' with ⟨hm'old, -⟩ | rfl
      · rw [h.eq_of_orderId hm hm'old hid]
        exact ⟨st, hst, not_earlierPhase_self _ _⟩
      · rw [builtMessage_orderStatus]
        exact (tableKeepsUp_iff (newestMessage_of_mem h hm hid.symm)).2 hkeeps st hst
    · rcases (hmem m').1 hm' with ⟨hm'old, -⟩ | rfl
      · exact absurd hm'old hm'new
      · obtain rfl := Option.some.inj hid
        rw [builtMessage_orderStatus, full_persisted ops env hpath]
        exact writeShown_iff.2 hshown

/-- **The law of a step** holds exactly on the messages on which the row follows the table. -/
theorem rowLaw_iff (h : MessagesListed s.messages) :
    RowLaw s (handleTradeDmForOrder ops env s dm) ↔ RowFollows s dm := by
  have hmessages := handleTradeDmForOrder_messages ops env s dm
  cases hpath : tradeDmPath s.db dm with
  | full =>
    cases hreplace : shouldReplaceRow dm (inFlight s dm) with
    | true =>
      have hno : ¬ KeepsRow s dm := by
        rw [← shouldReplaceRow_eq_false_iff, hreplace]
        exact Bool.noConfusion
      rw [rowLaw_replaced_iff h hpath hreplace]
      simp [RowFollows, hpath, hno]
    | false =>
      rw [hpath, hreplace] at hmessages
      refine iff_of_true (rowLaw_of_subset h fun m hm => ?_)
        fun _ => .inl (shouldReplaceRow_eq_false_iff.1 hreplace)
      rw [hmessages] at hm
      exact hm
  | rangeChild o | hydrateOnly =>
    rw [hpath] at hmessages
    refine iff_of_true (rowLaw_of_subset h fun m hm => ?_) fun hfull => ?_
    · rw [hmessages] at hm
      exact hm
    · rw [hpath] at hfull
      cases hfull
  | dropTake | republish =>
    rw [hpath] at hmessages
    refine iff_of_true (rowLaw_of_subset h fun m hm => ?_) fun hfull => ?_
    · rw [hmessages] at hm
      exact (List.mem_filter.1 hm).1
    · rw [hpath] at hfull
      cases hfull

end

/-! ## The law of a run -/

/-- A state without rows in the Messages list, as the program starts with. -/
def emptied (start : TradeState) : TradeState := { start with messages := [] }

theorem listed_emptied (start : TradeState) : MessagesListed (emptied start).messages :=
  ⟨List.Pairwise.nil, List.Pairwise.nil⟩

/-- The list of a run that starts without rows is as it should be. -/
theorem listed_run (ops : ChatOps) (start : TradeState) (deliveries : List Delivery) :
    MessagesListed (deliveries.foldl (delivered ops) (emptied start)).messages :=
  Run.invariant (I := fun s : TradeState => MessagesListed s.messages)
    (fun _ _ h => listed_handleTradeDmForOrder h) deliveries (listed_emptied start)

/-- **The Messages list.** In a run of trade DMs that starts without rows, the list always has one
row per order, newest first; no row goes back to an earlier phase, and every row that is put in
shows the status of the table, exactly when the row follows the table on every message. -/
theorem messages_law_iff (ops : ChatOps) (start : TradeState) (deliveries : List Delivery) :
    ((∀ before after, deliveries = before ++ after →
          MessagesListed (before.foldl (delivered ops) (emptied start)).messages) ∧
        ∀ before d after, deliveries = before ++ d :: after →
          RowLaw (before.foldl (delivered ops) (emptied start))
            (delivered ops (before.foldl (delivered ops) (emptied start)) d)) ↔
      Run.Guarded (delivered ops) (fun s d => RowFollows s d.2) (emptied start)
        deliveries := by
  have hlisted : ∀ s d, RowFollows s d.2 → MessagesListed s.messages →
      MessagesListed (delivered ops s d).messages :=
    fun _ _ _ h => listed_handleTradeDmForOrder h
  have hstep : ∀ (s : TradeState) (d : Delivery), MessagesListed s.messages →
      (RowFollows s d.2 ↔ RowLaw s (delivered ops s d)) :=
    fun _ _ h => (rowLaw_iff h).symm
  rw [Run.Guarded.iff_steps hlisted hstep (listed_emptied start)]
  exact and_iff_right fun before _ _ => listed_run ops start before

/-- A `hold-invoice-payment-accepted` whose order has no status: the column of an active order is
emptied, and its row shows it active. -/
theorem row_shows_lost_status :
    ¬ ∀ (ops : ChatOps) (start : TradeState) (deliveries : List Delivery),
      (∀ before after, deliveries = before ++ after →
          MessagesListed (before.foldl (delivered ops) (emptied start)).messages) ∧
        ∀ before d after, deliveries = before ++ d :: after →
          RowLaw (before.foldl (delivered ops) (emptied start))
            (delivered ops (before.foldl (delivered ops) (emptied start)) d) := by
  intro h
  let accepted : Delivery := (⟨0, 0⟩, dmForOrder1 .holdInvoicePaymentAccepted (some (.order {})))
  have hlaw := (h plainChatOps activeState [accepted]).2 [] accepted [] rfl
  have hrow : (builtMessage plainChatOps ⟨0, 0⟩ activeState accepted.2).orderStatus =
      some .active := rfl
  have hpersisted := hlaw.persisted (builtMessage plainChatOps ⟨0, 0⟩ activeState accepted.2)
    (by exact List.mem_singleton_self _) (by exact List.not_mem_nil) 1 rfl
  rw [hrow] at hpersisted
  cases hpersisted

end Mostrix
