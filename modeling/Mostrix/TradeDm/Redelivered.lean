import Mostrix.TradeDm.StatusStep
import Mostrix.TradeDm.StatusView

/-!
# A trade DM that is delivered again

Relays deliver a message any number of times, and `handle_trade_dm_for_order` keeps no list of what
it has handled: what it knows of the past is the order's row and the newest row of the Messages
list. Its comments count "a truly new message" only and keep "older stale replay messages" from the
row, and both are decided by comparing the message with that one row. `Settled` says of a state what
these comparisons come to, and `redelivered_idle_iff` that the messages of a run that were delivered
before leave the statuses, the list and the counter alone exactly where it holds. A message that is
no longer the newest row's is mostly not settled: another action counts as new, whatever its time.
-/

namespace Mostrix

/-- A delivery: a message, with the clock and the ids of its moment. -/
abbrev Delivery := Env × TradeDm

/-- The state after a delivery. -/
def delivered (ops : ChatOps) (s : TradeState) (d : Delivery) : TradeState :=
  handleTradeDmForOrder ops d.1 s d.2

/-- The message is one of those delivered before; whether to notify is not part of it. -/
def IsRedelivery (before : List Delivery) (dm : TradeDm) : Prop :=
  ∃ d ∈ before, { d.2 with notify := dm.notify } = dm

/-- Nothing the user sees of a message has changed: the status column of every order, the Messages
list, and the number of pending notifications. -/
structure Unchanged (s s' : TradeState) : Prop where
  status : ∀ id, (s'.db id).map (·.status) = (s.db id).map (·.status)
  messages : s'.messages = s.messages
  pending : s'.pendingNotifications = s.pendingNotifications

/-- The newest row stands against the message: a `new-order` replaces the row of no other action, an
equal one replaces nothing, and an older one only a row whose status it strictly advances. -/
def KeepsRow (s : TradeState) (dm : TradeDm) : Prop :=
  ∃ m, newestMessage s.messages dm.orderId = some m ∧
    (dm.message.action = .newOrder ∧ m.message.action ≠ .newOrder ∨
      m.timestamp = dm.timestamp ∧ m.message.action = dm.message.action ∨
      dm.timestamp < m.timestamp ∧ ∀ c, statusCandidate dm.message = some c →
        shouldStrictlyAdvanceStatus m.orderStatus c (gateKind s dm) = false)

/-- No notification is sent: the caller wants none, there is nothing to act on, or the newest row
has the message's action and is not older. -/
def Quiet (s : TradeState) (dm : TradeDm) : Prop :=
  dm.notify = false ∨ isActionableNotification dm.message.action dm.message.payload = false ∨
    ∃ m, newestMessage s.messages dm.orderId = some m ∧
      m.message.action = dm.message.action ∧ dm.timestamp ≤ m.timestamp

/-- The status column stays as it is: the gate accepts no status but the one it compares with, and
an upserted order has the row's status, or a rejection restores it. -/
def KeepsStatus (s : TradeState) (dm : TradeDm) : Prop :=
  ∀ row, s.db dm.orderId = some row →
    (∀ c, statusCandidate dm.message = some c →
      shouldApplyStatusTransition (baselineStatus (inFlight s dm)) c (gateKind s dm) = true →
        baselineStatus (inFlight s dm) = some c) ∧
    (upsertedStatus dm row.status = row.status ∨
      ∃ c st, statusCandidate dm.message = some c ∧ row.status = some st ∧
        shouldApplyStatusTransition (some st) c (gateKind s dm) = false)

/-- What a state must be like for a message to change nothing in it, for each way. -/
def Settled (env : Env) (s : TradeState) (dm : TradeDm) : Prop :=
  match tradeDmPath s.db dm with
  | .rangeChild o =>
    dm.tradeIndex ≤ 0 ∨
      ∃ row, s.db (o.id.getD env.freshId) = some row ∧ row.status = some .pending
  | .dropTake => False
  | .republish =>
    (∃ row, s.db dm.orderId = some row ∧ row.status = some .pending) ∧
      ¬ HasRow s.messages dm.orderId
  | .hydrateOnly =>
    ∀ row, s.db dm.orderId = some row → upsertedStatus dm row.status = row.status
  | .full => KeepsRow s dm ∧ Quiet s dm ∧ KeepsStatus s dm

section
variable {ops : ChatOps} {env : Env} {s : TradeState} {dm : TradeDm}

/-! ## The Messages list and the counter -/

theorem inFlight_prior :
    (inFlight s dm).prior =
      (newestMessage s.messages dm.orderId).map PriorMessageSnapshot.ofMessage := rfl

/-- The row is kept exactly when the newest row stands against the message. -/
theorem shouldReplaceRow_eq_false_iff :
    shouldReplaceRow dm (inFlight s dm) = false ↔ KeepsRow s dm := by
  have hcandidate : (inFlight s dm).statusCandidate = statusCandidate dm.message := rfl
  unfold shouldReplaceRow KeepsRow
  rw [inFlight_prior, hcandidate]
  cases newestMessage s.messages dm.orderId with
  | none => simp
  | some m =>
    simp only [Option.map_some, PriorMessageSnapshot.ofMessage, Option.some.injEq,
      exists_eq_left']
    by_cases hregress : newOrderWouldRegressMessagesRow dm.message.action m.message.action = true
    · rw [if_pos hregress]
      refine iff_of_true rfl (.inl ?_)
      simpa [newOrderWouldRegressMessagesRow] using hregress
    · rw [if_neg hregress]
      have hno : ¬ (dm.message.action = .newOrder ∧ m.message.action ≠ .newOrder) := by
        simpa [newOrderWouldRegressMessagesRow] using hregress
      rcases lt_trichotomy m.timestamp dm.timestamp with hlt | heq | hgt
      · have hne : ¬ m.timestamp = dm.timestamp := by omega
        have hnot : ¬ dm.timestamp < m.timestamp := by omega
        simp [hlt, hne, hnot, hno]
      · rw [if_neg (by omega), if_pos heq.symm, decide_eq_false_iff_not, not_not]
        constructor
        · intro haction
          exact .inr (.inl ⟨heq, haction.symm⟩)
        · rintro (hnew | ⟨-, haction⟩ | ⟨holder, -⟩)
          · exact absurd hnew hno
          · exact haction.symm
          · omega
      · have hne : ¬ m.timestamp = dm.timestamp := by omega
        have hne' : ¬ dm.timestamp = m.timestamp := by omega
        have hnot : ¬ m.timestamp < dm.timestamp := by omega
        simp only [hnot, hne', hne, hno, hgt, if_false, false_and, true_and, false_or]
        cases statusCandidate dm.message with
        | none => simp
        | some c =>
          simp only [Option.map_some, Option.getD_some, Option.some.injEq, forall_eq']
          exact Iff.rfl

/-- No notification is sent exactly when the message is quiet. -/
theorem sendsNotification_eq_false_iff :
    sendsNotification dm (inFlight s dm) = false ↔ Quiet s dm := by
  unfold sendsNotification Quiet isNewMessage
  rw [inFlight_prior]
  cases newestMessage s.messages dm.orderId with
  | none => cases dm.notify <;> simp
  | some m =>
    by_cases haction : dm.message.action = m.message.action
    · cases dm.notify <;> cases isActionableNotification dm.message.action dm.message.payload <;>
        simp [PriorMessageSnapshot.ofMessage, haction]
    · have haction' : ¬ m.message.action = dm.message.action := fun h => haction h.symm
      cases dm.notify <;> cases isActionableNotification dm.message.action dm.message.payload <;>
        simp [PriorMessageSnapshot.ofMessage, haction, haction']

/-- A row that is replaced leaves another list. -/
theorem replaced_ne (h : shouldReplaceRow dm (inFlight s dm) = true) :
    sortMessages (removeOrderFromMessages s.messages dm.orderId ++ [builtMessage ops env s dm]) ≠
      s.messages := by
  intro hsame
  have hnewest : newestMessage s.messages dm.orderId = some (builtMessage ops env s dm) := by
    rw [← hsame]
    exact newestMessage_of_rowsOf (rowsOf_replaced rfl)
  -- so the newest row would be the message's own, and against that one it does not stand
  have hkeeps : KeepsRow s dm := ⟨_, hnewest, .inr (.inl ⟨rfl, rfl⟩)⟩
  rw [shouldReplaceRow_eq_false_iff.2 hkeeps] at h
  cases h

/-! ## The status column -/

/-- Off the range child's way, only the routed order's status can change. -/
theorem statuses_iff_of_path (hpath : ∀ o, tradeDmPath s.db dm ≠ .rangeChild o) :
    (∀ id, ((handleTradeDmForOrder ops env s dm).db id).map (·.status) =
        (s.db id).map (·.status)) ↔
      leftStatus env dm (statusView s dm) = (s.db dm.orderId).map (·.status) := by
  constructor
  · intro h
    rw [← handleTradeDmForOrder_leftStatus ops]
    exact h dm.orderId
  · intro h id
    by_cases hid : id = dm.orderId
    · subst hid
      rw [handleTradeDmForOrder_leftStatus ops]
      exact h
    · rw [handleTradeDmForOrder_db_of_ne hid hpath]

/-- The gated write leaves the status of a row as it was: nothing but what the gate compares with is
accepted, and the upsert has left it, or it is restored. -/
theorem gated_eq_iff {v : StatusView} {status : Option Status}
    (hbaseline : ∀ st, status = some st → v.baseline = some st) :
    v.gated dm status = status ↔
      (∀ c, statusCandidate dm.message = some c →
        shouldApplyStatusTransition v.baseline c v.kind = true → v.baseline = some c) ∧
      (upsertedStatus dm status = status ∨
        ∃ c st, statusCandidate dm.message = some c ∧ status = some st ∧
          shouldApplyStatusTransition (some st) c v.kind = false) := by
  unfold StatusView.gated
  cases statusCandidate dm.message with
  | none => simp
  | some c =>
    simp only [Option.some.injEq, forall_eq', exists_and_left, exists_eq_left']
    cases hgate : shouldApplyStatusTransition v.baseline c v.kind with
    | true =>
      have hrestores : ¬ ∃ st, status = some st ∧
          shouldApplyStatusTransition (some st) c v.kind = false := by
        rintro ⟨st, hst, hrejects⟩
        rw [← hbaseline st hst, hgate] at hrejects
        cases hrejects
      by_cases hsame : v.baseline = some c
      · simp [hsame, hrestores]
      · -- an accepted status is written, and it is not the row's
        have hne : ¬ some c = status := fun h => hsame (hbaseline c h.symm)
        simp [hsame, hne]
    | false =>
      cases status with
      | none => simp
      | some st =>
        rw [hbaseline st rfl] at hgate
        simp [hgate]

/-- A row with a status is what the gate compares with. -/
theorem baseline_of_stored {row : Order} (hrow : s.db dm.orderId = some row) (st : Status)
    (hst : row.status = some st) : (statusView s dm).baseline = some st := by
  simp [statusView, baselineStatus, inFlight, hrow, hst]

/-- The status column of the generic ways. -/
theorem keepsStatus_iff :
    KeepsStatus s dm ↔
      ((s.db dm.orderId).map fun row => (statusView s dm).gated dm row.status) =
        (s.db dm.orderId).map (·.status) := by
  unfold KeepsStatus
  cases hrow : s.db dm.orderId with
  | none => simp
  | some row =>
    simp only [Option.some.injEq, forall_eq', Option.map_some]
    exact (gated_eq_iff (baseline_of_stored hrow)).symm

/-- A range child changes a status unless its listing is there already. -/
theorem rangeChild_statuses_iff {o : SmallOrder} (hpath : tradeDmPath s.db dm = .rangeChild o) :
    (∀ id, ((handleTradeDmForOrder ops env s dm).db id).map (·.status) =
        (s.db id).map (·.status)) ↔
      dm.tradeIndex ≤ 0 ∨
        ∃ row, s.db (o.id.getD env.freshId) = some row ∧ row.status = some .pending := by
  obtain ⟨-, -, -, hpending⟩ := tradeDmPath_taken hpath
  rw [handleTradeDmForOrder_db, hpath]
  dsimp only
  rw [saveOrder_eq]
  by_cases hindex : 0 < dm.tradeIndex
  · have hno : ¬ dm.tradeIndex ≤ 0 := by omega
    rw [if_pos hindex]
    constructor
    · intro h
      have hchild := h (o.id.getD env.freshId)
      rw [Table.put_self, Option.map_some] at hchild
      obtain ⟨row, hrow, hstatus⟩ := Option.map_eq_some_iff.1 hchild.symm
      exact .inr ⟨row, hrow, hstatus.trans hpending⟩
    · rintro (hle | ⟨row, hrow, hstatus⟩)
      · exact absurd hle hno
      · intro id
        by_cases hid : id = o.id.getD env.freshId
        · subst hid
          rw [Table.put_self, hrow, Option.map_some, Option.map_some, hstatus]
          exact congrArg some hpending
        · rw [Table.put_of_ne hid]
  · rw [if_neg hindex]
    exact iff_of_true (fun _ => rfl) (.inl (by omega))

/-- A take that is dropped has a row. -/
theorem row_of_dropTake (hpath : tradeDmPath s.db dm = .dropTake) :
    ∃ row, s.db dm.orderId = some row := by
  cases hrow : s.db dm.orderId with
  | some row => exact ⟨row, rfl⟩
  | none =>
    unfold tradeDmPath at hpath
    rw [hrow] at hpath
    cases hlisted : if dm.message.action = .newOrder then
        smallOrderPendingFromNewOrderPayload dm.message.payload else none with
    | some o =>
      rw [hlisted] at hpath
      cases hpath
    | none =>
      rw [hlisted] at hpath
      have hcancel : isPreActiveTakerCancel none dm.message = false := by
        simp [isPreActiveTakerCancel]
      dsimp only at hpath
      rw [hcancel, if_neg Bool.false_ne_true] at hpath
      split at hpath <;> cases hpath

/-- Removing the rows of an order without rows leaves the list. -/
theorem removeOrderFromMessages_eq_self_iff {messages : List OrderMessage} {id : Uuid} :
    removeOrderFromMessages messages id = messages ↔ ¬ HasRow messages id := by
  unfold removeOrderFromMessages HasRow
  rw [List.filter_eq_self]
  simp

/-! ## A state in which a message changes nothing -/

/-- On the full way the list is as before exactly when the row is kept. -/
theorem messages_unchanged_iff (hpath : tradeDmPath s.db dm = .full) :
    (handleTradeDmForOrder ops env s dm).messages = s.messages ↔ KeepsRow s dm := by
  rw [handleTradeDmForOrder_messages, hpath, ← shouldReplaceRow_eq_false_iff]
  cases hreplace : shouldReplaceRow dm (inFlight s dm) with
  | true => simpa using replaced_ne hreplace
  | false => simp

/-- On the full way the counter is as before exactly when the message is quiet. -/
theorem pending_unchanged_iff (hpath : tradeDmPath s.db dm = .full) :
    (handleTradeDmForOrder ops env s dm).pendingNotifications = s.pendingNotifications ↔
      Quiet s dm := by
  rw [handleTradeDmForOrder_pendingNotifications, hpath, ← sendsNotification_eq_false_iff]
  cases sendsNotification dm (inFlight s dm) <;> simp

/-- The other ways do not touch the counter. -/
theorem pending_unchanged_of_path (hpath : tradeDmPath s.db dm ≠ .full) :
    (handleTradeDmForOrder ops env s dm).pendingNotifications = s.pendingNotifications := by
  rw [handleTradeDmForOrder_pendingNotifications, if_neg fun h => hpath h.1]

/-- On the full way the statuses are as before exactly when the routed order's is kept. -/
theorem full_statuses_iff (hpath : tradeDmPath s.db dm = .full) :
    (∀ id, ((handleTradeDmForOrder ops env s dm).db id).map (·.status) =
        (s.db id).map (·.status)) ↔ KeepsStatus s dm := by
  rw [statuses_iff_of_path (by simp [hpath]), leftStatus, ← tradeDmPath_eq_path, hpath,
    keepsStatus_iff]
  simp only [statusView, Option.map_map, Function.comp_def]

/-- A message changes nothing exactly in a settled state. -/
theorem unchanged_iff :
    Unchanged s (handleTradeDmForOrder ops env s dm) ↔ Settled env s dm := by
  have hparts : Unchanged s (handleTradeDmForOrder ops env s dm) ↔
      (∀ id, ((handleTradeDmForOrder ops env s dm).db id).map (·.status) =
          (s.db id).map (·.status)) ∧
        (handleTradeDmForOrder ops env s dm).messages = s.messages ∧
          (handleTradeDmForOrder ops env s dm).pendingNotifications = s.pendingNotifications :=
    ⟨fun h => ⟨h.status, h.messages, h.pending⟩, fun h => ⟨h.1, h.2.1, h.2.2⟩⟩
  have hmessages := handleTradeDmForOrder_messages ops env s dm
  rw [hparts]
  unfold Settled
  cases hpath : tradeDmPath s.db dm with
  | rangeChild o =>
    rw [hpath] at hmessages
    rw [rangeChild_statuses_iff hpath, pending_unchanged_of_path (by simp [hpath]), hmessages]
    simp
  | dropTake =>
    obtain ⟨row, hrow⟩ := row_of_dropTake hpath
    rw [statuses_iff_of_path (by simp [hpath]), leftStatus, ← tradeDmPath_eq_path, hpath, hrow]
    simp
  | republish =>
    rw [hpath] at hmessages
    rw [statuses_iff_of_path (by simp [hpath]), leftStatus, ← tradeDmPath_eq_path, hpath,
      pending_unchanged_of_path (by simp [hpath]), hmessages]
    simp only [removeOrderFromMessages_eq_self_iff, and_true]
    refine and_congr_left fun _ => ?_
    rw [eq_comm, Option.map_eq_some_iff]
  | hydrateOnly =>
    rw [hpath] at hmessages
    rw [statuses_iff_of_path (by simp [hpath]), leftStatus, ← tradeDmPath_eq_path, hpath,
      pending_unchanged_of_path (by simp [hpath]), hmessages]
    simp only [statusView, Option.map_map, and_true]
    cases s.db dm.orderId <;> simp
  | full =>
    rw [full_statuses_iff hpath, messages_unchanged_iff hpath, pending_unchanged_iff hpath]
    exact and_rotate

/-- A message whose row is in the list is recognised when it comes again at once: it replaces no row
and sends no notification. -/
theorem recognised_at_once (hpath : tradeDmPath s.db dm = .full)
    (hreplace : shouldReplaceRow dm (inFlight s dm) = true) :
    KeepsRow (handleTradeDmForOrder ops env s dm) dm ∧
      Quiet (handleTradeDmForOrder ops env s dm) dm := by
  have hmessages : (handleTradeDmForOrder ops env s dm).messages =
      sortMessages (removeOrderFromMessages s.messages dm.orderId ++
        [builtMessage ops env s dm]) := by
    rw [handleTradeDmForOrder_messages, hpath]
    exact if_pos hreplace
  have hnewest : newestMessage (handleTradeDmForOrder ops env s dm).messages dm.orderId =
      some (builtMessage ops env s dm) := by
    rw [hmessages]
    exact newestMessage_of_rowsOf (rowsOf_replaced rfl)
  exact ⟨⟨_, hnewest, .inr (.inl ⟨rfl, rfl⟩)⟩, .inr (.inr ⟨_, hnewest, rfl, le_refl _⟩)⟩

end

/-- **Redelivery.** In a run of trade DMs, those that were delivered before change no status, no row
and no counter exactly where the state they find is settled. -/
theorem redelivered_idle_iff (ops : ChatOps) (start : TradeState) (deliveries : List Delivery) :
    (∀ before d after, deliveries = before ++ d :: after → IsRedelivery before d.2 →
        Unchanged (before.foldl (delivered ops) start)
          (delivered ops (before.foldl (delivered ops) start) d)) ↔
      ∀ before d after, deliveries = before ++ d :: after → IsRedelivery before d.2 →
        Settled d.1 (before.foldl (delivered ops) start) d.2 := by
  constructor
  · intro h before d after hrun hagain
    exact unchanged_iff.1 (h before d after hrun hagain)
  · intro h before d after hrun hagain
    exact unchanged_iff.2 (h before d after hrun hagain)

/-- `fiat-sent-ok`, then `released`, then the first again: it is older than the row of `released`
and has another action, and is counted again. -/
theorem redelivered_counts_again :
    ¬ ∀ (ops : ChatOps) (start : TradeState) (deliveries before : List Delivery) (d : Delivery)
      (after : List Delivery), deliveries = before ++ d :: after → IsRedelivery before d.2 →
        Unchanged (before.foldl (delivered ops) start)
          (delivered ops (before.foldl (delivered ops) start) d) := by
  intro h
  let sent : Delivery := (⟨0, 0⟩, dmForOrder1 .fiatSentOk none)
  let released : Delivery := (⟨0, 0⟩, { dmForOrder1 .released none with timestamp := 20 })
  have hagain : IsRedelivery [sent, released] sent.2 := ⟨sent, by simp, rfl⟩
  have hcount := (h plainChatOps activeState _ [sent, released] sent [] rfl hagain).pending
  revert hcount
  decide

end Mostrix
