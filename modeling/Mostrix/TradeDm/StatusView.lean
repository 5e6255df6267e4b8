import Mostrix.TradeDm.StatusStep

/-!
# What the status a trade DM leaves depends on

The status that one call of `handle_trade_dm_for_order` leaves on the routed order is a function of
the message and of a small part of the state, its `StatusView`: the status and the role of the
order's row, the status the gate compares with, and the listing kind it is asked with. `leftStatus`
is that function and `handleTradeDmForOrder_leftStatus` says so. Of the rest of the state, the other
orders, the Messages list and the row's other columns, the status does not depend on anything.
-/

namespace Mostrix

/-- What the handler reads for the status column of the routed order. -/
structure StatusView where
  /-- The status and the role of the row, where there is one. -/
  row : Option (Option Status × Bool)
  /-- The status the gate compares with. -/
  baseline : Option Status
  /-- The listing kind the gate is asked with. -/
  kind : Option Kind
deriving DecidableEq, Repr

/-- The view of a state. -/
def statusView (s : TradeState) (dm : TradeDm) : StatusView where
  row := (s.db dm.orderId).map fun row => (row.status, row.isMine)
  baseline := baselineStatus (inFlight s dm)
  kind := gateKind s dm

/-- A row before the trade is active. -/
def isPreActiveRow (status : Option Status) : Bool := (status.map isPreActiveStatus).getD false

/-- The way a message takes. -/
def StatusView.path (v : StatusView) (dm : TradeDm) : TradeDmPath :=
  let hydrate := if isEmptyPay dm.message then .hydrateOnly else .full
  match if dm.message.action = .newOrder then
      smallOrderPendingFromNewOrderPayload dm.message.payload else none, v.row with
  | none, none => hydrate
  | none, some (status, isMine) =>
    if dm.message.action = .canceled && dm.message.payload.isNone &&
        (!isMine && isPreActiveRow status) then .dropTake
    else hydrate
  | some o, none => .rangeChild o
  | some _, some (status, isMine) =>
    if !isMine && isPreActiveRow status then .dropTake
    else if isMine && isPreActiveRow status then .republish
    else hydrate

/-- The status after the generic upsert. -/
def upsertedStatus (dm : TradeDm) (status : Option Status) : Option Status :=
  match upsertedOrder dm with
  | some o => o.status
  | none => status

/-- The status after the gated write, from the one before the message. -/
def StatusView.gated (v : StatusView) (dm : TradeDm) (status : Option Status) : Option Status :=
  match statusCandidate dm.message with
  | none => upsertedStatus dm status
  | some candidate =>
    if shouldApplyStatusTransition v.baseline candidate v.kind then
      if v.baseline ≠ some candidate then some candidate else upsertedStatus dm status
    else status.or (upsertedStatus dm status)

/-- The status column a message leaves, `none` where there is no row. -/
def leftStatus (env : Env) (dm : TradeDm) (v : StatusView) : Option (Option Status) :=
  match v.path dm with
  | .rangeChild o =>
    -- the child may be the routed order itself
    if 0 < dm.tradeIndex ∧ o.id.getD env.freshId = dm.orderId then some o.status else none
  | .dropTake => none
  | .republish => some (some .pending)
  | .hydrateOnly => v.row.map fun row => upsertedStatus dm row.1
  | .full => v.row.map fun row => v.gated dm row.1

section
variable {ops : ChatOps} {env : Env}

/-- The handler takes the way of its view. -/
theorem tradeDmPath_eq_path (s : TradeState) (dm : TradeDm) :
    tradeDmPath s.db dm = (statusView s dm).path dm := by
  unfold tradeDmPath StatusView.path statusView isPreActiveTakerCancel isPreActiveTakerTake
    isPreActiveMakerListing isPreActiveRow
  cases if dm.message.action = .newOrder then
      smallOrderPendingFromNewOrderPayload dm.message.payload else none with
  | none => cases s.db dm.orderId <;> simp
  | some o => cases s.db dm.orderId <;> rfl

/-- The gated write, on the view. -/
theorem gatedStatus_eq_gated {s : TradeState} {dm : TradeDm} {row : Order}
    (hrow : s.db dm.orderId = some row) :
    gatedStatus dm (inFlight s dm) (upsertedStatus dm row.status) =
      (statusView s dm).gated dm row.status := by
  have hstored : (inFlight s dm).dbOrder.bind (·.status) = row.status := by simp [inFlight, hrow]
  have hcandidate : (inFlight s dm).statusCandidate = statusCandidate dm.message := rfl
  unfold gatedStatus StatusView.gated shouldAcceptCandidate
  rw [hstored, hcandidate]
  cases statusCandidate dm.message <;> rfl

variable (ops) in
/-- **The status a message leaves** is a function of its view. -/
theorem handleTradeDmForOrder_leftStatus (s : TradeState) (dm : TradeDm) :
    ((handleTradeDmForOrder ops env s dm).db dm.orderId).map (·.status) =
      leftStatus env dm (statusView s dm) := by
  rw [handleTradeDmForOrder_db]
  unfold leftStatus
  rw [← tradeDmPath_eq_path]
  cases hpath : tradeDmPath s.db dm with
  | rangeChild o =>
    obtain ⟨hrow, -, -, -⟩ := tradeDmPath_taken hpath
    dsimp only
    rw [saveOrder_eq]
    by_cases hindex : 0 < dm.tradeIndex
    · rw [if_pos hindex]
      by_cases hid : o.id.getD env.freshId = dm.orderId
      · rw [if_pos ⟨hindex, hid⟩, hid, Table.put_self]
        rfl
      · rw [if_neg fun h => hid h.2, Table.put_of_ne (Ne.symm hid), hrow]
        rfl
    · rw [if_neg hindex, if_neg fun h => hindex h.1, hrow]
      rfl
  | dropTake => simp
  | republish =>
    obtain ⟨-, -, row, hrow, -⟩ := tradeDmPath_taken hpath
    obtain ⟨row', hrow', hpending⟩ := republish_row ops env hrow
    dsimp only
    rw [hrow', Option.map_some, hpending]
  | hydrateOnly =>
    simp only [Table.modify_self, Option.map_map, statusView]
    refine Option.map_congr fun row _ => ?_
    exact hydratedRow_status ops env dm row
  | full =>
    simp only [Table.modify_self, Option.map_map, statusView]
    refine Option.map_congr fun row hrow => ?_
    calc (finishedRow ops env s dm row).status
        = gatedStatus dm (inFlight s dm) (hydratedRow ops env dm row).status := rfl
      _ = gatedStatus dm (inFlight s dm) (upsertedStatus dm row.status) := by
        rw [hydratedRow_status ops env dm row]
        rfl
      _ = (statusView s dm).gated dm row.status := gatedStatus_eq_gated hrow

end

/-- The message decides the status: the whole handler runs on a row with a status, the gate accepts
what the message implies, and an order that is upserted has that status. -/
def Decides (s : TradeState) (dm : TradeDm) (c : Status) : Prop :=
  tradeDmPath s.db dm = .full ∧ statusCandidate dm.message = some c ∧
    (∀ o, upsertedOrder dm = some o → o.status = some c) ∧
    ∃ row st, s.db dm.orderId = some row ∧ row.status = some st ∧
      shouldApplyStatusTransition (some st) c (gateKind s dm) = true

/-- What decides the status is the status. -/
theorem leftStatus_of_decides {env : Env} {s : TradeState} {dm : TradeDm} {c : Status}
    (h : Decides s dm c) : leftStatus env dm (statusView s dm) = some (some c) := by
  obtain ⟨hpath, hcandidate, hupsert, row, st, hrow, hst, hgate⟩ := h
  have hupserted : st = c → upsertedStatus dm (some st) = some c := by
    rintro rfl
    unfold upsertedStatus
    split
    · rename_i o ho
      exact hupsert o ho
    · rfl
  have hview : (statusView s dm).row = some (some st, row.isMine) := by
    simp [statusView, hrow, hst]
  have hbaseline : (statusView s dm).baseline = some st := by
    simp [statusView, baselineStatus, inFlight, hrow, hst]
  have hkind : (statusView s dm).kind = gateKind s dm := rfl
  unfold leftStatus
  rw [← tradeDmPath_eq_path, hpath]
  dsimp only
  rw [hview, Option.map_some]
  unfold StatusView.gated
  rw [hcandidate, hbaseline, hkind]
  dsimp only
  rw [if_pos hgate]
  split
  · rfl
  · rename_i heq
    have hsame : st = c := Option.some.inj (not_not.1 heq)
    rw [hupserted hsame]

end Mostrix
