import Mostrix.Orders.Status
import Mostrix.Orders.Store

/-!
# Status reconcile from the relay

`relay_order_db_reconcile.rs`: a terminal status seen on a relay order event is written to the local
row when the gate accepts it. The row is read first and written after an await, so the two halves
are separate steps here and `reconcileOneOrderIfTerminal` is one straight after the other.
-/

namespace Mostrix

/-- What the read half of a reconcile decides to write. -/
structure ReconcileWrite where
  orderId : Uuid
  status : Status
deriving DecidableEq, Repr

/-- `reconcile_one_order_if_terminal` up to the gate: the write to make, if any. -/
def reconcileRead (db : Db) (relayOrder : SmallOrder) : Option ReconcileWrite := do
  let candidateStatus ← relayOrder.status
  if !isTerminalTradeStatus candidateStatus then none
  else
    let orderId ← relayOrder.id
    let row ← Order.getById db orderId
    let kind := relayOrder.kind.or row.kind
    if shouldApplyStatusTransition row.status candidateStatus kind then
      some { orderId := orderId, status := candidateStatus }
    else none

/-- The write half. -/
def reconcileWrite (db : Db) (w : ReconcileWrite) : Db := Order.updateStatus db w.orderId w.status

/-- `reconcile_one_order_if_terminal` with nothing in between. -/
def reconcileOneOrderIfTerminal (db : Db) (relayOrder : SmallOrder) : Db :=
  match reconcileRead db relayOrder with
  | some w => reconcileWrite db w
  | none => db

/-- The read half only lets a terminal status through that the gate accepts on the row it read. -/
theorem reconcileRead_spec {db : Db} {relayOrder : SmallOrder} {w : ReconcileWrite}
    (h : reconcileRead db relayOrder = some w) :
    isTerminalTradeStatus w.status = true ∧
      ∃ row, db w.orderId = some row ∧
        shouldApplyStatusTransition row.status w.status (relayOrder.kind.or row.kind) = true := by
  unfold reconcileRead at h
  cases hs : relayOrder.status with
  | none => simp [hs] at h
  | some c =>
    cases hid : relayOrder.id with
    | none => simp [hs, hid] at h
    | some id =>
      cases hrow : db id with
      | none => simp [hs, hid, hrow, Order.getById] at h
      | some row =>
        simp only [hs, hid, hrow, Order.getById, Option.bind_eq_bind, Option.bind_some] at h
        grind

end Mostrix
