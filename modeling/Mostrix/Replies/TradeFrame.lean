import Mostrix.Replies.TakeOrder
import Mostrix.TradeDm.Row

/-!
# One trade's messages and the rows of the others

A trade DM is routed to an order, and a reply answers a request for one; the row each of them writes
should be that order's. `FrameOk` says so for one input processed for order `A`: no row and no
Messages entry of another existing order changes, and at most one new row appears.

Every write but one is addressed by the routed or requested id (`processTradeInput_db`). The
exception is `save_order`, which takes its id from the payload and overwrites a row with that id.
`Confined` names the inputs whose save stays inside the frame, and `frameOk_iff_confined` shows that
it is exact.
-/

namespace Mostrix

/-- What is processed for one order: a DM the listener routed to it, or the reply to a request. -/
inductive TradeInput
  | tradeDm (dm : TradeDm)
  | takeReply (req : TakeOrderRequest) (reply : Reply)
  | bondReply (req : BondInvoiceRequest) (reply : Reply)

/-- The order an input is routed to or was requested for. -/
def TradeInput.orderId : TradeInput → Uuid
  | .tradeDm dm => dm.orderId
  | .takeReply req _ => req.orderId
  | .bondReply req _ => req.orderId

/-- Process an input, and have the UI handle the result of a reply. -/
def processTradeInput (ops : ChatOps) (env : Env) (s : TradeState) : TradeInput → TradeState
  | .tradeDm dm => handleTradeDmForOrder ops env s dm
  | .takeReply req reply =>
    let (s, result) := processTakeOrderReply env s req reply
    handleOperationResult s (result.map some)
  | .bondReply req reply =>
    let (s, result) := operationResultFromBondInvoiceReply ops env s req reply
    handleOperationResult s result

/-- A call of `save_order`. -/
structure TradeSave where
  order : SmallOrder
  tradeKeys : Keys
  requestId : Nat
  tradeIndex : Int
  isMaker : Bool
deriving DecidableEq, Repr

namespace TradeSave

/-- The id the save writes to. -/
def target (env : Env) (save : TradeSave) : Uuid := save.order.id.getD env.freshId

/-- The row it writes. -/
def row (env : Env) (save : TradeSave) : Order :=
  Order.newRow save.order save.tradeKeys (some (asI64 save.requestId)) save.tradeIndex save.isMaker
    env

/-- The table it leaves. -/
def run (env : Env) (db : Db) (save : TradeSave) : Db :=
  saveOrder db save.order save.tradeKeys save.requestId save.tradeIndex save.isMaker env

theorem run_eq (env : Env) (db : Db) (save : TradeSave) :
    save.run env db =
      if 0 < save.tradeIndex then db.put (save.target env) (save.row env) else db :=
  saveOrder_eq ..

end TradeSave

/-- The `save_order` an input makes, if any: a range child's, a taken order's, or that of a payment
request in a bond invoice reply. -/
def tradeSave (db : Db) : TradeInput → Option TradeSave
  | .tradeDm dm =>
    match tradeDmPath db dm with
    | .rangeChild o => some ⟨o, dm.tradeKeys, dm.message.requestId.getD 0, dm.tradeIndex, true⟩
    | _ => none
  | .takeReply req reply =>
    match handleMostroResponse reply.message req.requestId with
    | .error _ => none
    | .ok message =>
      (takeOrderToSave message).map fun (o, _) =>
        ⟨normalizeTakenOrder o req.orderId, req.tradeKeys, req.requestId, req.nextIdx, false⟩
  | .bondReply req reply =>
    match handleMostroResponse reply.message req.requestId, req.dbOrder.tradeIndex with
    | .ok message, some tradeIndex =>
      (replyOrderToSave message).map fun o =>
        ⟨normalizeTakenOrder o req.orderId, req.orderTradeKeys, req.requestId, tradeIndex,
          req.dbOrder.isMine⟩
    | _, _ => none

/-- The order whose Messages row an input marks or adds from the payload's id: a take reply's that
asks for an invoice. -/
def popupTarget : TradeInput → Option Uuid
  | .takeReply req reply =>
    match handleMostroResponse reply.message req.requestId with
    | .error _ => none
    | .ok message =>
      match takeOrderToSave message with
      | some (o, true) => some (o.id.getD req.orderId)
      | _ => none
  | _ => none

/-- The frame of one input for order `A`. -/
structure FrameOk (A : Uuid) (s s' : TradeState) : Prop where
  /-- No row of another order changes; its keys, its index and its role in particular. -/
  rows : ∀ B, B ≠ A → ∀ row, s.db B = some row → s'.db B = some row
  /-- No Messages entry of another existing order changes. -/
  entries : ∀ B, B ≠ A → (s.db B).isSome ∨ HasRow s.messages B →
    (rowsOf s'.messages B).Perm (rowsOf s.messages B)
  /-- Off `A`, at most one id gets a row it did not have. -/
  created : ∃ C, ∀ B, B ≠ A → B ≠ C → s'.db B = s.db B

/-- The inputs that stay inside the frame of their order. The save, if there is one, is for the
order itself, has no valid index, goes to an id without a row, or writes the row that is there; and
a Messages row it leaves is the order's, or of an unknown order, or marked as shown already. -/
structure Confined (env : Env) (s : TradeState) (input : TradeInput) : Prop where
  save : ∀ save, tradeSave s.db input = some save →
    save.target env = input.orderId ∨ save.tradeIndex ≤ 0 ∨ s.db (save.target env) = none ∨
      s.db (save.target env) = some (save.row env)
  popup : ∀ B, popupTarget input = some B →
    B = input.orderId ∨
      if HasRow s.messages B then
        ∀ m, firstMessage s.messages B = some m → m.autoPopupShown = true
      else s.db B = none

/-! ## The writes to the order's own row -/

/-- Writes to the row of `A` and to no other, which keep the row's keys and its index. -/
structure OwnWrites (A : Uuid) (db db' : Db) : Prop where
  others : ∀ B, B ≠ A → db' B = db B
  own : ∀ row', db' A = some row' →
    ∃ row, db A = some row ∧ row'.tradeKeys = row.tradeKeys ∧ row'.tradeIndex = row.tradeIndex

theorem OwnWrites.refl (A : Uuid) (db : Db) : OwnWrites A db db :=
  ⟨fun _ _ => rfl, fun row h => ⟨row, h, rfl, rfl⟩⟩

theorem OwnWrites.modify (A : Uuid) (db : Db) {f : Order → Order}
    (hf : ∀ row, (f row).tradeKeys = row.tradeKeys ∧ (f row).tradeIndex = row.tradeIndex) :
    OwnWrites A db (db.modify A f) := by
  refine ⟨fun B hB => Table.modify_of_ne hB, fun row' h => ?_⟩
  rw [Table.modify_self] at h
  obtain ⟨row, hrow, rfl⟩ := Option.map_eq_some_iff.1 h
  exact ⟨row, hrow, hf row⟩

theorem OwnWrites.erase (A : Uuid) (db : Db) : OwnWrites A db (db.erase A) := by
  refine ⟨fun B hB => Table.erase_of_ne hB, fun row' h => ?_⟩
  rw [Table.erase_self] at h
  cases h

section
variable {ops : ChatOps} {env : Env}

variable (ops env) in
/-- Every write of an input is to the row of its order, and keeps its keys, except for the one
`save_order` it may make. -/
theorem processTradeInput_db (s : TradeState) (input : TradeInput) :
    ∃ db, OwnWrites input.orderId s.db db ∧
      (processTradeInput ops env s input).db =
        match tradeSave s.db input with
        | some save => save.run env db
        | none => db := by
  cases input with
  | tradeDm dm =>
    simp only [processTradeInput, tradeSave, handleTradeDmForOrder_db]
    cases tradeDmPath s.db dm with
    | rangeChild o => exact ⟨s.db, .refl _ _, rfl⟩
    | dropTake => exact ⟨_, .erase dm.orderId s.db, rfl⟩
    | republish =>
      refine ⟨_, ?_, rfl⟩
      rw [upsertOrderFromTradeDm_eq, Order.updateStatus, Table.modify_modify]
      exact .modify _ _ fun row =>
        ⟨(upsertRow_ownership ops env.now _ _ _ _ row).1,
          (upsertRow_ownership ops env.now _ _ _ _ row).2.1⟩
    | hydrateOnly =>
      exact ⟨_, .modify _ _ fun row =>
        ⟨(hydratedRow_ownership dm row).1, (hydratedRow_ownership dm row).2.1⟩, rfl⟩
    | full =>
      refine ⟨s.db.modify dm.orderId (finishedRow ops env s dm), .modify _ _ fun row => ?_, rfl⟩
      exact ⟨(hydratedRow_ownership dm row).1, (hydratedRow_ownership dm row).2.1⟩
  | takeReply req reply =>
    refine ⟨s.db, .refl _ _, ?_⟩
    simp only [processTradeInput, tradeSave, handleOperationResult_db, processTakeOrderReply_db]
    cases handleMostroResponse reply.message req.requestId with
    | error e => rfl
    | ok message =>
      dsimp only
      cases takeOrderToSave message with
      | none => rfl
      | some o => rfl
  | bondReply req reply =>
    simp only [processTradeInput, tradeSave, handleOperationResult_db,
      operationResultFromBondInvoiceReply_db]
    cases handleMostroResponse reply.message req.requestId with
    | error e => exact ⟨s.db, .refl _ _, rfl⟩
    | ok message =>
      cases req.dbOrder.tradeIndex with
      | none => exact ⟨s.db, .refl _ _, rfl⟩
      | some tradeIndex =>
        obtain ⟨f, hf, hframe⟩ := bondReplyStatusWrites_row ops env s.db req message
        refine ⟨s.db.modify req.orderId f,
          .modify _ _ fun row => ⟨(hframe row).2.1, (hframe row).2.2.1⟩, ?_⟩
        simp only [hf]
        cases replyOrderToSave message with
        | none => rfl
        | some o => rfl

/-- The rows of other orders stay exactly when the save is confined. -/
theorem rows_iff (s : TradeState) (input : TradeInput) :
    (∀ B, B ≠ input.orderId → ∀ row, s.db B = some row →
      (processTradeInput ops env s input).db B = some row) ↔
    ∀ save, tradeSave s.db input = some save →
      save.target env = input.orderId ∨ save.tradeIndex ≤ 0 ∨ s.db (save.target env) = none ∨
        s.db (save.target env) = some (save.row env) := by
  obtain ⟨db, ⟨hdb, -⟩, h⟩ := processTradeInput_db ops env s input
  rw [h]
  cases tradeSave s.db input with
  | none => exact iff_of_true (fun B hB row hrow => (hdb B hB).trans hrow) (by simp)
  | some save =>
    simp only [Option.some.injEq, forall_eq', TradeSave.run_eq]
    by_cases hpos : 0 < save.tradeIndex
    · have hle : ¬ save.tradeIndex ≤ 0 := by omega
      simp only [hpos, hle, if_true, false_or]
      refine ⟨?_, ?_⟩
      · intro hrows
        by_cases hself : save.target env = input.orderId
        · exact .inl hself
        · cases hT : s.db (save.target env) with
          | none => exact .inr (.inl rfl)
          | some row =>
            have := hrows (save.target env) hself row hT
            rw [Table.put_self] at this
            exact .inr (.inr this.symm)
      · intro hconf B hB row hrow
        by_cases hBT : B = save.target env
        · subst hBT
          rcases hconf with hself | hnone | hsame
          · exact absurd hself hB
          · rw [hnone] at hrow
            cases hrow
          · rw [Table.put_self, ← hsame, hrow]
        · rw [Table.put_of_ne hBT, hdb B hB, hrow]
    · have hle : save.tradeIndex ≤ 0 := by omega
      simp only [hpos, hle, if_false, true_or, or_true, iff_true]
      exact fun B hB row hrow => (hdb B hB).trans hrow

/-- Off the order, at most the save's target gets a row. -/
theorem created_le_one (s : TradeState) (input : TradeInput) :
    ∃ C, ∀ B, B ≠ input.orderId → B ≠ C →
      (processTradeInput ops env s input).db B = s.db B := by
  obtain ⟨db, ⟨hdb, -⟩, h⟩ := processTradeInput_db ops env s input
  rw [h]
  cases tradeSave s.db input with
  | none => exact ⟨0, fun B hB _ => hdb B hB⟩
  | some save =>
    refine ⟨save.target env, fun B hB hBT => ?_⟩
    simp only [TradeSave.run_eq]
    split
    · rw [Table.put_of_ne hBT, hdb B hB]
    · exact hdb B hB

/-- Marking or adding the row of an order keeps its rows exactly when its first row is marked
already. -/
theorem remember_rows_iff {messages : List OrderMessage} {m : OrderMessage} {B : Uuid}
    (hm : m.orderId = some B) :
    (rowsOf (rememberOpenInvoiceOrderMessage messages m) B).Perm (rowsOf messages B) ↔
      HasRow messages B ∧ ∀ m, firstMessage messages B = some m → m.autoPopupShown = true := by
  unfold rememberOpenInvoiceOrderMessage
  rw [hm]
  dsimp only
  by_cases h : HasRow messages B
  · simp [h, rowsOf_markShown_perm_iff]
  · simp only [h, if_false, false_and, iff_false]
    intro hperm
    have hlen := hperm.length_eq
    rw [(rowsOf_sortMessages _ B).length_eq, rowsOf_append, List.length_append] at hlen
    simp [rowsOf] at hlen

/-- Remembering an order's row keeps the entries of the existing orders other than `A` exactly when
the row is `A`'s, or marked already, or of an order that is not known. -/
theorem remember_entries_iff {s : TradeState} {m : OrderMessage} {A T : Uuid}
    (hm : m.orderId = some T) :
    (∀ B, B ≠ A → (s.db B).isSome ∨ HasRow s.messages B →
      (rowsOf (rememberOpenInvoiceOrderMessage s.messages m) B).Perm (rowsOf s.messages B)) ↔
    T = A ∨
      if HasRow s.messages T then
        ∀ m, firstMessage s.messages T = some m → m.autoPopupShown = true
      else s.db T = none := by
  refine ⟨?_, ?_⟩
  · intro h
    by_cases hself : T = A
    · exact .inl hself
    · refine .inr ?_
      split
      · next hrow => exact ((remember_rows_iff hm).1 (h T hself (.inr hrow))).2
      · next hrow =>
        by_contra hsome
        have hT := h T hself (.inl (Option.isSome_iff_ne_none.2 hsome))
        exact hrow ((remember_rows_iff hm).1 hT).1
  · intro hconf B hB hexists
    by_cases hBT : B = T
    · subst hBT
      have hconf := hconf.resolve_left hB
      split at hconf
      · next hrow => exact (remember_rows_iff hm).2 ⟨hrow, hconf⟩
      · next hrow =>
        rcases hexists with hsome | hrow'
        · rw [hconf] at hsome
          cases hsome
        · exact absurd hrow' hrow
    · refine rowsOf_rememberOpenInvoiceOrderMessage ?_
      rw [hm]
      exact fun h => hBT (Option.some.inj h).symm

/-- The Messages entries of other existing orders stay exactly when the popup is confined. -/
theorem entries_iff (s : TradeState) (input : TradeInput) :
    (∀ B, B ≠ input.orderId → (s.db B).isSome ∨ HasRow s.messages B →
      (rowsOf (processTradeInput ops env s input).messages B).Perm (rowsOf s.messages B)) ↔
    ∀ B, popupTarget input = some B →
      B = input.orderId ∨
        if HasRow s.messages B then
          ∀ m, firstMessage s.messages B = some m → m.autoPopupShown = true
        else s.db B = none := by
  cases input with
  | tradeDm dm =>
    refine iff_of_true (fun B hB _ => handleTradeDmForOrder_rowsOf hB) ?_
    intro B h
    cases h
  | bondReply req reply =>
    refine iff_of_true (fun B hB _ => ?_) (by intro B h; cases h)
    have hmsgs := operationResultFromBondInvoiceReply_messages ops env s req reply
    have hid := operationResultFromBondInvoiceReply_popup ops env s req reply
    simp only [processTradeInput]
    unfold handleOperationResult
    split
    · next n m hres =>
      rw [← hmsgs]
      refine rowsOf_rememberOpenInvoiceOrderMessage ?_
      rw [hid n m hres]
      exact fun h => hB (Option.some.inj h).symm
    · exact .of_eq (by rw [hmsgs])
  | takeReply req reply =>
    simp only [processTradeInput, processTakeOrderReply_messages, popupTarget, TradeInput.orderId]
    cases handleMostroResponse reply.message req.requestId with
    | error e => simp
    | ok message =>
      dsimp only
      cases takeOrderToSave message with
      | none => simp
      | some save =>
        obtain ⟨o, popup⟩ := save
        cases popup with
        | false => simp
        | true =>
          have hm : (takeAddInvoiceMessage reply (normalizeTakenOrder o req.orderId)
              req.nextIdx).orderId = some (o.id.getD req.orderId) := rfl
          simpa using remember_entries_iff (s := s) (A := req.orderId) hm

/-- **The frame.** An input processed for an order stays inside the order's frame exactly when it is
confined. -/
theorem frameOk_iff_confined (s : TradeState) (input : TradeInput) :
    FrameOk input.orderId s (processTradeInput ops env s input) ↔ Confined env s input := by
  refine ⟨?_, ?_⟩
  · intro h
    exact ⟨(rows_iff s input).1 h.rows, (entries_iff s input).1 h.entries⟩
  · intro h
    exact ⟨(rows_iff s input).2 h.save, (entries_iff s input).2 h.popup, created_le_one s input⟩

end

/-- A row of another trade. -/
def otherRow : Order where
  id := 2
  status := some .active
  tradeKeys := some "k2"
  tradeIndex := some 2
  isMine := true

/-- The reply to a take of order 1 whose order has the id of another trade overwrites that trade's
row, its keys included, so the frame fails. -/
theorem frameOk_fails_on_foreign_id :
    ¬ ∀ (ops : ChatOps) (env : Env) (s : TradeState) (input : TradeInput),
      FrameOk input.orderId s (processTradeInput ops env s input) := by
  intro h
  let req : TakeOrderRequest :=
    { orderId := 1, requestId := 7, nextIdx := 5, tradeKeys := ⟨"k5", "p5"⟩ }
  let message : MessageKind :=
    { requestId := some 7, action := .addInvoice, payload := some (.order { id := some 2 }) }
  have hrows := (h plainChatOps ⟨0, 0⟩ { db := Table.empty.put 2 otherRow }
    (.takeReply req ⟨message, 10, "mostro"⟩)).rows
  have hrow := hrows 2 (by decide) otherRow rfl
  have hkeys : (some otherRow : Option Order).bind (·.tradeKeys) = some "k5" := by
    rw [← hrow]
    rfl
  exact absurd hkeys (by decide)

end Mostrix
