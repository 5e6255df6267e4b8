import Mostrix.Protocol.Message

/-!
# Status inference and the transition gate

`util/order_utils/helper.rs`: the status a trade DM implies (`mapActionToStatus`), the phase rank of
a status for a listing kind, and the gate `shouldApplyStatusTransition` every guarded status write
asks. The gate's documentation promises two things, and both are proved here of the gate itself:
terminal statuses are sticky (`shouldApplyStatusTransition_terminal`), and an accepted step never
lowers the phase rank (`shouldApplyStatusTransition_rank_le`). Whether the *writes* go through the
gate is another matter, and is what the modules on the order row are about.
-/

namespace Mostrix

/-- `inferred_status_from_trade_action`: the status an action implies without an order payload. -/
def inferredStatusFromTradeAction : Action → Option Status
  | .canceled => some .canceled
  | .cooperativeCancelAccepted => some .cooperativelyCanceled
  | .waitingBuyerInvoice | .addInvoice => some .waitingBuyerInvoice
  | .waitingSellerToPay | .payInvoice => some .waitingPayment
  | .payBondInvoice => some .waitingTakerBond
  | .adminCanceled => some .canceledByAdmin
  | .fiatSentOk => some .fiatSent
  | .release | .released | .holdInvoicePaymentSettled | .purchaseCompleted => some .success
  | _ => none

/-- `map_action_to_status`: the order's own status when it has one, else the action's. -/
def mapActionToStatus (action : Action) (order : SmallOrder) : Option Status :=
  match order.status with
  | some status => some status
  | none => inferredStatusFromTradeAction action

/-- `status_phase_rank_for_actor`: the phase of a status on a listing of the given kind. -/
def statusPhaseRankForActor (status : Status) (kind : Option Kind) : Option Nat :=
  match status with
  | .pending | .waitingTakerBond | .waitingMakerBond => some 0
  | .waitingPayment =>
    match kind with
    | some .buy => some 1
    | some .sell => some 2
    | none => none
  | .waitingBuyerInvoice | .settledHoldInvoice =>
    match kind with
    | some .buy => some 2
    | some .sell => some 1
    | none => none
  | .inProgress | .active => some 3
  | .fiatSent => some 4
  | .success => some 5
  | _ => none

/-- `is_terminal_trade_status`. -/
def isTerminalTradeStatus : Status → Bool
  | .canceled | .canceledByAdmin | .settledByAdmin | .completedByAdmin | .expired
  | .cooperativelyCanceled | .success => true
  | _ => false

/-- `should_apply_status_transition`: the gate on status writes. -/
def shouldApplyStatusTransition (current : Option Status) (candidate : Status)
    (kind : Option Kind) : Bool :=
  match current with
  | none => true
  | some current =>
    if current = candidate then true
    else if isTerminalTradeStatus current then false
    else if isTerminalTradeStatus candidate then true
    else
      match statusPhaseRankForActor current kind, statusPhaseRankForActor candidate kind with
      | some cur, some next => decide (cur ≤ next)
      -- an edge the phase graph does not know keeps the current status
      | _, _ => false

/-- `should_strictly_advance_status`: as the gate, but an equal status is no advance. -/
def shouldStrictlyAdvanceStatus (current : Option Status) (candidate : Status)
    (kind : Option Kind) : Bool :=
  if current = some candidate then false
  else shouldApplyStatusTransition current candidate kind

/-! ## What the gate promises -/

/-- A row without a status accepts any. -/
@[simp] theorem shouldApplyStatusTransition_none (c : Status) (k : Option Kind) :
    shouldApplyStatusTransition none c k = true := rfl

/-- The current status is always accepted. -/
@[simp] theorem shouldApplyStatusTransition_self (s : Status) (k : Option Kind) :
    shouldApplyStatusTransition (some s) s k = true := by
  simp [shouldApplyStatusTransition]

/-- Terminal statuses are sticky: the gate accepts only the same status again. -/
theorem shouldApplyStatusTransition_terminal {t : Status} (ht : isTerminalTradeStatus t = true)
    (c : Status) (k : Option Kind) :
    shouldApplyStatusTransition (some t) c k = true ↔ t = c := by
  simp [shouldApplyStatusTransition, ht]

/-- From a live status the gate accepts the same status, a terminal one, or one whose rank is
known and not lower. -/
theorem shouldApplyStatusTransition_live {s : Status} (hs : isTerminalTradeStatus s = false)
    (c : Status) (k : Option Kind) :
    shouldApplyStatusTransition (some s) c k = true ↔
      s = c ∨ isTerminalTradeStatus c = true ∨
        ∃ r r', statusPhaseRankForActor s k = some r ∧ statusPhaseRankForActor c k = some r' ∧
          r ≤ r' := by
  unfold shouldApplyStatusTransition
  by_cases hsc : s = c
  · simp [hsc]
  · by_cases hc : isTerminalTradeStatus c = true
    · simp [hsc, hs, hc]
    · cases hr : statusPhaseRankForActor s k <;> cases statusPhaseRankForActor c k <;>
        simp [hsc, hs, hc, hr]

/-- A live status is below `success` in every phase order. -/
theorem statusPhaseRankForActor_lt_of_live {s : Status} {k : Option Kind} {r : Nat}
    (hs : isTerminalTradeStatus s = false) (h : statusPhaseRankForActor s k = some r) : r < 5 := by
  cases s <;> cases k with
  | none => simp_all [statusPhaseRankForActor, isTerminalTradeStatus] <;> omega
  | some k => cases k <;> simp_all [statusPhaseRankForActor, isTerminalTradeStatus] <;> omega

/-- The only terminal status with a rank is `success`. -/
theorem statusPhaseRankForActor_terminal {t : Status} {k : Option Kind} {r : Nat}
    (ht : isTerminalTradeStatus t = true) (h : statusPhaseRankForActor t k = some r) : r = 5 := by
  cases t <;> simp_all [statusPhaseRankForActor, isTerminalTradeStatus]

/-- A step the gate accepts never lowers the phase rank. -/
theorem shouldApplyStatusTransition_rank_le {s c : Status} {k : Option Kind} {r r' : Nat}
    (h : shouldApplyStatusTransition (some s) c k = true)
    (hr : statusPhaseRankForActor s k = some r) (hr' : statusPhaseRankForActor c k = some r') :
    r ≤ r' := by
  cases hs : isTerminalTradeStatus s with
  | true =>
    obtain rfl := (shouldApplyStatusTransition_terminal hs c k).1 h
    exact Nat.le_of_eq (Option.some.inj (hr.symm.trans hr'))
  | false =>
    rcases (shouldApplyStatusTransition_live hs c k).1 h with rfl | hc | ⟨q, q', hq, hq', hle⟩
    · exact Nat.le_of_eq (Option.some.inj (hr.symm.trans hr'))
    · have hlt := statusPhaseRankForActor_lt_of_live hs hr
      have := statusPhaseRankForActor_terminal hc hr'
      omega
    · rw [hr] at hq
      rw [hr'] at hq'
      obtain rfl := Option.some.inj hq
      obtain rfl := Option.some.inj hq'
      exact hle

end Mostrix
