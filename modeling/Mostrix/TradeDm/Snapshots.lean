import Mostrix.Library.SortedSet
import Mostrix.TradeDm.Handle

/-!
# Which snapshot is kept

`merge_order_snapshots` (`ui/orders.rs`) against what it is for. A row of the Messages list keeps
one snapshot of its order, of the message's, the prior row's and the database's, and the handler
reads the last one before the upsert: so they come from the freshest to the stalest.
`freshestRichest` is the richest of them, the freshest of equals. The merge takes the stalest of
equals, because `max_by_key` returns the last greatest element, while everything else the row is
built from (`sat_amount.or(prior_sat_amount)`, `effective_order_kind`) prefers what is fresh.

`merge_eq_freshestRichest_iff` says where the two agree.
-/

namespace Mostrix

/-- The richest snapshot, the freshest of equals: the first greatest of the three. -/
def freshestRichest (incoming prior fromDb : Option SmallOrder) : Option SmallOrder :=
  ([incoming, prior, fromDb].filterMap id).firstMax snapshotRichness

/-- An incoming snapshot as rich as the others is the freshest of the richest. -/
theorem freshestRichest_of_incoming {o : SmallOrder} {prior fromDb : Option SmallOrder}
    (hprior : ∀ p ∈ prior, snapshotRichness p ≤ snapshotRichness o)
    (hdb : ∀ d ∈ fromDb, snapshotRichness d ≤ snapshotRichness o) :
    freshestRichest (some o) prior fromDb = some o := by
  have hall : ∀ c ∈ (some o :: prior :: [fromDb]).filterMap id,
      snapshotRichness c ≤ snapshotRichness o := by
    intro c hc
    simp only [List.mem_filterMap, id, exists_eq_right, List.mem_cons, List.not_mem_nil,
      or_false] at hc
    rcases hc with hc | hc | hc
    · rw [Option.some.inj hc]
    · exact hprior c hc.symm
    · exact hdb c hc.symm
  refine List.argmax_eq_some_iff.2 ⟨by simp, hall, fun c _ _ => ?_⟩
  simp

/-- No copy that is staler than a richest snapshot, and as rich, differs from it. The three cases
are the pairs of a fresher and a staler one that can be the first and the last of the richest. -/
structure NoStaleTie (incoming prior fromDb : Option SmallOrder) : Prop where
  /-- The message and the prior row, over a poorer database row. -/
  incomingPrior : ∀ o ∈ incoming, ∀ p ∈ prior, snapshotRichness p = snapshotRichness o →
    (∀ d ∈ fromDb, snapshotRichness d < snapshotRichness o) → p = o
  /-- The message and the database row, over a prior row that is not richer. -/
  incomingDb : ∀ o ∈ incoming, ∀ d ∈ fromDb, snapshotRichness d = snapshotRichness o →
    (∀ p ∈ prior, snapshotRichness p ≤ snapshotRichness o) → d = o
  /-- The prior row and the database row, over a poorer message. -/
  priorDb : ∀ p ∈ prior, ∀ d ∈ fromDb, snapshotRichness d = snapshotRichness p →
    (∀ o ∈ incoming, snapshotRichness o < snapshotRichness p) → d = p

section
variable {f : SmallOrder → Nat} {o p d : SmallOrder}

/-- The last greatest of two is the first unless they are tied and differ. -/
theorem maxByKey_pair_eq_firstMax_iff :
    [o, p].maxByKey f = [o, p].firstMax f ↔ (f p = f o → p = o) := by
  have hlast : [o, p].maxByKey f = if f o ≤ f p then some p else some o := rfl
  have hfirst : [o, p].firstMax f = if f o < f p then some p else some o := rfl
  rw [hlast, hfirst]
  split_ifs <;> grind

/-- And of three, unless the first and the last of the greatest differ. -/
theorem maxByKey_triple_eq_firstMax_iff :
    [o, p, d].maxByKey f = [o, p, d].firstMax f ↔
      (f p = f o → f d < f o → p = o) ∧ (f d = f o → f p ≤ f o → d = o) ∧
        (f d = f p → f o < f p → d = p) := by
  have hlast : [o, p, d].maxByKey f =
      if f o ≤ f p then if f p ≤ f d then some d else some p
      else if f o ≤ f d then some d else some o := by
    by_cases h : f o ≤ f p <;> simp [List.maxByKey, List.maxByKeyStep, h]
  have hfirst : [o, p, d].firstMax f =
      if f o < f p then if f p < f d then some d else some p
      else if f o < f d then some d else some o := by
    by_cases h : f o < f p <;> simp [List.argmax, List.argAux, h]
  rw [hlast, hfirst]
  split_ifs <;> grind

end

/-- **Fresh snapshots win** exactly when no staler copy ties with the freshest of the richest and
differs from it. -/
theorem merge_eq_freshestRichest_iff (incoming prior fromDb : Option SmallOrder) :
    mergeOrderSnapshots incoming prior fromDb = freshestRichest incoming prior fromDb ↔
      NoStaleTie incoming prior fromDb := by
  have hfields : NoStaleTie incoming prior fromDb ↔ _ ∧ _ ∧ _ :=
    ⟨fun h => ⟨h.1, h.2, h.3⟩, fun h => ⟨h.1, h.2.1, h.2.2⟩⟩
  rw [hfields]
  unfold mergeOrderSnapshots freshestRichest
  cases incoming with
  | none =>
    cases prior with
    | none => cases fromDb <;> simp [List.maxByKey, List.maxByKeyStep]
    | some p =>
      cases fromDb with
      | none => simp [List.maxByKey, List.maxByKeyStep]
      | some d => simpa using maxByKey_pair_eq_firstMax_iff
  | some o =>
    cases prior with
    | none =>
      cases fromDb with
      | none => simp [List.maxByKey, List.maxByKeyStep]
      | some d => simpa using maxByKey_pair_eq_firstMax_iff
    | some p =>
      cases fromDb with
      | none => simpa using maxByKey_pair_eq_firstMax_iff
      | some d => simpa using maxByKey_triple_eq_firstMax_iff

/-- An order of 150 arrives over a row of 100, as rich as it: the merge keeps the 100, and so does
the row that the handler builds. -/
theorem merge_keeps_stale_amount :
    let fresh : SmallOrder := { id := some 1, fiatAmount := 150, fiatCode := "USD" }
    let row : Order := { id := 1, fiatAmount := 100, fiatCode := "USD", isMine := true }
    let dm : TradeDm :=
      { orderId := 1, tradeIndex := 1
        message := { action := .buyerTookOrder, payload := some (.order fresh) }
        timestamp := 10, sender := "mostro"
        tradeKeys := { secretHex := "k1", publicKey := "p1" }, notify := true }
    let s := handleTradeDmForOrder plainChatOps ⟨10, 0⟩ { db := Table.empty.put 1 row } dm
    mergeOrderSnapshots (some fresh) none (some (smallOrderFromDbOrder row)) ≠
        freshestRichest (some fresh) none (some (smallOrderFromDbOrder row)) ∧
      s.messages.map (fun m => m.orderSnapshot.map (·.fiatAmount)) = [some 100] ∧
      (s.db 1).map (·.fiatAmount) = some 150 := by
  decide

end Mostrix
