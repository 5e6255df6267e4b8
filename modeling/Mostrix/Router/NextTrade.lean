import Mostrix.Router.RangeChild

/-!
# When the next trade is announced

`create_msg_payload` (`util/order_utils/execute_send_msg.rs`) subtracts the fiat amount of a range
order from its maximum as `i64`s, and announces the next trade when at least the minimum is left.
The amounts come from an order of a relay, which nothing checks, and the subtraction is the plain
operator: a debug build panics where the difference is no `i64`, and a release build compares what
it wraps to. `nextTrade_exact_iff` says that this is the only thing that goes wrong.
-/

namespace Mostrix.Router

/-- The amounts that are subtracted: those of an order with both bounds, for an action that ends our
part of the trade. -/
def Subtracts (action : Action) (order : Order) (minAmount maxAmount : Int) : Prop :=
  (action = .fiatSent ∨ action = .release) ∧ order.minAmount = some minAmount ∧
    order.maxAmount = some maxAmount

/-- At least the minimum is left of a range order. -/
def NeedsNextTrade (action : Action) (order : Order) : Prop :=
  ∃ minAmount maxAmount, Subtracts action order minAmount maxAmount ∧
    minAmount ≤ maxAmount - order.fiatAmount

/-- A difference that is an `i64`. -/
def FitsI64 (n : Int) : Prop := -2 ^ 63 ≤ n ∧ n < 2 ^ 63

/-- `create_msg_payload` as it is meant: the remainder is an `i64`, the next trade is announced when
it is needed, by the key and the index that are reserved for it, and else nothing is reserved. -/
structure NextTradeExact (ops : KeyOps) (user : Option User) (action : Action) (order : Order) :
    Prop where
  fits : ∀ minAmount maxAmount, Subtracts action order minAmount maxAmount →
    FitsI64 (maxAmount - order.fiatAmount)
  /-- The reserved index and its key are announced as they are. -/
  announced : NeedsNextTrade action order → ∀ u index keys, user = some u →
    (User.reserveNextTradeIndex ops user 0).2 = .ok (index, keys) →
      u.deriveTradeKeys ops index = .ok keys ∧
        ∃ announced : Nat, (announced : Int) = index ∧
          createMsgPayload ops user action order =
            (some { u with lastTradeIndex := some index },
              .ok (some (.nextTrade keys.publicKey announced)))
  /-- A failed reservation is an error. -/
  failed : NeedsNextTrade action order → ∀ e, (User.reserveNextTradeIndex ops user 0).2 = .error e →
    (createMsgPayload ops user action order).2 = .error e
  silent : ¬ NeedsNextTrade action order → createMsgPayload ops user action order = (user, .ok none)

section
variable {ops : KeyOps} {user : Option User} {action : Action} {order : Order}

/-- A difference that is an `i64` does not wrap. -/
theorem subI64_eq {a b : Int} (h : FitsI64 (a - b)) : subI64 a b = a - b := by
  obtain ⟨hlow, hhigh⟩ := h
  unfold subI64
  rw [Int.bmod_eq_of_le] <;> omega

/-- Without a subtraction nothing is announced. -/
theorem createMsgPayload_of_not_subtracts
    (h : ∀ minAmount maxAmount, ¬ Subtracts action order minAmount maxAmount) :
    createMsgPayload ops user action order = (user, .ok none) := by
  unfold createMsgPayload
  split
  · split
    next hmin hmax => exact absurd ⟨.inl rfl, hmin, hmax⟩ (h _ _)
    · rfl
  · split
    next hmin hmax => exact absurd ⟨.inr rfl, hmin, hmax⟩ (h _ _)
    · rfl
  · rfl

/-- The payload where the subtraction is made. -/
theorem createMsgPayload_of_subtracts {minAmount maxAmount : Int}
    (h : Subtracts action order minAmount maxAmount) :
    createMsgPayload ops user action order =
      if minAmount ≤ subI64 maxAmount order.fiatAmount then
        ((User.reserveNextTradeIndex ops user 0).1,
          (User.reserveNextTradeIndex ops user 0).2.map fun p =>
            some (.nextTrade p.2.publicKey (asU32 p.1)))
      else (user, .ok none) := by
  obtain ⟨haction, hmin, hmax⟩ := h
  unfold createMsgPayload
  rcases haction with rfl | rfl <;> simp only [hmin, hmax]

/-- A reservation that hands out an index has raised the counter to it. -/
theorem reserveNextTradeIndex_user {u : User} {noneBase index : Int} {keys : Keys}
    (h : (User.reserveNextTradeIndex ops (some u) noneBase).2 = .ok (index, keys)) :
    (User.reserveNextTradeIndex ops (some u) noneBase).1 =
      some { u with lastTradeIndex := some index } := by
  obtain ⟨k, -, hpair⟩ := Except.ok_of_map h
  obtain ⟨rfl, rfl⟩ := Prod.mk.inj hpair
  rfl

/-- The amounts of an order that is subtracted from are its own. -/
theorem Subtracts.unique {minAmount maxAmount minAmount' maxAmount' : Int}
    (h : Subtracts action order minAmount maxAmount)
    (h' : Subtracts action order minAmount' maxAmount') :
    minAmount' = minAmount ∧ maxAmount' = maxAmount :=
  ⟨Option.some.inj (h'.2.1.symm.trans h.2.1), Option.some.inj (h'.2.2.symm.trans h.2.2)⟩

/-- Where the difference is an `i64`, the payload is the reservation's when it is needed. -/
theorem createMsgPayload_of_fits {minAmount maxAmount : Int}
    (h : Subtracts action order minAmount maxAmount)
    (hfits : FitsI64 (maxAmount - order.fiatAmount))
    (hneeds : NeedsNextTrade action order) :
    createMsgPayload ops user action order =
      ((User.reserveNextTradeIndex ops user 0).1,
        (User.reserveNextTradeIndex ops user 0).2.map fun p =>
          some (.nextTrade p.2.publicKey (asU32 p.1))) := by
  obtain ⟨minAmount', maxAmount', h', hleft⟩ := hneeds
  obtain ⟨rfl, rfl⟩ := h.unique h'
  rw [createMsgPayload_of_subtracts h, subI64_eq hfits, if_pos hleft]

end

/-- **The range remainder** is computed safely, and the next trade announced exactly when it is
needed, exactly when the maximum less the fiat amount is an `i64` wherever they are subtracted. -/
theorem nextTrade_exact_iff (ops : KeyOps) (user : Option User) (action : Action) (order : Order) :
    NextTradeExact ops user action order ↔
      ∀ minAmount maxAmount, Subtracts action order minAmount maxAmount →
        -2 ^ 63 ≤ maxAmount - order.fiatAmount ∧ maxAmount - order.fiatAmount < 2 ^ 63 := by
  refine ⟨NextTradeExact.fits, fun hfits => ⟨hfits, ?_, ?_, ?_⟩⟩
  · rintro hneeds u index keys rfl hreserved
    obtain ⟨minAmount, maxAmount, h, -⟩ := id hneeds
    have hderived := deriveTradeKeys_of_reserved hreserved
    refine ⟨hderived, asU32 index, asU32_of_derived hderived, ?_⟩
    rw [createMsgPayload_of_fits h (hfits _ _ h) hneeds, reserveNextTradeIndex_user hreserved,
      hreserved]
    rfl
  · intro hneeds e hfailed
    obtain ⟨minAmount, maxAmount, h, -⟩ := id hneeds
    rw [createMsgPayload_of_fits h (hfits _ _ h) hneeds, hfailed]
    rfl
  · intro hneeds
    by_cases h : ∃ minAmount maxAmount, Subtracts action order minAmount maxAmount
    · obtain ⟨minAmount, maxAmount, h⟩ := h
      rw [createMsgPayload_of_subtracts h, subI64_eq (hfits _ _ h),
        if_neg fun hleft => hneeds ⟨minAmount, maxAmount, h, hleft⟩]
    · refine createMsgPayload_of_not_subtracts fun minAmount maxAmount hs => ?_
      exact h ⟨minAmount, maxAmount, hs⟩

/-- A row whose fiat amount is negative, under the greatest maximum. -/
def hugeRangeRow : Order where
  id := 1
  kind := some .sell
  minAmount := some 1
  maxAmount := some (2 ^ 63 - 1)
  fiatAmount := -1
  isMine := true

/-- The remainder of that row is no `i64`: it wraps to the least one, and no next trade is
announced. -/
theorem huge_range_overflows :
    let user : User :=
      { i0Pubkey := "p0", mnemonic := "m", lastTradeIndex := some 1, createdAt := 0 }
    NeedsNextTrade .release hugeRangeRow ∧
      createMsgPayload plainKeyOps (some user) .release hugeRangeRow = (some user, .ok none) ∧
      ¬ NextTradeExact plainKeyOps (some user) .release hugeRangeRow := by
  intro user
  have hsubtracts : Subtracts .release hugeRangeRow 1 (2 ^ 63 - 1) := ⟨.inr rfl, rfl, rfl⟩
  refine ⟨⟨1, 2 ^ 63 - 1, hsubtracts, by decide⟩, rfl, fun h => ?_⟩
  exact absurd (h.fits _ _ hsubtracts).2 (by decide)

end Mostrix.Router
