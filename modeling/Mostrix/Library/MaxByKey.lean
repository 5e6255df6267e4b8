import Mathlib.Order.Lattice

/-!
# The last greatest element of a list

`maxByKey f l` is the element of `l` with the greatest key, the last one where several are greatest:
what `Iterator::max_by_key` returns. `maxByKey_spec` says so.
-/

namespace List

variable {α κ : Type _} [LinearOrder κ]

/-- One step of the fold: a later element wins a tie. -/
def maxByKeyStep (f : α → κ) (best : Option α) (a : α) : Option α :=
  match best with
  | none => some a
  | some b => if f b ≤ f a then some a else some b

/-- The last of the elements with the greatest key. -/
def maxByKey (f : α → κ) (l : List α) : Option α := l.foldl (maxByKeyStep f) none

variable {f : α → κ}

@[simp] theorem maxByKey_nil : maxByKey f ([] : List α) = none := rfl

theorem foldl_maxByKeyStep_some (b : α) (l : List α) :
    ∃ c, l.foldl (maxByKeyStep f) (some b) = some c ∧ (c = b ∨ c ∈ l) ∧ f b ≤ f c ∧
      ∀ a ∈ l, f a ≤ f c := by
  induction l generalizing b with
  | nil => exact ⟨b, rfl, .inl rfl, le_refl _, by simp⟩
  | cons a l ih =>
    by_cases h : f b ≤ f a
    · obtain ⟨c, hc, hmem, hle, hall⟩ := ih a
      refine ⟨c, by simpa [maxByKeyStep, h] using hc, ?_, h.trans hle, ?_⟩
      · rcases hmem with rfl | hmem
        · exact .inr (by simp)
        · exact .inr (by simp [hmem])
      · simpa using ⟨hle, hall⟩
    · obtain ⟨c, hc, hmem, hle, hall⟩ := ih b
      refine ⟨c, by simpa [maxByKeyStep, h] using hc, ?_, hle, ?_⟩
      · rcases hmem with rfl | hmem
        · exact .inl rfl
        · exact .inr (by simp [hmem])
      · have : f a ≤ f b := le_of_not_ge h
        simpa using ⟨this.trans hle, hall⟩

/-- What is at least as great as the better of two is as great as both. -/
theorem le_of_maxByKeyStep_le {best : Option α} {a c : α}
    (h : ∀ b ∈ maxByKeyStep f best a, f b ≤ f c) : f a ≤ f c ∧ ∀ b ∈ best, f b ≤ f c := by
  cases best with
  | none => exact ⟨h a rfl, nofun⟩
  | some b =>
    by_cases hba : f b ≤ f a
    · have ha : f a ≤ f c := h a (by simp [maxByKeyStep, hba])
      refine ⟨ha, ?_⟩
      rintro _ ⟨⟩
      exact hba.trans ha
    · have hb : f b ≤ f c := h b (by simp [maxByKeyStep, hba])
      refine ⟨(not_le.1 hba).le.trans hb, ?_⟩
      rintro _ ⟨⟩
      exact hb

/-- The fold ends in its last greatest element: what is before is at most as great, and what comes
after is less. -/
theorem foldl_maxByKeyStep_last {best : Option α} {l : List α} {c : α}
    (h : l.foldl (maxByKeyStep f) best = some c) :
    (best = some c ∧ ∀ a ∈ l, f a < f c) ∨
      ∃ l₁ l₂, l = l₁ ++ c :: l₂ ∧ (∀ b ∈ best, f b ≤ f c) ∧ (∀ a ∈ l₁, f a ≤ f c) ∧
        ∀ a ∈ l₂, f a < f c := by
  induction l generalizing best with
  | nil => exact .inl ⟨h, nofun⟩
  | cons a l ih =>
    rcases ih h with ⟨hstep, hlt⟩ | ⟨l₁, l₂, rfl, hstep, hle, hlt⟩
    · have hbest := (le_of_maxByKeyStep_le (c := c) fun b hb => by
        rw [Option.some.inj (hb.symm.trans hstep)]).2
      cases best with
      | none =>
        cases hstep
        exact .inr ⟨[], l, rfl, nofun, nofun, hlt⟩
      | some b =>
        by_cases hba : f b ≤ f a
        · have hac : a = c := by simpa [maxByKeyStep, hba] using hstep
          subst hac
          exact .inr ⟨[], l, rfl, hbest, nofun, hlt⟩
        · have hbc : b = c := by simpa [maxByKeyStep, hba] using hstep
          subst hbc
          exact .inl ⟨rfl, List.forall_mem_cons.2 ⟨not_le.1 hba, hlt⟩⟩
    · obtain ⟨ha, hbest⟩ := le_of_maxByKeyStep_le hstep
      exact .inr ⟨a :: l₁, l₂, rfl, hbest, List.forall_mem_cons.2 ⟨ha, hle⟩, hlt⟩

/-- The last greatest element, and its place in the list. -/
theorem maxByKey_last {l : List α} {c : α} (h : maxByKey f l = some c) :
    ∃ l₁ l₂, l = l₁ ++ c :: l₂ ∧ (∀ a ∈ l₁, f a ≤ f c) ∧ ∀ a ∈ l₂, f a < f c := by
  rcases foldl_maxByKeyStep_last h with ⟨hnone, -⟩ | ⟨l₁, l₂, hl, -, hle, hlt⟩
  · cases hnone
  · exact ⟨l₁, l₂, hl, hle, hlt⟩

/-- Only the empty list has no greatest element. -/
@[simp] theorem maxByKey_eq_none_iff {l : List α} : maxByKey f l = none ↔ l = [] := by
  cases l with
  | nil => simp
  | cons a l =>
    obtain ⟨c, hc, -⟩ := foldl_maxByKeyStep_some (f := f) a l
    simp [maxByKey, maxByKeyStep, hc]

/-- The greatest element is one of the list's, and no key is greater. -/
theorem maxByKey_spec {l : List α} {c : α} (h : maxByKey f l = some c) :
    c ∈ l ∧ ∀ a ∈ l, f a ≤ f c := by
  cases l with
  | nil => simp at h
  | cons a l =>
    obtain ⟨c', hc', hmem, hle, hall⟩ := foldl_maxByKeyStep_some (f := f) a l
    obtain rfl : c' = c := by
      have : some c' = some c := hc'.symm.trans h
      exact Option.some.inj this
    refine ⟨?_, by simpa using ⟨hle, hall⟩⟩
    rcases hmem with rfl | hmem <;> simp [*]

end List
