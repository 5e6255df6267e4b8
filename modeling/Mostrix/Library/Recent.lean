import Mathlib.Data.List.DropRight
import Mathlib.Data.List.Nodup

/-!
# Filters over the last accepted items

A filter is offered items one after another and accepts an item when it is none of the last `n`
that it accepted. `Recent.offer n acc a` is the history of accepted items after `a` was offered to
a filter with the history `acc`; what the filter has to remember of the history is its window
`acc.rtake n`, which holds no item twice and moves by one item at a time.
-/

namespace Recent

variable {α : Type _}

/-- The window after one more accepted item is read off the window before it. -/
theorem rtake_concat (n : Nat) (acc : List α) (a : α) :
    (acc ++ [a]).rtake n = (acc.rtake n ++ [a]).rtake n := by
  cases n with
  | zero => simp
  | succ n =>
    rw [List.rtake_concat_succ, List.rtake_concat_succ]
    simp only [List.rtake, List.length_drop, List.drop_drop]
    congr 2
    omega

theorem length_rtake (n : Nat) (acc : List α) : (acc.rtake n).length = min n acc.length := by
  rw [List.rtake, List.length_drop]
  omega

/-- A window that is not full is the whole history. -/
theorem rtake_of_length_le {n : Nat} {acc : List α} (h : acc.length ≤ n) : acc.rtake n = acc := by
  rw [List.rtake, Nat.sub_eq_zero_of_le h, List.drop_zero]

/-- A full window drops its oldest item. -/
theorem rtake_cons {n : Nat} {a : α} {acc : List α} (h : n < (a :: acc).length) :
    (a :: acc).rtake n = acc.rtake n := by
  rw [List.length_cons] at h
  have hpos : (a :: acc).length - n = acc.length - n + 1 := by
    rw [List.length_cons]
    omega
  rw [List.rtake, hpos, List.drop_succ_cons, List.rtake]

variable [DecidableEq α]

/-- The history of accepted items after `a` was offered. -/
def offer (n : Nat) (acc : List α) (a : α) : List α :=
  if a ∈ acc.rtake n then acc else acc ++ [a]

/-- The window never holds an item twice. -/
theorem nodup_rtake_offer {n : Nat} {acc : List α} (h : (acc.rtake n).Nodup) (a : α) :
    ((offer n acc a).rtake n).Nodup := by
  by_cases ha : a ∈ acc.rtake n
  · rwa [offer, if_pos ha]
  · rw [offer, if_neg ha, rtake_concat]
    have hsub : ((acc.rtake n ++ [a]).rtake n).Sublist (acc.rtake n ++ [a]) := List.drop_sublist _ _
    refine hsub.nodup ?_
    rw [← List.concat_eq_append]
    exact h.concat ha

end Recent
