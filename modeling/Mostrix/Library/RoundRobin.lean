import Mathlib.Data.Int.ModEq
import Mathlib.Data.List.Nodup
import Mathlib.Data.List.Range

/-!
# Round robin over a list

Each tick of a round robin visits a batch of the positions of a list, from where the last tick
stopped, and wraps around at the end. A tick is a `window` of positions, and consecutive ticks are
one longer window (`ticks_eq_window`), so what a window covers, the ticks cover together.

The cursor a tick starts from is any number: it is reduced by the length the list has now.
-/

namespace RoundRobin

variable {α : Type _} {len start take batch cursor : Nat}

/-! ## Windows -/

/-- `take` positions from `start` on, wrapping around at `len`. -/
def window (len start take : Nat) : List Nat := (List.range take).map fun i => (start + i) % len

@[simp] theorem length_window : (window len start take).length = take := by simp [window]

theorem lt_of_mem_window {p : Nat} (hlen : 0 < len) (hp : p ∈ window len start take) : p < len := by
  obtain ⟨i, _, rfl⟩ := List.mem_map.1 hp
  exact Nat.mod_lt _ hlen

/-- A window that is not longer than the list meets no position twice. -/
theorem nodup_window (htake : take ≤ len) : (window len start take).Nodup := by
  refine List.Nodup.map_on ?_ List.nodup_range
  intro i hi j hj hij
  rw [List.mem_range] at hi hj
  have hmod : i % len = j % len := Nat.ModEq.add_left_cancel' start hij
  rwa [Nat.mod_eq_of_lt (by omega), Nat.mod_eq_of_lt (by omega)] at hmod

/-- A window as long as the list meets every position. -/
theorem mem_window {p : Nat} (htake : len ≤ take) (hstart : start < len) (hp : p < len) :
    p ∈ window len start take := by
  refine List.mem_map.2 ?_
  rcases Nat.lt_or_ge p start with hlt | hge
  · refine ⟨p + len - start, List.mem_range.2 (by omega), ?_⟩
    have hwrap : start + (p + len - start) = p + len := by omega
    rw [hwrap, Nat.add_mod_right, Nat.mod_eq_of_lt hp]
  · refine ⟨p - start, List.mem_range.2 (by omega), ?_⟩
    have hdirect : start + (p - start) = p := by omega
    rw [hdirect, Nat.mod_eq_of_lt hp]

/-- A window goes on where a shorter one from the same start stops. -/
theorem window_add (len start a b : Nat) :
    window len start (a + b) = window len start a ++ window len ((start + a) % len) b := by
  rw [window, List.range_add, List.map_append, List.map_map]
  refine congrArg (window len start a ++ ·) (List.map_congr_left fun i _ => ?_)
  rw [Function.comp_apply, Nat.mod_add_mod, Nat.add_assoc]

/-! ## Ticks -/

/-- The positions a tick visits. -/
def tick (batch len cursor : Nat) : List Nat :=
  if len = 0 then [] else window len (cursor % len) (min batch len)

/-- The cursor a tick leaves. -/
def advance (batch len cursor : Nat) : Nat :=
  if len = 0 then cursor else (cursor % len + min batch len) % len

/-- The positions that `k` consecutive ticks visit. -/
def ticks (batch len : Nat) : Nat → Nat → List Nat
  | _, 0 => []
  | cursor, k + 1 => tick batch len cursor ++ ticks batch len (advance batch len cursor) k

theorem advance_lt (hlen : 0 < len) : advance batch len cursor < len := by
  rw [advance, if_neg (by omega)]
  exact Nat.mod_lt _ hlen

@[simp] theorem length_tick : (tick batch len cursor).length = min batch len := by
  unfold tick
  split
  · next hlen => simp [hlen]
  · exact length_window

theorem nodup_tick : (tick batch len cursor).Nodup := by
  unfold tick
  split
  · exact List.nodup_nil
  · exact nodup_window (Nat.min_le_right _ _)

theorem lt_of_mem_tick {p : Nat} (hp : p ∈ tick batch len cursor) : p < len := by
  unfold tick at hp
  split at hp
  · cases hp
  · next hlen => exact lt_of_mem_window (by omega) hp

/-- Consecutive ticks are one window. -/
theorem ticks_eq_window (hlen : 0 < len) (k : Nat) :
    ticks batch len cursor k = window len (cursor % len) (k * min batch len) := by
  induction k generalizing cursor with
  | zero => simp [ticks, window]
  | succ k ih =>
    have hnext : advance batch len cursor % len = (cursor % len + min batch len) % len := by
      rw [Nat.mod_eq_of_lt (advance_lt hlen), advance, if_neg (by omega)]
    have hsum : (k + 1) * min batch len = min batch len + k * min batch len := by
      rw [Nat.succ_mul, Nat.add_comm]
    rw [ticks, ih, hnext, tick, if_neg (by omega), hsum, window_add]

/-- Ticks that are enough for the length of the list visit every position. -/
theorem mem_ticks {p k : Nat} (hk : len ≤ k * batch) (hp : p < len) :
    p ∈ ticks batch len cursor k := by
  have hlen : 0 < len := by omega
  rw [ticks_eq_window hlen]
  refine mem_window ?_ (Nat.mod_lt _ hlen) hp
  rcases Nat.le_total batch len with hle | hle
  · rwa [Nat.min_eq_left hle]
  · rw [Nat.min_eq_right hle]
    have hkpos : 0 < k := Nat.pos_of_ne_zero fun h0 => by
      rw [h0, Nat.zero_mul] at hk
      omega
    exact Nat.le_mul_of_pos_left len hkpos

/-- As many batches as it takes to hold the list are enough. -/
theorem le_ceil_mul (hbatch : 0 < batch) (len : Nat) :
    len ≤ (len + batch - 1) / batch * batch := by
  have hdiv := Nat.div_add_mod (len + batch - 1) batch
  have hmod := Nat.mod_lt (len + batch - 1) hbatch
  rw [Nat.mul_comm] at hdiv
  omega

/-! ## The items at the positions -/

/-- The items at the positions of a list. -/
def pick (ids : List α) (positions : List Nat) : List α := positions.filterMap (ids[·]?)

theorem length_pick (ids : List α) {positions : List Nat} (h : ∀ p ∈ positions, p < ids.length) :
    (pick ids positions).length = positions.length := by
  induction positions with
  | nil => rfl
  | cons p positions ih =>
    obtain ⟨hp, hps⟩ := List.forall_mem_cons.1 h
    have hitem : ids[p]? = some ids[p] := List.getElem?_eq_getElem hp
    rw [pick, List.filterMap_cons_some hitem, List.length_cons, List.length_cons]
    exact congrArg (· + 1) (ih hps)

theorem mem_pick {ids : List α} {positions : List Nat} {id : α} :
    id ∈ pick ids positions ↔ ∃ p ∈ positions, ids[p]? = some id := List.mem_filterMap

/-- Distinct positions of distinct items hold distinct items. -/
theorem nodup_pick {ids : List α} (hids : ids.Nodup) {positions : List Nat}
    (hnodup : positions.Nodup) : (pick ids positions).Nodup := by
  refine List.Nodup.filterMap ?_ hnodup
  intro p q id hp hq
  obtain ⟨hplt, hpid⟩ := List.getElem?_eq_some_iff.1 hp
  obtain ⟨hqlt, hqid⟩ := List.getElem?_eq_some_iff.1 hq
  exact (hids.getElem_inj_iff).1 (hpid.trans hqid.symm)

end RoundRobin
