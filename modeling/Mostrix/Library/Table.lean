import Mathlib.Logic.Function.Basic

/-!
# Tables with one row per key

A table is a partial function from keys to rows, which is what a relational table with a primary
key amounts to when rows are only ever addressed by their key. `put` writes a row, `modify` changes
the row that is there, `erase` deletes it. The lemmas are the frame conditions: what an operation on
one key does at that key, and that it does nothing anywhere else.
-/

/-- A table with one row per key. -/
abbrev Table (κ : Type _) (β : Type _) := κ → Option β

namespace Table

variable {κ β : Type _}

/-- The table without rows. -/
def empty : Table κ β := fun _ => none

@[simp] theorem empty_apply (k : κ) : (empty : Table κ β) k = none := rfl

variable [DecidableEq κ]

/-- Write the row of a key, whether or not it has one. -/
def put (t : Table κ β) (k : κ) (v : β) : Table κ β := Function.update t k (some v)

/-- Change the row of a key, if it has one (an `UPDATE … WHERE id = k`). -/
def modify (t : Table κ β) (k : κ) (f : β → β) : Table κ β := Function.update t k ((t k).map f)

/-- Delete the row of a key. -/
def erase (t : Table κ β) (k : κ) : Table κ β := Function.update t k none

variable {t : Table κ β} {k k' : κ} {v : β} {f : β → β}

@[simp] theorem put_self : t.put k v k = some v := Function.update_self ..

@[simp] theorem put_of_ne (h : k' ≠ k) : t.put k v k' = t k' := Function.update_of_ne h ..

@[simp] theorem modify_self : t.modify k f k = (t k).map f := Function.update_self ..

@[simp] theorem modify_of_ne (h : k' ≠ k) : t.modify k f k' = t k' := Function.update_of_ne h ..

@[simp] theorem erase_self : t.erase k k = none := Function.update_self ..

@[simp] theorem erase_of_ne (h : k' ≠ k) : t.erase k k' = t k' := Function.update_of_ne h ..

/-- Modifying a key without a row changes nothing. -/
theorem modify_eq_self_of_none (h : t k = none) : t.modify k f = t := by
  rw [modify, h, Option.map_none, ← h, Function.update_eq_self]

/-- Modifying a key twice is modifying it once. -/
@[simp] theorem modify_modify {g : β → β} :
    (t.modify k f).modify k g = t.modify k fun v => g (f v) := by
  funext k'
  by_cases h : k' = k
  · subst h
    simp [Option.map_map, Function.comp_def]
  · simp [h]

/-- Changing the row just written is writing the changed row. -/
theorem modify_put : (t.put k v).modify k f = t.put k (f v) := by
  rw [modify, put_self, Option.map_some, put, Function.update_idem, put]

/-- Leaving the row as it is changes nothing. -/
@[simp] theorem modify_id : (t.modify k fun v => v) = t := by
  rw [modify, Option.map_id', Function.update_eq_self]

/-- Change the rows of several keys. -/
def modifyAll (t : Table κ β) (ks : List κ) (f : β → β) : Table κ β :=
  ks.foldl (fun t k => t.modify k f) t

@[simp] theorem modifyAll_nil : t.modifyAll [] f = t := rfl

@[simp] theorem modifyAll_cons {ks : List κ} :
    t.modifyAll (k :: ks) f = (t.modify k f).modifyAll ks f := rfl

theorem modifyAll_of_notMem {ks : List κ} (h : k ∉ ks) : t.modifyAll ks f k = t k := by
  induction ks generalizing t with
  | nil => rfl
  | cons k' ks ih =>
    simp only [List.mem_cons, not_or] at h
    obtain ⟨hne, hks⟩ := h
    rw [modifyAll_cons, ih hks, modify_of_ne hne]

/-- A change that is the same made twice is made once at each listed key. -/
theorem modifyAll_of_mem {ks : List κ} (hf : ∀ v, f (f v) = f v) (h : k ∈ ks) :
    t.modifyAll ks f k = (t k).map f := by
  induction ks generalizing t with
  | nil => cases h
  | cons k' ks ih =>
    rw [modifyAll_cons]
    by_cases hk : k ∈ ks
    · rw [ih hk]
      by_cases hkk : k = k'
      · subst hkk
        rw [modify_self, Option.map_map]
        exact Option.map_congr fun v _ => hf v
      · rw [modify_of_ne hkk]
    · obtain rfl : k = k' := (List.mem_cons.1 h).resolve_right hk
      rw [modifyAll_of_notMem hk, modify_self]

/-- Changing rows adds none. -/
theorem modify_eq_none (h : t k' = none) : t.modify k f k' = none := by
  by_cases hk : k' = k
  · subst hk
    rw [modify_self, h, Option.map_none]
  · rw [modify_of_ne hk, h]

theorem modifyAll_eq_none {ks : List κ} (h : t k = none) : t.modifyAll ks f k = none := by
  induction ks generalizing t with
  | nil => exact h
  | cons k' ks ih => exact ih (modify_eq_none h)

end Table
