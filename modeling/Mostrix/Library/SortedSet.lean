import Mathlib.Data.List.MinMax
import Mathlib.Data.List.Nodup
import Mathlib.Data.Prod.Lex

/-!
# Sets kept sorted by a key, and the first greatest element

`SortedSet f` is a list whose elements have strictly increasing keys `f`: an ordered set (a
`BTreeSet` whose order is given by `f`). Inserting an element whose key is there changes nothing.

The second half is about `List.firstMax`, the first of the elements with the greatest rank. On a
list where ties in the rank are broken by the position it is the greatest element of a finer rank
(`firstMax_eq_of_tiebreak`), and for a rank that tells the elements apart it depends on the list's
elements only (`firstMax_congr_of_mem`), so that adding an element is one comparison
(`firstMax_of_mem_cons`).
-/

/-- A list with strictly increasing keys. -/
structure SortedSet {α κ : Type _} [LinearOrder κ] (f : α → κ) where
  toList : List α
  sorted : toList.Pairwise fun a b => f a < f b

namespace SortedSet

variable {α κ : Type _} [LinearOrder κ] {f : α → κ}

instance : Membership α (SortedSet f) := ⟨fun s a => a ∈ s.toList⟩

theorem mem_toList {s : SortedSet f} {a : α} : a ∈ s.toList ↔ a ∈ s := Iff.rfl

/-- The empty set. -/
def empty : SortedSet f := ⟨[], .nil⟩

@[simp] theorem notMem_empty (a : α) : a ∉ (empty : SortedSet f) := List.not_mem_nil

/-- Put an element at its place, unless its key is there. -/
def insertList (f : α → κ) (a : α) : List α → List α
  | [] => [a]
  | b :: l =>
    if f a < f b then a :: b :: l
    else if f a = f b then b :: l
    else b :: insertList f a l

theorem mem_of_mem_insertList {a x : α} {l : List α} (h : x ∈ insertList f a l) :
    x = a ∨ x ∈ l := by
  induction l with
  | nil => exact .inl (List.mem_singleton.1 h)
  | cons b l ih =>
    unfold insertList at h
    split at h
    · exact List.mem_cons.1 h
    · split at h
      · exact .inr h
      · rcases List.mem_cons.1 h with rfl | h
        · exact .inr (.head _)
        · exact (ih h).imp_right (.tail _)

theorem sorted_insertList {a : α} {l : List α} (h : l.Pairwise fun a b => f a < f b) :
    (insertList f a l).Pairwise fun a b => f a < f b := by
  induction l with
  | nil => exact List.pairwise_singleton _ _
  | cons b l ih =>
    obtain ⟨hb, hl⟩ := List.pairwise_cons.1 h
    unfold insertList
    split
    · rename_i hlt
      refine List.pairwise_cons.2 ⟨fun x hx => ?_, h⟩
      rcases List.mem_cons.1 hx with rfl | hx
      · exact hlt
      · exact hlt.trans (hb x hx)
    · rename_i hnlt
      split
      · exact h
      · rename_i hne
        have hgt : f b < f a := lt_of_le_of_ne (not_lt.1 hnlt) (Ne.symm hne)
        refine List.pairwise_cons.2 ⟨fun x hx => ?_, ih hl⟩
        rcases mem_of_mem_insertList hx with rfl | hx
        · exact hgt
        · exact hb x hx

/-- Add an element, unless its key is there. -/
def insert (s : SortedSet f) (a : α) : SortedSet f :=
  ⟨insertList f a s.toList, sorted_insertList s.sorted⟩

theorem mem_insertList {a x : α} {l : List α} (h : l.Pairwise fun a b => f a < f b) :
    x ∈ insertList f a l ↔ x ∈ l ∨ x = a ∧ ∀ b ∈ l, f b ≠ f a := by
  induction l with
  | nil => simp [insertList]
  | cons b l ih =>
    obtain ⟨hb, hl⟩ := List.pairwise_cons.1 h
    unfold insertList
    split
    · rename_i hlt
      have hfree : ∀ y ∈ b :: l, f y ≠ f a := by
        intro y hy
        rcases List.mem_cons.1 hy with rfl | hy
        · exact hlt.ne'
        · exact (hlt.trans (hb y hy)).ne'
      rw [and_iff_left hfree, List.mem_cons]
      exact or_comm
    · split
      · rename_i heq
        simp [heq]
      · rename_i hne
        rw [List.mem_cons, ih hl, List.mem_cons, List.forall_mem_cons, or_assoc]
        simp [Ne.symm hne]

/-- Adding an element adds it, when its key is new, and nothing else. -/
theorem mem_insert {s : SortedSet f} {a x : α} :
    x ∈ s.insert a ↔ x ∈ s ∨ x = a ∧ ∀ b ∈ s, f b ≠ f a := mem_insertList s.sorted

/-- The set of a list's elements, the first of those with one key. -/
def ofList (f : α → κ) (l : List α) : SortedSet f := l.foldl insert empty

/-- Two elements with one key are one. -/
theorem eq_of_key_eq (s : SortedSet f) {a b : α} (ha : a ∈ s) (hb : b ∈ s) (h : f a = f b) :
    a = b := by
  have hnd : (s.toList.map f).Nodup := List.pairwise_map.2 (s.sorted.imp ne_of_lt)
  exact List.inj_on_of_nodup_map hnd ha hb h

end SortedSet

namespace List

variable {α τ ρ : Type _} [LinearOrder τ] [LinearOrder ρ] {ts : α → τ} {rank : α → ρ}

/-- The first greatest element, `List.argmax` in a linear order. -/
abbrev firstMax (l : List α) (ts : α → τ) : Option α := l.argmax ts

theorem firstMax_cons (a : α) (l : List α) :
    (a :: l).firstMax ts =
      match l.firstMax ts with
      | none => some a
      | some c => if ts a < ts c then some c else some a := by
  unfold firstMax
  rw [argmax_cons]
  cases l.argmax ts <;> rfl

theorem firstMax_concat (l : List α) (a : α) :
    (l ++ [a]).firstMax ts =
      match l.firstMax ts with
      | none => some a
      | some c => if ts c < ts a then some a else some c := by
  unfold firstMax
  rw [argmax_concat]
  cases l.argmax ts <;> rfl

/-- Where the position breaks the ties of `ts` as the finer `rank` does, both have the same first
greatest element. -/
theorem firstMax_eq_of_tiebreak {l : List α} (hts : ∀ a b, ts a < ts b → rank a < rank b)
    (hl : l.Pairwise fun a b => ts a < ts b ∨ rank b < rank a) :
    l.firstMax ts = l.firstMax rank := by
  induction l with
  | nil => rfl
  | cons a l ih =>
    obtain ⟨ha, hl⟩ := pairwise_cons.1 hl
    rw [firstMax_cons, firstMax_cons, ih hl]
    cases hc : l.firstMax rank with
    | none => rfl
    | some c =>
      have hiff : ts a < ts c ↔ rank a < rank c := by
        refine ⟨hts a c, fun hlt => ?_⟩
        rcases ha c (argmax_mem hc) with h | h
        · exact h
        · exact absurd h hlt.asymm
      simp only [hiff]

/-- The greatest element of a rank that tells the elements apart. -/
theorem firstMax_eq_some_iff_of_injOn {l : List α} {m : α}
    (hinj : ∀ a ∈ l, ∀ b ∈ l, rank a = rank b → a = b) :
    l.firstMax rank = some m ↔ m ∈ l ∧ ∀ a ∈ l, rank a ≤ rank m := by
  refine ⟨?_, ?_⟩
  · intro h
    exact ⟨argmax_mem h, fun a ha => le_of_mem_argmax ha h⟩
  · rintro ⟨hm, hle⟩
    cases hc : l.firstMax rank with
    | none =>
      rw [argmax_eq_none.1 hc] at hm
      cases hm
    | some c =>
      have hcm : c ∈ l := argmax_mem hc
      have heq : rank c = rank m := le_antisymm (hle c hcm) (le_of_mem_argmax hm hc)
      rw [hinj c hcm m hm heq]

/-- It depends on the elements only. -/
theorem firstMax_congr_of_mem {l l' : List α} (hinj : ∀ a ∈ l, ∀ b ∈ l, rank a = rank b → a = b)
    (hmem : ∀ a, a ∈ l' ↔ a ∈ l) : l'.firstMax rank = l.firstMax rank := by
  refine Option.ext fun m => ?_
  have hinj' : ∀ a ∈ l', ∀ b ∈ l', rank a = rank b → a = b := fun a ha b hb =>
    hinj a ((hmem a).1 ha) b ((hmem b).1 hb)
  rw [firstMax_eq_some_iff_of_injOn hinj, firstMax_eq_some_iff_of_injOn hinj', hmem]
  simp only [hmem]

/-- Adding an element anywhere is one comparison. -/
theorem firstMax_of_mem_cons {l l' : List α} {e : α}
    (hinj : ∀ a ∈ l', ∀ b ∈ l', rank a = rank b → a = b)
    (hmem : ∀ a, a ∈ l' ↔ a ∈ l ∨ a = e) :
    l'.firstMax rank =
      match l.firstMax rank with
      | none => some e
      | some c => if rank c < rank e then some e else some c := by
  have hcongr : (l ++ [e]).firstMax rank = l'.firstMax rank := by
    refine firstMax_congr_of_mem hinj fun a => ?_
    rw [hmem, mem_append, mem_singleton]
  rw [← hcongr, firstMax_concat]

end List
