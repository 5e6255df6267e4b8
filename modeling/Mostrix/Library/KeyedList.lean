import Mathlib.Data.List.Nodup
import Mathlib.Data.List.Perm.Basic

/-!
# Lists with one element per key

A list whose elements have a key, kept as a map would be: `entry` finds the element of a key,
`assign` overwrites the first element with the key of the new one, and `upsert` overwrites or
appends; `extend` appends what has a new key. The lemmas say what each leaves under every key, and
that the keys stay distinct.
-/

namespace KeyedList

variable {α κ : Type _}

/-- No two elements have one key. -/
def Distinct (key : α → κ) (l : List α) : Prop := l.Pairwise fun a b => key a ≠ key b

variable [DecidableEq κ]

/-- The first element with a key. -/
def entry (key : α → κ) (l : List α) (k : κ) : Option α := l.find? fun a => key a = k

/-- Overwrite the first element that has the key of `a`. -/
def assign (key : α → κ) (a : α) : List α → List α
  | [] => []
  | b :: bs => if key b = key a then a :: bs else b :: assign key a bs

/-- Overwrite the element that has the key of `a`, or append `a`. -/
def upsert (key : α → κ) (l : List α) (a : α) : List α :=
  match entry key l (key a) with
  | some _ => assign key a l
  | none => l ++ [a]

variable {key : α → κ} {l l' : List α} {a : α} {k : κ}

omit [DecidableEq κ] in
theorem distinct_iff_nodup : Distinct key l ↔ (l.map key).Nodup := List.pairwise_map.symm

omit [DecidableEq κ] in
theorem distinct_perm (h : Distinct key l) (hp : l.Perm l') : Distinct key l' :=
  distinct_iff_nodup.2 ((hp.map key).nodup_iff.1 (distinct_iff_nodup.1 h))

/-- An entry is an element with its key. -/
theorem entry_spec (h : entry key l k = some a) : a ∈ l ∧ key a = k :=
  ⟨List.mem_of_find?_eq_some h, by simpa using List.find?_some h⟩

/-- With distinct keys, every element is the entry of its key. -/
theorem entry_eq_some_iff (h : Distinct key l) : entry key l k = some a ↔ a ∈ l ∧ key a = k := by
  refine ⟨entry_spec, ?_⟩
  rintro ⟨hmem, rfl⟩
  obtain ⟨b, hb⟩ : ∃ b, entry key l (key a) = some b :=
    Option.isSome_iff_exists.1 (List.find?_isSome.2 ⟨a, hmem, by simp⟩)
  obtain ⟨hbmem, hbkey⟩ := entry_spec hb
  rw [hb, List.inj_on_of_nodup_map (distinct_iff_nodup.1 h) hbmem hmem hbkey]

/-- With distinct keys, the order of the elements does not matter. -/
theorem entry_perm (h : Distinct key l) (hp : l.Perm l') (k : κ) :
    entry key l k = entry key l' k := by
  have h' : Distinct key l' := distinct_perm h hp
  refine Option.ext fun a => ?_
  rw [entry_eq_some_iff h, entry_eq_some_iff h', hp.mem_iff]

/-- Overwriting an element keeps the list of keys. -/
@[simp] theorem map_assign : (assign key a l).map key = l.map key := by
  induction l with
  | nil => rfl
  | cons b bs ih =>
    unfold assign
    split
    · rename_i h
      rw [List.map_cons, List.map_cons, h]
    · rw [List.map_cons, List.map_cons, ih]

/-- Overwriting changes the entry of its key, if there is one, and no other. -/
theorem entry_assign : entry key (assign key a l) k =
    if key a = k then (entry key l k).map fun _ => a else entry key l k := by
  induction l with
  | nil => simp [assign, entry]
  | cons b bs ih =>
    unfold assign
    unfold entry at *
    by_cases hb : key b = key a
    · by_cases hk : key a = k
      · simp [hb, hk]
      · simp [hb, hk]
    · by_cases hbk : key b = k
      · subst hbk
        simp [hb, Ne.symm hb]
      · simp [hb, hbk, ih]

/-- Upserting sets the entry of its key and changes no other. -/
theorem entry_upsert : entry key (upsert key l a) k =
    if key a = k then some a else entry key l k := by
  unfold upsert
  cases h : entry key l (key a) with
  | some b =>
    rw [entry_assign]
    split
    · rename_i hk
      rw [← hk, h, Option.map_some]
    · rfl
  | none =>
    have happend : entry key (l ++ [a]) k = (entry key l k).or (entry key [a] k) :=
      List.find?_append
    rw [happend]
    by_cases hk : key a = k
    · rw [← hk, h]
      simp [entry]
    · simp [entry, hk]

/-- Upserting keeps the keys distinct. -/
theorem distinct_upsert (h : Distinct key l) : Distinct key (upsert key l a) := by
  unfold upsert
  cases hk : entry key l (key a) with
  | some b =>
    dsimp only
    rw [distinct_iff_nodup, map_assign]
    exact distinct_iff_nodup.1 h
  | none =>
    refine List.pairwise_append.2 ⟨h, List.pairwise_singleton _ _, fun b hb c hc hbc => ?_⟩
    rw [List.mem_singleton.1 hc] at hbc
    have hsome := (entry_eq_some_iff h).2 ⟨hb, hbc⟩
    rw [hk] at hsome
    cases hsome

/-- Overwriting brings no element but the new one. -/
theorem mem_of_mem_assign {b : α} (h : b ∈ assign key a l) : b = a ∨ b ∈ l := by
  induction l with
  | nil => cases h
  | cons c cs ih =>
    unfold assign at h
    split at h
    · rcases List.mem_cons.1 h with rfl | h
      · exact .inl rfl
      · exact .inr (.tail _ h)
    · rcases List.mem_cons.1 h with rfl | h
      · exact .inr (.head _)
      · exact (ih h).imp_right (.tail _)

/-- Upserting brings no element but the new one. -/
theorem mem_of_mem_upsert {b : α} (h : b ∈ upsert key l a) : b = a ∨ b ∈ l := by
  unfold upsert at h
  split at h
  · exact mem_of_mem_assign h
  · rcases List.mem_append.1 h with h | h
    · exact .inr h
    · exact .inl (List.mem_singleton.1 h)

/-- What upserting leaves: the new element, and the others with another key. -/
theorem mem_upsert (h : Distinct key l) {b : α} :
    b ∈ upsert key l a ↔ b = a ∨ b ∈ l ∧ key b ≠ key a := by
  have hmem : b ∈ upsert key l a ↔ entry key (upsert key l a) (key b) = some b := by
    rw [entry_eq_some_iff (distinct_upsert h)]
    exact (and_iff_left rfl).symm
  rw [hmem, entry_upsert]
  by_cases hk : key a = key b
  · simp [hk, eq_comm]
  · rw [if_neg hk, entry_eq_some_iff h]
    refine ⟨fun hb => .inr ⟨hb.1, Ne.symm hk⟩, ?_⟩
    rintro (rfl | hb)
    · exact absurd rfl hk
    · exact ⟨hb.1, rfl⟩

/-! ## Appending what is new -/

/-- Append the elements whose key the list does not have yet, one after the other. -/
def extend (key : α → κ) (l : List α) : List α → List α
  | [] => l
  | a :: as => extend key (if l.all fun b => key b ≠ key a then l ++ [a] else l) as

/-- Nothing is taken away. -/
theorem mem_extend_of_mem (as : List α) (h : a ∈ l) : a ∈ extend key l as := by
  induction as generalizing l with
  | nil => exact h
  | cons b bs ih =>
    apply ih
    split
    · exact List.mem_append_left _ h
    · exact h

/-- What is there was there or was to be appended. -/
theorem mem_of_mem_extend {as : List α} (h : a ∈ extend key l as) : a ∈ l ∨ a ∈ as := by
  induction as generalizing l with
  | nil => exact .inl h
  | cons b bs ih =>
    rcases ih h with hmem | hmem
    · split at hmem
      · rcases List.mem_append.1 hmem with hmem | hmem
        · exact .inl hmem
        · exact .inr (List.mem_singleton.1 hmem ▸ .head _)
      · exact .inl hmem
    · exact .inr (.tail _ hmem)

/-- Each key that was to be appended is there. -/
theorem exists_key_mem_extend {as : List α} (h : a ∈ as) : ∃ b ∈ extend key l as, key b = key a := by
  induction as generalizing l with
  | nil => cases h
  | cons c cs ih =>
    rcases List.mem_cons.1 h with rfl | h
    · unfold extend
      split
      · exact ⟨a, mem_extend_of_mem cs (List.mem_append_right _ (.head _)), rfl⟩
      next hall =>
        simp only [ne_eq, decide_not, List.all_eq_true, Bool.not_eq_true', decide_eq_false_iff_not,
          not_forall, not_not] at hall
        obtain ⟨b, hb, hkey⟩ := hall
        exact ⟨b, mem_extend_of_mem cs hb, hkey⟩
    · exact ih h

/-- The first element of a key is the entry: what is there stays. -/
theorem entry_extend (as : List α) :
    entry key (extend key l as) k = (entry key l k).or (entry key as k) := by
  have happend : ∀ bs cs : List α, entry key (bs ++ cs) k = (entry key bs k).or (entry key cs k) :=
    fun _ _ => List.find?_append
  induction as generalizing l with
  | nil => exact (Option.or_none).symm
  | cons b bs ih =>
    unfold extend
    rw [ih, show b :: bs = [b] ++ bs from rfl, happend [b] bs, ← Option.or_assoc]
    split
    · rw [happend]
    next hall =>
      -- the entry of its key is there already
      by_cases hkey : key b = k
      · cases hentry : entry key l k with
        | some c => rfl
        | none =>
          refine absurd (List.all_eq_true.2 fun c hc => ?_) hall
          have hne := List.find?_eq_none.1 hentry c hc
          simpa [hkey] using hne
      · simp [entry, hkey]

/-- The keys stay distinct. -/
theorem distinct_extend (h : Distinct key l) (as : List α) : Distinct key (extend key l as) := by
  induction as generalizing l with
  | nil => exact h
  | cons b bs ih =>
    apply ih
    split
    next hall =>
      refine List.pairwise_append.2 ⟨h, List.pairwise_singleton _ _, fun a ha c hc => ?_⟩
      rw [List.mem_singleton.1 hc]
      simpa using List.all_eq_true.1 hall a ha
    next => exact h

end KeyedList
