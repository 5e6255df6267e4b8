import Mathlib.Data.List.Induction

/-!
# Runs of a step function, and guards on their steps

A system is a step function `next : σ → α → σ` on states `σ` and step labels `α`; a run is a list
of labels, and the state it reaches is the left fold of `next`. `Guarded next guard s as` says that
every step of the run `as` from `s` meets `guard` in the state it is taken from.

`Guarded.invariant` is the induction rule: what guarded steps preserve, guarded runs preserve.
`Guarded.iff_invariant` is its exact form: where a step from a good state is good exactly when it
meets the guard, a run is guarded exactly when every state it reaches is good. The `related` rules
are about what holds between a state and the later ones.
-/

namespace Run

variable {σ : Type _} {α : Type _} {next : σ → α → σ} {guard : σ → α → Prop} {I : σ → Prop}

/-- Every step of the run `as` from `s` meets `guard` in the state it is taken from. -/
def Guarded (next : σ → α → σ) (guard : σ → α → Prop) : σ → List α → Prop
  | _, [] => True
  | s, a :: as => guard s a ∧ Guarded next guard (next s a) as

@[simp] theorem guarded_nil (s : σ) : Guarded next guard s [] := trivial

@[simp] theorem guarded_cons (s : σ) (a : α) (as : List α) :
    Guarded next guard s (a :: as) ↔ guard s a ∧ Guarded next guard (next s a) as := Iff.rfl

/-- A run is guarded when its first part is and its second part is from the state reached. -/
theorem guarded_append {s : σ} {as bs : List α} :
    Guarded next guard s (as ++ bs) ↔
      Guarded next guard s as ∧ Guarded next guard (as.foldl next s) bs := by
  induction as generalizing s with
  | nil => simp
  | cons a as ih => simp [ih, and_assoc]

/-- What every guarded step preserves, a guarded run preserves. -/
theorem Guarded.invariant (hstep : ∀ s a, guard s a → I s → I (next s a)) {s : σ} {as : List α}
    (hg : Guarded next guard s as) (hs : I s) : I (as.foldl next s) := by
  induction as generalizing s with
  | nil => exact hs
  | cons a as ih => exact ih hg.2 (hstep s a hg.1 hs)

/-- The invariant holds in every state a guarded run passes through. -/
theorem Guarded.invariant_prefix (hstep : ∀ s a, guard s a → I s → I (next s a)) {s : σ}
    {as bs : List α} (hg : Guarded next guard s (as ++ bs)) (hs : I s) : I (as.foldl next s) :=
  Guarded.invariant hstep (guarded_append.1 hg).1 hs

/-- Where the steps of a kind meet the guard in a good state and keep it good, a run of that kind is
guarded. -/
theorem Guarded.of_invariant {kind : α → Prop}
    (hstep : ∀ s a, kind a → I s → guard s a ∧ I (next s a)) {s : σ} {as : List α}
    (hkind : ∀ a ∈ as, kind a) (hs : I s) : Guarded next guard s as := by
  induction as generalizing s with
  | nil => trivial
  | cons a as ih =>
    obtain ⟨ha, has⟩ := List.forall_mem_cons.1 hkind
    obtain ⟨hg, hnext⟩ := hstep s a ha hs
    exact ⟨hg, ih has hnext⟩

/-- What every step preserves, every run preserves. -/
theorem invariant (hstep : ∀ s a, I s → I (next s a)) (as : List α) {s : σ} (hs : I s) :
    I (as.foldl next s) := by
  induction as generalizing s with
  | nil => exact hs
  | cons a as ih => exact ih (hstep s a hs)

/-- Where the guard says exactly which steps keep a good state good, a run is guarded exactly when
every state it passes through is good. -/
theorem Guarded.iff_invariant (hstep : ∀ s a, I s → (I (next s a) ↔ guard s a)) {s : σ}
    (hs : I s) (as : List α) :
    Guarded next guard s as ↔ ∀ bs cs, as = bs ++ cs → I (bs.foldl next s) := by
  refine ⟨?_, ?_⟩
  · rintro hg bs cs rfl
    exact Guarded.invariant_prefix (fun t a ha ht => (hstep t a ht).2 ha) hg hs
  · intro h
    induction as generalizing s with
    | nil => trivial
    | cons a as ih =>
      have h1 : I (next s a) := h [a] as rfl
      refine ⟨(hstep s a hs).1 h1, ih h1 fun bs cs hbs => ?_⟩
      exact h (a :: bs) cs (by rw [hbs]; rfl)

/-- A run is guarded exactly when each step meets the guard in the state it is taken from. -/
theorem guarded_iff_forall {s : σ} {as : List α} :
    Guarded next guard s as ↔ ∀ bs a cs, as = bs ++ a :: cs → guard (bs.foldl next s) a := by
  refine ⟨?_, ?_⟩
  · rintro hg bs a cs rfl
    exact (guarded_append.1 hg).2.1
  · intro h
    induction as generalizing s with
    | nil => trivial
    | cons a as ih =>
      refine ⟨h [] a as rfl, ih fun bs b cs hbs => ?_⟩
      exact h (a :: bs) b cs (by rw [hbs]; rfl)

/-- Where the guard says exactly which steps from a good state are as they should be, and guarded
steps keep a state good, a run is guarded exactly when each of its steps is as it should be. -/
theorem Guarded.iff_steps {Q : σ → α → Prop} (hgood : ∀ s a, guard s a → I s → I (next s a))
    (hstep : ∀ s a, I s → (guard s a ↔ Q s a)) {s : σ} (hs : I s) (as : List α) :
    Guarded next guard s as ↔ ∀ bs a cs, as = bs ++ a :: cs → Q (bs.foldl next s) a := by
  rw [← guarded_iff_forall]
  induction as generalizing s with
  | nil => exact Iff.rfl
  | cons a as ih =>
    rw [guarded_cons, guarded_cons, ← hstep s a hs]
    exact and_congr_right fun hg => ih (hgood s a hg hs)

/-- What relates every state to its successors, for a relation that is reflexive and transitive,
relates it to every later one. -/
theorem related {R : σ → σ → Prop} (hrefl : ∀ s, R s s)
    (htrans : ∀ {s t u}, R s t → R t u → R s u) (hstep : ∀ s a, R s (next s a)) {s : σ}
    (as : List α) : R s (as.foldl next s) := by
  induction as generalizing s with
  | nil => exact hrefl s
  | cons a as ih => exact htrans (hstep s a) ih

/-- The same of the steps of a guarded run. -/
theorem Guarded.related {R : σ → σ → Prop} (hrefl : ∀ s, R s s)
    (htrans : ∀ {s t u}, R s t → R t u → R s u) (hstep : ∀ s a, guard s a → R s (next s a))
    {s : σ} {as : List α} (hg : Guarded next guard s as) : R s (as.foldl next s) := by
  induction as generalizing s with
  | nil => exact hrefl s
  | cons a as ih => exact htrans (hstep s a hg.1) (ih hg.2)

/-- Where the guard says exactly which steps relate a state to its successor, a run is guarded
exactly when each of its states is related to every later one. -/
theorem Guarded.iff_related {R : σ → σ → Prop} (hrefl : ∀ s, R s s)
    (htrans : ∀ {s t u}, R s t → R t u → R s u) (hstep : ∀ s a, R s (next s a) ↔ guard s a)
    {s : σ} (as : List α) :
    Guarded next guard s as ↔
      ∀ bs cs ds, as = bs ++ cs ++ ds → R (bs.foldl next s) ((bs ++ cs).foldl next s) := by
  refine ⟨?_, ?_⟩
  · rintro hg bs cs ds rfl
    have hcs := (guarded_append.1 (guarded_append.1 hg).1).2
    rw [List.foldl_append]
    exact Guarded.related hrefl htrans (fun t a ha => (hstep t a).2 ha) hcs
  · intro h
    induction as generalizing s with
    | nil => trivial
    | cons a as ih =>
      refine ⟨(hstep s a).1 (h [] [a] as rfl), ih fun bs cs ds hbs => ?_⟩
      exact h (a :: bs) cs ds (by rw [hbs]; rfl)

/-- Where the guard says exactly which steps relate a state to its successor, and what is lost stays
lost, a run is guarded exactly when its end is related to its start. `G` is what relates every state
to its successor. -/
theorem Guarded.iff_related_end {R G : σ → σ → Prop} (hrefl : ∀ s, R s s)
    (htrans : ∀ {s t u}, R s t → R t u → R s u) (hGrefl : ∀ s, G s s)
    (hGtrans : ∀ {s t u}, G s t → G t u → G s u) (hG : ∀ s a, G s (next s a))
    (hstep : ∀ s a, R s (next s a) ↔ guard s a)
    (hlost : ∀ {s t u}, G s t → G t u → R s u → R s t ∧ R t u) {s : σ} (as : List α) :
    Guarded next guard s as ↔ R s (as.foldl next s) := by
  induction as generalizing s with
  | nil => exact iff_of_true trivial (hrefl s)
  | cons a as ih =>
    refine (and_congr (hstep s a).symm ih).trans ?_
    exact ⟨fun h => htrans h.1 h.2, hlost (hG s a) (Run.related hGrefl hGtrans hG as)⟩

/-- What a run brings about, one of its steps brings about. -/
theorem exists_step {P : σ → Prop} {s : σ} {as : List α} (hnot : ¬ P s)
    (h : P (as.foldl next s)) :
    ∃ bs a cs, as = bs ++ a :: cs ∧ ¬ P (bs.foldl next s) ∧ P (next (bs.foldl next s) a) := by
  induction as generalizing s with
  | nil => exact absurd h hnot
  | cons a as ih =>
    by_cases ha : P (next s a)
    · exact ⟨[], a, as, rfl, hnot, ha⟩
    · obtain ⟨bs, b, cs, rfl, hbefore, hafter⟩ := ih ha h
      exact ⟨a :: bs, b, cs, rfl, hbefore, hafter⟩

section session
variable {P : Type _} {there : σ → Option P} {I : σ → α → List α → P → Prop}

/-- Something that one step of the run `as` from `s` opened, and that was there from then on. `I` is
about the state and the step it was opened with, the steps since, and what it is now. -/
def Opened (next : σ → α → σ) (there : σ → Option P) (I : σ → α → List α → P → Prop) (s : σ)
    (as : List α) (p : P) : Prop :=
  ∃ bs b cs, as = bs ++ b :: cs ∧ I (bs.foldl next s) b cs p ∧
    ∀ ms ns, cs = ms ++ ns → (there ((bs ++ b :: ms).foldl next s)).isSome

/-- What has just been opened. -/
theorem Opened.start {s : σ} {as : List α} {a : α} {p : P} (h : I (as.foldl next s) a [] p)
    (hthere : there ((as ++ [a]).foldl next s) = some p) : Opened next there I s (as ++ [a]) p := by
  refine ⟨as, a, [], rfl, h, fun ms ns hcs => ?_⟩
  obtain ⟨rfl, -⟩ := List.append_eq_nil_iff.1 hcs.symm
  rw [hthere]
  rfl

/-- What was there before a step, and has been edited by it. -/
theorem Opened.step {s : σ} {as : List α} {a : α} {p q : P} (h : Opened next there I s as q)
    (hedit : ∀ t b cs, I t b cs q → I t b (cs ++ [a]) p)
    (hthere : there ((as ++ [a]).foldl next s) = some p) : Opened next there I s (as ++ [a]) p := by
  obtain ⟨bs, b, cs, rfl, hI, hstays⟩ := h
  refine ⟨bs, b, cs ++ [a], by simp, hedit _ b cs hI, fun ms ns hcs => ?_⟩
  rcases List.eq_nil_or_concat ns with rfl | ⟨ns', last, rfl⟩
  · rw [List.append_nil] at hcs
    subst hcs
    rw [show bs ++ b :: (cs ++ [a]) = bs ++ b :: cs ++ [a] by simp, hthere]
    rfl
  · rw [List.concat_eq_append, ← List.append_assoc] at hcs
    exact hstays ms ns' (List.append_inj_left' hcs rfl)

/-- Where something is there at the end of a run, one step opened it, it has been there since, and
what the opening gives and every edit keeps holds of it. -/
theorem opened (hnext : ∀ s a p, there (next s a) = some p → I s a [] p ∨
      ∃ q, there s = some q ∧ ∀ t b cs, I t b cs q → I t b (cs ++ [a]) p)
    {s : σ} (hnone : there s = none) (as : List α) {p : P} (h : there (as.foldl next s) = some p) :
    Opened next there I s as p := by
  have hfrom : ∀ (rest done : List α),
      (∀ q, there (done.foldl next s) = some q → Opened next there I s done q) →
      ∀ q, there ((done ++ rest).foldl next s) = some q →
        Opened next there I s (done ++ rest) q := by
    intro rest
    induction rest with
    | nil =>
      intro done hdone q hq
      rw [List.append_nil] at hq ⊢
      exact hdone q hq
    | cons a rest ih =>
      intro done hdone q hq
      have happend : done ++ a :: rest = (done ++ [a]) ++ rest := by simp
      rw [happend] at hq ⊢
      refine ih (done ++ [a]) (fun r hr => ?_) q hq
      have hstep := hr
      rw [List.foldl_append] at hstep
      rcases hnext _ a r hstep with hopen | ⟨t, ht, hedit⟩
      · exact .start hopen hr
      · exact (hdone t ht).step hedit hr
  refine hfrom as [] (fun q hq => ?_) p h
  rw [List.foldl_nil, hnone] at hq
  cases hq

/-- Where something is there at the end of a run, and each step either brings it about afresh or edits
what was there, it is what one step brought about with the edits of the steps since, and was at all
times between. -/
theorem opened_edits {fresh : σ → α → P → Prop} {edit : P → α → P}
    (hnext : ∀ s a p, there (next s a) = some p → fresh s a p ∨
      ∃ q, there s = some q ∧ p = edit q a)
    {s : σ} (hnone : there s = none) (as : List α) {p : P} (h : there (as.foldl next s) = some p) :
    ∃ bs b cs start, as = bs ++ b :: cs ∧ fresh (bs.foldl next s) b start ∧
      p = cs.foldl edit start ∧
      ∀ ms ns, cs = ms ++ ns →
        there ((bs ++ b :: ms).foldl next s) = some (ms.foldl edit start) := by
  induction as using List.reverseRecOn generalizing p with
  | nil =>
    rw [List.foldl_nil, hnone] at h
    cases h
  | append_singleton as a ih =>
    have hlast := h
    rw [List.foldl_append] at hlast
    rcases hnext _ a p hlast with hfresh | ⟨q, hq, rfl⟩
    · refine ⟨as, a, [], p, rfl, hfresh, rfl, fun ms ns hcs => ?_⟩
      obtain ⟨rfl, -⟩ := List.append_eq_nil_iff.1 hcs.symm
      exact h
    · obtain ⟨bs, b, cs, start, rfl, hfresh, rfl, hstays⟩ := ih hq
      refine ⟨bs, b, cs ++ [a], start, by simp, hfresh, by simp, fun ms ns hcs => ?_⟩
      rcases List.eq_nil_or_concat ns with rfl | ⟨ns', last, rfl⟩
      · rw [List.append_nil] at hcs
        subst hcs
        simpa using h
      · rw [List.concat_eq_append, ← List.append_assoc] at hcs
        exact hstays ms ns' (List.append_inj_left' hcs rfl)

end session

end Run
