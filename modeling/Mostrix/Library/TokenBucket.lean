import Mathlib.Algebra.Order.Field.Basic
import Mathlib.Data.Nat.Cast.Order.Ring
import Mathlib.Tactic.Linarith
import Mathlib.Tactic.Ring

/-!
# Token buckets

A bucket holds at most `capacity` tokens and gains `rate` of them a second; an arrival is allowed
when a whole token is there, which it takes. The time since the last arrival counts as none when the
clock went back.

Tokens are a budget: what the arrivals up to `b` are allowed is paid with the tokens there are and
those gained until `b` (`length_allowed_le`). In a window that starts later, the tokens there are
when its first arrival comes are at most `capacity`, so no window allows more than that and what is
gained in it (`length_allowed_window_le`).
-/

namespace TokenBucket

variable {K : Type _} [Field K] [LinearOrder K]

/-- The parameters of a bucket. -/
structure Params (K : Type _) [Field K] [LinearOrder K] where
  capacity : K
  rate : K
  capacity_nonneg : 0 ≤ capacity
  rate_nonneg : 0 ≤ rate

/-- The tokens of a bucket, as of the last arrival. -/
structure Bucket (K : Type _) where
  tokens : K
  last : K

variable (p : Params K)

/-- The tokens there are at `now`. -/
def refill (s : Bucket K) (now : K) : K :=
  min (s.tokens + max 0 (now - s.last) * p.rate) p.capacity

/-- An arrival at `now`: the bucket it leaves, and whether it is allowed. -/
def arrive (s : Bucket K) (now : K) : Bucket K × Bool :=
  if 1 ≤ refill p s now then ({ tokens := refill p s now - 1, last := now }, true)
  else ({ tokens := refill p s now, last := now }, false)

/-- The arrivals that are allowed, one after another. -/
def allowed (s : Bucket K) : List K → List K
  | [] => []
  | now :: arrivals =>
    if (arrive p s now).2 then now :: allowed (arrive p s now).1 arrivals
    else allowed (arrive p s now).1 arrivals

variable {p}

@[simp] theorem last_arrive (s : Bucket K) (now : K) : (arrive p s now).1.last = now := by
  unfold arrive
  split <;> rfl

/-- An arrival pays for what it is allowed. -/
theorem tokens_arrive (s : Bucket K) (now : K) :
    (arrive p s now).1.tokens + (if (arrive p s now).2 then 1 else 0) = refill p s now := by
  unfold arrive
  split
  · exact sub_add_cancel _ _
  · exact add_zero _

theorem refill_le_capacity (s : Bucket K) (now : K) : refill p s now ≤ p.capacity :=
  min_le_right _ _

/-- Only arrivals are allowed. -/
theorem allowed_sublist (s : Bucket K) (arrivals : List K) :
    (allowed p s arrivals).Sublist arrivals := by
  induction arrivals generalizing s with
  | nil => exact List.Sublist.refl _
  | cons now arrivals ih =>
    rw [allowed]
    split
    · exact (ih _).cons_cons now
    · exact (ih _).cons now

/-- What is allowed of arrivals from `now` on is not before `now`. -/
theorem le_of_mem_allowed {s : Bucket K} {now t : K} {arrivals : List K}
    (hsorted : (now :: arrivals).Pairwise (· ≤ ·)) (ht : t ∈ allowed p s (now :: arrivals)) :
    now ≤ t := by
  rcases List.mem_cons.1 ((allowed_sublist s _).subset ht) with rfl | hmem
  · exact le_refl _
  · exact (List.pairwise_cons.1 hsorted).1 t hmem

/-- Nothing that comes after `b` is allowed up to `b`. -/
theorem allowed_late {s : Bucket K} {now b : K} {arrivals : List K}
    (hsorted : (now :: arrivals).Pairwise (· ≤ ·)) (hb : b < now) :
    (allowed p s (now :: arrivals)).filter (· ≤ b) = [] := by
  refine List.filter_eq_nil_iff.2 fun t ht => ?_
  simpa using hb.trans_le (le_of_mem_allowed hsorted ht)

/-- An arrival that is in time counts when it is allowed. -/
theorem length_allowed_cons (s : Bucket K) {now b : K} (hb : now ≤ b) (arrivals : List K) :
    (((allowed p s (now :: arrivals)).filter (· ≤ b)).length : K) =
      ((allowed p (arrive p s now).1 arrivals).filter (· ≤ b)).length +
        if (arrive p s now).2 then 1 else 0 := by
  rw [allowed]
  split
  · rw [List.filter_cons_of_pos (by simpa using hb), List.length_cons, Nat.cast_succ]
  · rw [add_zero]

variable [IsStrictOrderedRing K]

/-- The tokens of a bucket are neither negative nor more than its capacity. -/
def Bucket.InRange (p : Params K) (s : Bucket K) : Prop := 0 ≤ s.tokens ∧ s.tokens ≤ p.capacity

theorem refill_nonneg {s : Bucket K} (h : 0 ≤ s.tokens) (now : K) : 0 ≤ refill p s now := by
  have hgain : 0 ≤ max 0 (now - s.last) * p.rate := mul_nonneg (le_max_left _ _) p.rate_nonneg
  exact le_min (add_nonneg h hgain) p.capacity_nonneg

theorem inRange_arrive {s : Bucket K} (h : s.InRange p) (now : K) :
    (arrive p s now).1.InRange p := by
  have hcap : refill p s now ≤ p.capacity := refill_le_capacity s now
  unfold arrive
  split
  · next hone =>
    exact ⟨sub_nonneg.2 hone, (sub_le_self _ zero_le_one).trans hcap⟩
  · exact ⟨refill_nonneg h.1 now, hcap⟩

/-- What is there at a later instant was there or was gained since. -/
theorem refill_le {s : Bucket K} {now : K} (h : s.last ≤ now) :
    refill p s now ≤ s.tokens + p.rate * (now - s.last) := by
  refine (min_le_left _ _).trans ?_
  rw [max_eq_right (sub_nonneg.2 h), mul_comm]

/-- The arrivals from `now` to `b` that are allowed are paid with the tokens that are there at `now`
and those gained until `b`. -/
theorem length_allowed_le {s : Bucket K} (hs : s.InRange p) {now : K} {arrivals : List K}
    (hsorted : (now :: arrivals).Pairwise (· ≤ ·)) {b : K} (hb : now ≤ b) :
    (((allowed p s (now :: arrivals)).filter (· ≤ b)).length : K) ≤
      refill p s now + p.rate * (b - now) := by
  induction arrivals generalizing s now with
  | nil =>
    have hgain : 0 ≤ p.rate * (b - now) := mul_nonneg p.rate_nonneg (sub_nonneg.2 hb)
    have hpaid := tokens_arrive (p := p) s now
    have hleft := (inRange_arrive hs now).1
    rw [length_allowed_cons s hb]
    simp only [allowed, List.filter_nil, List.length_nil, Nat.cast_zero]
    linarith
  | cons next arrivals ih =>
    obtain ⟨hnow, hrest⟩ := List.pairwise_cons.1 hsorted
    have hle : now ≤ next := hnow next (List.mem_cons_self ..)
    have hnext := inRange_arrive hs now
    have hpaid := tokens_arrive (p := p) s now
    rw [length_allowed_cons s hb]
    rcases le_or_gt next b with hin | hlate
    · have hcount := ih hnext hrest hin
      have hrefill : refill p (arrive p s now).1 next ≤
          (arrive p s now).1.tokens + p.rate * (next - now) := by
        have hlast : (arrive p s now).1.last ≤ next := by rwa [last_arrive]
        have h := refill_le (p := p) hlast
        rwa [last_arrive] at h
      have hsplit : p.rate * (b - now) = p.rate * (next - now) + p.rate * (b - next) := by ring
      linarith
    · have hgain : 0 ≤ p.rate * (b - now) := mul_nonneg p.rate_nonneg (sub_nonneg.2 hb)
      rw [allowed_late hrest hlate, List.length_nil, Nat.cast_zero]
      linarith [hnext.1]

/-- No window from `a` to `b` allows more than the capacity and what is gained in it. -/
theorem length_allowed_window_le {s : Bucket K} (hs : s.InRange p) {arrivals : List K}
    (hsorted : arrivals.Pairwise (· ≤ ·)) {a b : K} (hab : a ≤ b) :
    (((allowed p s arrivals).filter fun t => a ≤ t ∧ t ≤ b).length : K) ≤
      p.capacity + p.rate * (b - a) := by
  have hgain : 0 ≤ p.rate * (b - a) := mul_nonneg p.rate_nonneg (sub_nonneg.2 hab)
  induction arrivals generalizing s with
  | nil => simpa [allowed] using add_nonneg p.capacity_nonneg hgain
  | cons now arrivals ih =>
    rcases lt_or_ge now a with hbefore | hge
    · have hrest := ih (inRange_arrive hs now) (List.pairwise_cons.1 hsorted).2
      rw [allowed]
      split
      · rwa [List.filter_cons_of_neg (by simp [hbefore])]
      · exact hrest
    · -- All arrivals from here on are after the start of the window.
      have hfilter : (allowed p s (now :: arrivals)).filter (fun t => a ≤ t ∧ t ≤ b) =
          (allowed p s (now :: arrivals)).filter (· ≤ b) := by
        refine List.filter_congr fun t ht => ?_
        simp [hge.trans (le_of_mem_allowed hsorted ht)]
      rw [hfilter]
      rcases le_or_gt now b with hin | hlate
      · have hcount := length_allowed_le hs hsorted hin
        have hcap := refill_le_capacity (p := p) s now
        have hshorter : p.rate * (b - now) ≤ p.rate * (b - a) :=
          mul_le_mul_of_nonneg_left (sub_le_sub_left hge b) p.rate_nonneg
        linarith
      · rw [allowed_late hsorted hlate]
        simpa using add_nonneg p.capacity_nonneg hgain

end TokenBucket
