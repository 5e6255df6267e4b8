import Mathlib.Algebra.Order.Ring.Rat
import Mostrix.Library.Table
import Mostrix.Library.TokenBucket

/-!
# The chat rate limiter

`ChatRateLimiter` and `ChatRateLimiters` of `util/chat_security.rs`: a token bucket for each chat,
which bounds how many of its events are decrypted. The tokens are doubles in the source and
rationals here.

A limiter is a bucket of `Mostrix.Library.TokenBucket` (`allowAt_eq_arrive`), and a chat's limiter
sees the arrivals of that chat alone (`limiter_run`).
-/

namespace Mostrix.Chat

/-- `CHAT_RATE_PER_MINUTE`. -/
def chatRatePerMinute : ℚ := 30

/-- `CHAT_RATE_BURST`. -/
def chatRateBurst : ℚ := 60

/-- A reading of the monotonic clock, in nanoseconds. -/
abbrev Instant := Nat

/-- `as_secs_f64` of as many nanoseconds. -/
def asSecs (nanos : Nat) : ℚ := (nanos : ℚ) / 10 ^ 9

/-- `ChatRateLimiter`. -/
structure ChatRateLimiter where
  tokens : ℚ
  last : Instant
deriving DecidableEq, Repr

namespace ChatRateLimiter

/-- `ChatRateLimiter::new`, at `now`. -/
def new (now : Instant) : ChatRateLimiter where
  tokens := chatRateBurst
  last := now

/-- `ChatRateLimiter::allow_at`; `duration_since` of a later instant is zero. -/
def allowAt (l : ChatRateLimiter) (now : Instant) : ChatRateLimiter × Bool :=
  let elapsed := asSecs (now - l.last)
  let tokens := min (l.tokens + elapsed * (chatRatePerMinute / 60)) chatRateBurst
  if tokens ≥ 1 then ({ tokens := tokens - 1, last := now }, true)
  else ({ tokens, last := now }, false)

/-- The limiter after events arrived one after another. -/
def run (l : ChatRateLimiter) (arrivals : List Instant) : ChatRateLimiter :=
  arrivals.foldl (fun l now => (l.allowAt now).1) l

/-- The arrivals of which `allow_at` returned `true`. -/
def allowed (l : ChatRateLimiter) : List Instant → List Instant
  | [] => []
  | now :: arrivals =>
    if (l.allowAt now).2 then now :: (l.allowAt now).1.allowed arrivals
    else (l.allowAt now).1.allowed arrivals

end ChatRateLimiter

/-! ## The bucket of a limiter -/

/-- The parameters of every limiter. -/
def chatBucket : TokenBucket.Params ℚ where
  capacity := chatRateBurst
  rate := chatRatePerMinute / 60
  capacity_nonneg := by norm_num [chatRateBurst]
  rate_nonneg := by norm_num [chatRatePerMinute]

theorem asSecs_mono {a b : Nat} (h : a ≤ b) : asSecs a ≤ asSecs b :=
  div_le_div_of_nonneg_right (Nat.cast_le.2 h) (by norm_num)

/-- The duration since an instant, as the difference of the readings in seconds. -/
theorem asSecs_sub (a b : Nat) : asSecs (a - b) = max 0 (asSecs a - asSecs b) := by
  rcases Nat.le_total b a with hle | hle
  · rw [max_eq_right (sub_nonneg.2 (asSecs_mono hle)), asSecs, Nat.cast_sub hle, sub_div]
    rfl
  · rw [Nat.sub_eq_zero_of_le hle, max_eq_left (sub_nonpos.2 (asSecs_mono hle))]
    norm_num [asSecs]

namespace ChatRateLimiter

/-- The bucket of a limiter, with its clock in seconds. -/
def bucket (l : ChatRateLimiter) : TokenBucket.Bucket ℚ where
  tokens := l.tokens
  last := asSecs l.last

/-- `allow_at` is an arrival at the bucket. -/
theorem allowAt_eq_arrive (l : ChatRateLimiter) (now : Instant) :
    ((l.allowAt now).1.bucket, (l.allowAt now).2) =
      TokenBucket.arrive chatBucket l.bucket (asSecs now) := by
  have hrefill : TokenBucket.refill chatBucket l.bucket (asSecs now) =
      min (l.tokens + asSecs (now - l.last) * (chatRatePerMinute / 60)) chatRateBurst := by
    rw [asSecs_sub]
    rfl
  unfold allowAt TokenBucket.arrive
  rw [hrefill]
  by_cases hone :
      min (l.tokens + asSecs (now - l.last) * (chatRatePerMinute / 60)) chatRateBurst ≥ 1
  · rw [if_pos hone, if_pos hone]
    rfl
  · rw [if_neg hone, if_neg hone]
    rfl

/-- The limiter allows what the bucket allows. -/
theorem map_allowed (l : ChatRateLimiter) (arrivals : List Instant) :
    (l.allowed arrivals).map asSecs =
      TokenBucket.allowed chatBucket l.bucket (arrivals.map asSecs) := by
  induction arrivals generalizing l with
  | nil => rfl
  | cons now arrivals ih =>
    have harrive := allowAt_eq_arrive l now
    rw [List.map_cons, TokenBucket.allowed, ← harrive, allowed]
    split
    · rw [List.map_cons, ih]
    · rw [ih]

/-- The tokens are neither negative nor more than the burst. -/
def InRange (l : ChatRateLimiter) : Prop := 0 ≤ l.tokens ∧ l.tokens ≤ chatRateBurst

theorem inRange_new (now : Instant) : (new now).InRange :=
  ⟨by norm_num [new, chatRateBurst], le_refl _⟩

theorem InRange.allowAt {l : ChatRateLimiter} (h : l.InRange) (now : Instant) :
    (l.allowAt now).1.InRange := by
  have harrive := TokenBucket.inRange_arrive (p := chatBucket) (s := l.bucket) h (asSecs now)
  rw [← allowAt_eq_arrive l now] at harrive
  exact harrive

theorem InRange.run {l : ChatRateLimiter} (h : l.InRange) (arrivals : List Instant) :
    (l.run arrivals).InRange := by
  induction arrivals generalizing l with
  | nil => exact h
  | cons now arrivals ih => exact ih (h.allowAt now)

/-- Whenever a limiter was made and whatever arrives, its tokens stay between none and the burst;
and when the clock does not go back, a window of `T` seconds allows no more than the burst and what
is gained in `T` seconds. -/
theorem allowed_window_le (created : Instant) (arrivals : List Instant) :
    (0 ≤ ((new created).run arrivals).tokens ∧
      ((new created).run arrivals).tokens ≤ chatRateBurst) ∧
    (arrivals.Pairwise (· ≤ ·) → ∀ start T : ℚ, 0 ≤ T →
      ((((new created).allowed arrivals).filter fun t =>
          start ≤ asSecs t ∧ asSecs t ≤ start + T).length : ℚ) ≤
        chatRateBurst + chatRatePerMinute / 60 * T) := by
  refine ⟨(inRange_new created).run arrivals, fun hsorted start T hT => ?_⟩
  have hsecs : (arrivals.map asSecs).Pairwise (· ≤ ·) :=
    hsorted.map asSecs fun _ _ h => asSecs_mono h
  have hnew : (new created).bucket.InRange chatBucket := inRange_new created
  have hwindow := TokenBucket.length_allowed_window_le hnew hsecs
    (le_add_of_nonneg_right (a := start) hT)
  rw [add_sub_cancel_left, ← map_allowed, List.filter_map, List.length_map] at hwindow
  exact hwindow

/-- Two events at the same instant. -/
theorem allowed_window_le_two :
    ((((new 0).allowed [5, 5]).filter fun t => 0 ≤ asSecs t ∧ asSecs t ≤ 0 + 1).length : ℚ) ≤
      chatRateBurst + chatRatePerMinute / 60 * 1 :=
  (allowed_window_le 0 [5, 5]).2 (by decide) 0 1 (by decide)

end ChatRateLimiter

/-! ## The limiters of all chats -/

variable {κ : Type _} [DecidableEq κ]

/-- `ChatRateLimiters`. -/
abbrev ChatRateLimiters (κ : Type _) := Table κ ChatRateLimiter

namespace ChatRateLimiters

/-- `ChatRateLimiters::allow`; a limiter that is made for the call reads the clock at `created`. -/
def allow (buckets : ChatRateLimiters κ) (key : κ) (created now : Instant) :
    ChatRateLimiters κ × Bool :=
  let r := ((buckets key).getD (.new created)).allowAt now
  (buckets.put key r.1, r.2)

/-- `ChatRateLimiters::remove`. -/
def remove (buckets : ChatRateLimiters κ) (key : κ) : ChatRateLimiters κ := buckets.erase key

/-- A call of the listener. -/
inductive Call (κ : Type _)
  | allow (key : κ) (created now : Instant)
  | remove (key : κ)

/-- The limiters after a call. -/
def call (buckets : ChatRateLimiters κ) : Call κ → ChatRateLimiters κ
  | .allow key created now => (buckets.allow key created now).1
  | .remove key => buckets.remove key

/-- The arrivals of a chat. -/
def arrivals (key : κ) : List (Call κ) → List Instant
  | [] => []
  | .allow k _ now :: calls => if k = key then now :: arrivals key calls else arrivals key calls
  | .remove _ :: calls => arrivals key calls

@[simp] theorem call_allow_self (buckets : ChatRateLimiters κ) (key : κ) (created now : Instant) :
    call buckets (.allow key created now) key =
      some (((buckets key).getD (.new created)).allowAt now).1 :=
  Table.put_self

@[simp] theorem call_allow_of_ne (buckets : ChatRateLimiters κ) {key k : κ} (h : k ≠ key)
    (created now : Instant) : call buckets (.allow key created now) k = buckets k :=
  Table.put_of_ne h

@[simp] theorem call_remove_self (buckets : ChatRateLimiters κ) (key : κ) :
    call buckets (.remove key) key = none :=
  Table.erase_self

@[simp] theorem call_remove_of_ne (buckets : ChatRateLimiters κ) {key k : κ} (h : k ≠ key) :
    call buckets (.remove key) k = buckets k :=
  Table.erase_of_ne h

/-- Until it is removed, the limiter of a chat runs on the arrivals of that chat. -/
theorem limiter_run {buckets : ChatRateLimiters κ} {key : κ} {l : ChatRateLimiter}
    (hl : buckets key = some l) {calls : List (Call κ)}
    (hcalls : ∀ k, .remove k ∈ calls → k ≠ key) :
    calls.foldl call buckets key = some (l.run (arrivals key calls)) := by
  induction calls generalizing buckets l with
  | nil => exact hl
  | cons c calls ih =>
    have hrest : ∀ k, .remove k ∈ calls → k ≠ key := by
      intro k hk
      exact hcalls k (List.mem_cons_of_mem _ hk)
    rw [List.foldl_cons]
    cases c with
    | remove k =>
      have hne : key ≠ k := (hcalls k (List.mem_cons_self ..)).symm
      exact ih (by rw [call_remove_of_ne _ hne, hl]) hrest
    | allow k created now =>
      rw [arrivals]
      by_cases hkey : k = key
      · subst hkey
        rw [if_pos rfl]
        exact ih (by rw [call_allow_self, hl, Option.getD_some]) hrest
      · rw [if_neg hkey]
        exact ih (by rw [call_allow_of_ne _ (Ne.symm hkey), hl]) hrest

/-- Every limiter of the map keeps its tokens in range. -/
theorem inRange_calls {buckets : ChatRateLimiters κ}
    (h : ∀ key l, buckets key = some l → l.InRange) (calls : List (Call κ)) :
    ∀ key l, calls.foldl call buckets key = some l → l.InRange := by
  induction calls generalizing buckets with
  | nil => exact h
  | cons c calls ih =>
    refine ih fun key l hl => ?_
    cases c with
    | remove k =>
      by_cases hkey : key = k
      · subst hkey
        rw [call_remove_self] at hl
        cases hl
      · rw [call_remove_of_ne _ hkey] at hl
        exact h key l hl
    | allow k created now =>
      by_cases hkey : key = k
      · subst hkey
        rw [call_allow_self] at hl
        obtain rfl := Option.some.inj hl
        cases hold : buckets key with
        | none => exact (ChatRateLimiter.inRange_new created).allowAt now
        | some old => exact (h key old hold).allowAt now
      · rw [call_allow_of_ne _ hkey] at hl
        exact h key l hl

end ChatRateLimiters

end Mostrix.Chat
