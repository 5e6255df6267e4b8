import Mathlib.Algebra.Order.Field.Power
import Mathlib.Data.Int.Log
import Mathlib.Data.Rat.Floor
import Mathlib.Tactic.Linarith
import Mathlib.Tactic.NormNum
import Mostrix.Library.Text

/-!
# Doubles and their decimal text

A binary64 number as Rust's `f64` reads, compares and prints it. `F64.round` takes a number to the
nearest double, a tie to the one with the even significand: it is monotone (`round_mono`) and keeps
what a double represents (`round_eq_self`), whole numbers up to `2 ^ 53` among them. `F64.parse` is
`str::parse::<f64>`, the rounded value of `decimal`, the number the text denotes. A zero has no
sign here: it is compared and printed without one.
-/

/-! ## The nearest whole number -/

/-- The nearest whole number, of two the even one. -/
def roundTiesEven (x : ℚ) : ℤ :=
  if Int.fract x < 1 / 2 then ⌊x⌋
  else if 1 / 2 < Int.fract x then ⌊x⌋ + 1
  else if Even ⌊x⌋ then ⌊x⌋
  else ⌊x⌋ + 1

theorem roundTiesEven_floor (x : ℚ) : roundTiesEven x = ⌊x⌋ ∨ roundTiesEven x = ⌊x⌋ + 1 := by
  unfold roundTiesEven
  split
  · exact .inl rfl
  · split
    · exact .inr rfl
    · split
      · exact .inl rfl
      · exact .inr rfl

theorem roundTiesEven_intCast (n : ℤ) : roundTiesEven n = n := by
  simp [roundTiesEven]

theorem roundTiesEven_mono {x y : ℚ} (h : x ≤ y) : roundTiesEven x ≤ roundTiesEven y := by
  rcases (Int.floor_le_floor h).lt_or_eq with hlt | heq
  · have hx := roundTiesEven_floor x
    have hy := roundTiesEven_floor y
    omega
  · -- within one unit the larger fraction is rounded up where the smaller one is
    have hfract : Int.fract x ≤ Int.fract y := by
      unfold Int.fract
      rw [heq]
      linarith
    unfold roundTiesEven
    rw [heq]
    split
    · split_ifs <;> omega
    · split_ifs <;> first | omega | linarith

theorem roundTiesEven_neg (x : ℚ) : roundTiesEven (-x) = -roundTiesEven x := by
  by_cases hx : Int.fract x = 0
  · obtain ⟨n, rfl⟩ := Int.fract_eq_zero_iff.1 hx
    rw [← Int.cast_neg, roundTiesEven_intCast, roundTiesEven_intCast]
  · have hfloor : ⌊-x⌋ = -⌊x⌋ - 1 := by
      have hceil := (Int.ceil_eq_floor_add_one_iff_notMem x).2
        fun h => hx (Int.fract_eq_zero_iff.2 h)
      rw [Int.floor_neg, hceil]
      omega
    have heven : Even (-⌊x⌋ - 1) ↔ ¬ Even ⌊x⌋ := by grind
    unfold roundTiesEven
    rw [Int.fract_neg hx, hfloor]
    simp only [heven]
    split_ifs <;> first | omega | linarith

/-- A double. -/
inductive F64
  | finite (value : ℚ)
  | infinite (negative : Bool)
  | nan
deriving DecidableEq, Repr

namespace F64

/-! ## Rounding to a double -/

/-- The exponent of the last bit of the double nearest to `q`. -/
def quantum (q : ℚ) : ℤ := max (Int.log 2 |q| - 52) (-1074)

/-- The double nearest to `q`, with no bound on its size. -/
def round (q : ℚ) : ℚ := roundTiesEven (q / 2 ^ quantum q) * 2 ^ quantum q

theorem quantum_ge (q : ℚ) : -1074 ≤ quantum q := le_max_right _ _

theorem quantum_neg (q : ℚ) : quantum (-q) = quantum q := by rw [quantum, abs_neg, quantum]

theorem quantum_mono {q r : ℚ} (hq : 0 < q) (h : q ≤ r) : quantum q ≤ quantum r := by
  have hlog : Int.log 2 |q| ≤ Int.log 2 |r| := by
    rw [abs_of_pos hq, abs_of_pos (hq.trans_le h)]
    exact Int.log_mono_right hq h
  unfold quantum
  omega

theorem two_zpow_pos (k : ℤ) : (0 : ℚ) < 2 ^ k := zpow_pos (by norm_num) k

/-- A number is below `2 ^ 53` units of its last bit. -/
theorem abs_lt_quantum (q : ℚ) : |q| < 2 ^ (quantum q + 53) := by
  have hlog : |q| < ((2 : ℕ) : ℚ) ^ (Int.log 2 |q| + 1) := Int.lt_zpow_succ_log_self (by decide) _
  refine hlog.trans_le ?_
  rw [Nat.cast_ofNat]
  refine zpow_le_zpow_right₀ (by norm_num) ?_
  unfold quantum
  omega

/-- One whose last bit is above the least one has at least `2 ^ 52` units. -/
theorem quantum_le_abs {q : ℚ} (h : -1074 < quantum q) (hq : q ≠ 0) :
    2 ^ (quantum q + 52) ≤ |q| := by
  have hlog : ((2 : ℕ) : ℚ) ^ Int.log 2 |q| ≤ |q| :=
    Int.zpow_log_le_self (by decide) (abs_pos.2 hq)
  rw [Nat.cast_ofNat] at hlog
  have hk : quantum q + 52 = Int.log 2 |q| := by
    unfold quantum at *
    omega
  rwa [hk]

/-- A number of at most `2 ^ 53` units of a bit is below the next bit, or is that bit itself. -/
theorem quantum_le {q : ℚ} {k : ℤ} (hk : -1074 ≤ k) (hq : q ≠ 0) (h : |q| < 2 ^ (k + 53)) :
    quantum q ≤ k := by
  have hlog : Int.log 2 |q| < k + 53 := by
    rw [← Int.lt_zpow_iff_log_lt (by decide) (abs_pos.2 hq), Nat.cast_ofNat]
    exact h
  unfold quantum
  omega

theorem round_zero : round 0 = 0 := by
  have h : roundTiesEven 0 = 0 := roundTiesEven_intCast 0
  rw [round, zero_div, h, Int.cast_zero, zero_mul]

theorem round_neg (q : ℚ) : round (-q) = -round q := by
  unfold round
  rw [quantum_neg, neg_div, roundTiesEven_neg, Int.cast_neg, neg_mul]

/-- A whole number of units of some bit, not below the last one, is a double. -/
theorem round_eq_of_quantum_le {n : ℤ} {k : ℤ} (h : quantum (n * 2 ^ k) ≤ k) :
    round (n * 2 ^ k) = n * 2 ^ k := by
  obtain ⟨d, hd⟩ := Int.eq_ofNat_of_zero_le (sub_nonneg.2 h)
  have hk : (2 : ℚ) ^ k = (2 ^ d : ℤ) * 2 ^ quantum (n * 2 ^ k) := by
    rw [Int.cast_pow, Int.cast_ofNat, ← zpow_natCast, ← zpow_add₀ two_ne_zero]
    congr 1
    omega
  have hunits : (n : ℚ) * 2 ^ k / 2 ^ quantum (n * 2 ^ k) = (n * 2 ^ d : ℤ) := by
    rw [div_eq_iff (two_zpow_pos _).ne', Int.cast_mul, mul_assoc, ← hk]
  rw [round, hunits, roundTiesEven_intCast, ← hunits, div_mul_cancel₀ _ (two_zpow_pos _).ne']

/-- What a double represents is rounded to itself. -/
theorem round_eq_self {m k : ℤ} (hk : -1074 ≤ k) (hm : |m| ≤ 2 ^ 53) :
    round (m * 2 ^ k) = m * 2 ^ k := by
  have hbelow : ∀ {n j : ℤ}, -1074 ≤ j → |n| < 2 ^ 53 → round (n * 2 ^ j) = n * 2 ^ j := by
    intro n j hj hn
    rcases eq_or_ne n 0 with rfl | hn0
    · rw [Int.cast_zero, zero_mul, round_zero]
    · refine round_eq_of_quantum_le (quantum_le hj ?_ ?_)
      · exact mul_ne_zero (Int.cast_ne_zero.2 hn0) (two_zpow_pos j).ne'
      · have hcast : |(n : ℚ)| < 2 ^ 53 := by exact_mod_cast hn
        rw [abs_mul, abs_of_pos (two_zpow_pos j), add_comm, zpow_add₀ two_ne_zero]
        exact mul_lt_mul_of_pos_right hcast (two_zpow_pos j)
  rcases hm.lt_or_eq with hlt | heq
  · exact hbelow hk hlt
  · -- `2 ^ 53` units of a bit are `2 ^ 52` units of the next one
    obtain ⟨n, rfl⟩ : ∃ n, m = n * 2 := ⟨m / 2, by grind⟩
    have hnext : ((n * 2 : ℤ) : ℚ) * 2 ^ k = n * 2 ^ (k + 1) := by
      rw [zpow_add_one₀ two_ne_zero, Int.cast_mul, Int.cast_ofNat]
      ring
    rw [hnext]
    refine hbelow (by omega) ?_
    rw [abs_mul] at heq
    grind

theorem round_intCast {n : ℤ} (h : |n| ≤ 2 ^ 53) : round n = n := by
  have hround := round_eq_self (m := n) (k := 0) (by decide) h
  rwa [zpow_zero, mul_one] at hround

/-- Units of the last bit are rounded as they are ordered. -/
theorem round_le_of_quantum_eq {q r : ℚ} (hk : quantum q = quantum r) (h : q ≤ r) :
    round q ≤ round r := by
  unfold round
  rw [hk]
  refine mul_le_mul_of_nonneg_right ?_ (two_zpow_pos _).le
  exact_mod_cast roundTiesEven_mono (div_le_div_of_nonneg_right h (two_zpow_pos _).le)

/-- Rounding does not leave the numbers with the same last bit, but for their least upper bound. -/
theorem round_le_bound {q : ℚ} (hq : 0 < q) : round q ≤ 2 ^ (quantum q + 53) := by
  have hunits : q / 2 ^ quantum q ≤ (2 ^ 53 : ℤ) := by
    rw [div_le_iff₀ (two_zpow_pos _), Int.cast_pow, Int.cast_ofNat]
    have h := (abs_lt_quantum q).le
    rwa [abs_of_pos hq, add_comm, zpow_add₀ two_ne_zero] at h
  have hround := roundTiesEven_mono hunits
  rw [roundTiesEven_intCast] at hround
  rw [round, add_comm, zpow_add₀ two_ne_zero]
  exact mul_le_mul_of_nonneg_right (by exact_mod_cast hround) (two_zpow_pos _).le

theorem bound_le_round {q : ℚ} (hq : 0 < q) (h : -1074 < quantum q) :
    2 ^ (quantum q + 52) ≤ round q := by
  have hunits : ((2 ^ 52 : ℤ) : ℚ) ≤ q / 2 ^ quantum q := by
    rw [le_div_iff₀ (two_zpow_pos _), Int.cast_pow, Int.cast_ofNat]
    have hle := quantum_le_abs h hq.ne'
    rwa [abs_of_pos hq, add_comm, zpow_add₀ two_ne_zero] at hle
  have hround := roundTiesEven_mono hunits
  rw [roundTiesEven_intCast] at hround
  rw [round, add_comm, zpow_add₀ two_ne_zero]
  exact mul_le_mul_of_nonneg_right (by exact_mod_cast hround) (two_zpow_pos _).le

theorem round_nonneg {q : ℚ} (hq : 0 ≤ q) : 0 ≤ round q := by
  have hunits : ((0 : ℤ) : ℚ) ≤ q / 2 ^ quantum q := by
    rw [Int.cast_zero]
    exact div_nonneg hq (two_zpow_pos _).le
  have hround := roundTiesEven_mono hunits
  rw [roundTiesEven_intCast] at hround
  exact mul_nonneg (by exact_mod_cast hround) (two_zpow_pos _).le

theorem round_le_of_pos {q r : ℚ} (hq : 0 < q) (h : q ≤ r) : round q ≤ round r := by
  rcases (quantum_mono hq h).eq_or_lt with heq | hlt
  · exact round_le_of_quantum_eq heq h
  · have hr : -1074 < quantum r := (quantum_ge q).trans_lt hlt
    calc
      round q ≤ 2 ^ (quantum q + 53) := round_le_bound hq
      _ ≤ 2 ^ (quantum r + 52) := zpow_le_zpow_right₀ (by norm_num) (by omega)
      _ ≤ round r := bound_le_round (hq.trans_le h) hr

/-- A number that is not greater is not rounded to a greater double. -/
theorem round_mono : Monotone round := by
  intro q r h
  rcases lt_or_ge 0 q with hq | hq
  · exact round_le_of_pos hq h
  rcases lt_or_ge r 0 with hr | hr
  · -- both are negative: the rounding is symmetric
    have hneg := round_le_of_pos (neg_pos.2 hr) (neg_le_neg h)
    rw [round_neg, round_neg] at hneg
    exact neg_le_neg_iff.1 hneg
  · have hq' := round_nonneg (neg_nonneg.2 hq)
    rw [round_neg] at hq'
    exact (neg_nonneg.1 hq').trans (round_nonneg hr)

/-- The double nearest to `q`; one too large to be a double is rounded to an infinity. -/
def ofRat (q : ℚ) : F64 :=
  if |round q| < 2 ^ 1024 then finite (round q) else infinite (decide (q < 0))

theorem ofRat_eq_finite {q v : ℚ} (h : ofRat q = finite v) : v = round q := by
  unfold ofRat at h
  split at h
  · exact (F64.finite.inj h).symm
  · cases h

/-- A 64-bit integer is rounded to a finite double. -/
theorem ofRat_intCast {n : ℤ} (hlow : -2 ^ 63 ≤ n) (hhigh : n ≤ 2 ^ 63) :
    ofRat n = finite (round n) := by
  have hpow : round ((2 : ℚ) ^ (63 : ℤ)) = 2 ^ (63 : ℤ) := by
    have h := round_eq_self (m := 1) (k := 63) (by decide) (by decide)
    rwa [Int.cast_one, one_mul] at h
  have hle : round n ≤ 2 ^ (63 : ℤ) := by
    rw [← hpow]
    exact round_mono (by exact_mod_cast hhigh)
  have hge : -2 ^ (63 : ℤ) ≤ round n := by
    rw [← hpow, ← round_neg]
    exact round_mono (by exact_mod_cast hlow)
  refine if_pos ((abs_le.2 ⟨hge, hle⟩).trans_lt ?_)
  exact_mod_cast pow_lt_pow_right₀ (a := (2 : ℚ)) (by norm_num) (by decide : 63 < 1024)

/-! ## Decimal text -/

/-- The sign in front of what `read` reads. -/
def signed {α : Type} [Neg α] (read : Text → Option α) : Text → Option α
  | '+' :: t => read t
  | '-' :: t => (read t).map (- ·)
  | t => read t

/-- A run of decimal digits. -/
def whole (t : Text) : Option ℕ :=
  if t ≠ [] ∧ t.all Char.isDigit then some (Nat.ofDigitChars 10 t 0) else none

/-- The exponent behind a number, where it has one. -/
def exponent : Text → Option ℤ
  | [] => some 0
  | c :: t => if c = 'e' ∨ c = 'E' then signed (fun t => (whole t).map Int.ofNat) t else none

/-- The digits behind a point, and what is left behind them. -/
def fraction : Text → Text × Text
  | '.' :: t => (t.takeWhile Char.isDigit, t.dropWhile Char.isDigit)
  | t => ([], t)

/-- The number an unsigned decimal text denotes: digits, at least one and with at most one point
among them, and an exponent. -/
def number (t : Text) : Option ℚ :=
  let int := t.takeWhile Char.isDigit
  let (frac, rest) := fraction (t.dropWhile Char.isDigit)
  if int ++ frac = [] then none
  else
    (exponent rest).map fun (e : ℤ) =>
      (Nat.ofDigitChars 10 (int ++ frac) 0 : ℚ) * 10 ^ (e - frac.length)

/-- The number a decimal text denotes. -/
def decimal (t : Text) : Option ℚ := signed number t

def neg : F64 → F64
  | finite q => finite (-q)
  | infinite negative => infinite (!negative)
  | nan => nan

instance : Neg F64 := ⟨neg⟩

/-- `inf`, `infinity` and `nan`, in any case. -/
def word (t : Text) : Option F64 :=
  let lower := t.map Char.toLower
  if lower = ['i', 'n', 'f'] ∨ lower = ['i', 'n', 'f', 'i', 'n', 'i', 't', 'y'] then
    some (infinite false)
  else if lower = ['n', 'a', 'n'] then some nan
  else none

/-- `str::parse::<f64>`. -/
def parse (t : Text) : Option F64 :=
  match decimal t with
  | some q => some (ofRat q)
  | none => signed word t

example : parse ".5e1".toList = some (finite 5) := by decide +kernel

theorem parse_of_decimal {t : Text} {q : ℚ} (h : decimal t = some q) :
    parse t = some (ofRat q) := by
  rw [parse, h]

theorem word_ne_finite (t : Text) (v : ℚ) : word t ≠ some (finite v) := by
  unfold word
  dsimp only
  split
  · nofun
  · split
    · nofun
    · nofun

/-- Only the text of a number is a finite double. -/
theorem decimal_of_parse {t : Text} {v : ℚ} (h : parse t = some (finite v)) :
    ∃ q, decimal t = some q := by
  unfold parse at h
  split at h
  · exact ⟨_, ‹_›⟩
  · exfalso
    unfold signed at h
    split at h
    · exact word_ne_finite _ _ h
    · obtain ⟨f, hf, hneg⟩ := Option.map_eq_some_iff.1 h
      cases f with
      | finite value => exact word_ne_finite _ _ hf
      | infinite negative => cases hneg
      | nan => cases hneg
    · exact word_ne_finite _ _ h

/-- A run of digits denotes its value. -/
theorem number_of_whole {t : Text} {n : ℕ} (h : whole t = some n) :
    number t = some (n : ℚ) := by
  unfold whole at h
  obtain ⟨⟨hne, hall⟩, hn⟩ := Option.ite_none_right_eq_some.1 h
  rw [List.all_eq_true] at hall
  have htake : t.takeWhile Char.isDigit = t := List.takeWhile_eq_self_iff.2 hall
  have hdrop : t.dropWhile Char.isDigit = [] := List.dropWhile_eq_nil_iff.2 hall
  have hnumber : number t = some ((Nat.ofDigitChars 10 t 0 : ℚ) * 10 ^ ((0 : ℤ) - (0 : ℕ))) := by
    rw [number, htake, hdrop]
    simp only [fraction, List.append_nil, if_neg hne, exponent, Option.map_some, List.length_nil]
  rw [hnumber, Option.some.inj hn, Nat.cast_zero, sub_zero, zpow_zero, mul_one]

/-! ### The characters of a number -/

/-- No character of the text is white space. -/
def NoSpace (t : Text) : Prop := ∀ c ∈ t, Text.isWhitespace c = false

theorem isWhitespace_of_isDigit {c : Char} (h : c.isDigit = true) :
    Text.isWhitespace c = false := by
  have hrange : 48 ≤ c.toNat ∧ c.toNat ≤ 57 := by
    simp only [Char.isDigit, Bool.and_eq_true, decide_eq_true_eq] at h
    exact ⟨UInt32.le_iff_toNat_le.1 h.1, UInt32.le_iff_toNat_le.1 h.2⟩
  unfold Text.isWhitespace
  dsimp only
  grind

theorem noSpace_cons {c : Char} {t : Text} (hc : Text.isWhitespace c = false) (h : NoSpace t) :
    NoSpace (c :: t) :=
  List.forall_mem_cons.2 ⟨hc, h⟩

/-- The digits in front and what is left make up the text. -/
theorem noSpace_of_dropWhile {t : Text} (h : NoSpace (t.dropWhile Char.isDigit)) : NoSpace t := by
  intro c hc
  rw [← List.takeWhile_append_dropWhile (p := Char.isDigit) (l := t)] at hc
  rcases List.mem_append.1 hc with hdigit | hrest
  · exact isWhitespace_of_isDigit (List.mem_takeWhile_imp hdigit)
  · exact h c hrest

theorem noSpace_of_whole {t : Text} {n : ℕ} (h : whole t = some n) : NoSpace t := by
  obtain ⟨⟨-, hall⟩, -⟩ := Option.ite_none_right_eq_some.1 h
  exact fun c hc => isWhitespace_of_isDigit (List.all_eq_true.1 hall c hc)

theorem noSpace_of_signed {α : Type} [Neg α] {read : Text → Option α}
    (hread : ∀ {t a}, read t = some a → NoSpace t) {t : Text} {a : α}
    (h : signed read t = some a) : NoSpace t := by
  unfold signed at h
  split at h
  · exact noSpace_cons rfl (hread h)
  · obtain ⟨b, hb, -⟩ := Option.map_eq_some_iff.1 h
    exact noSpace_cons rfl (hread hb)
  · exact hread h

theorem noSpace_of_exponent {t : Text} {e : ℤ} (h : exponent t = some e) : NoSpace t := by
  cases t with
  | nil => exact fun c hc => absurd hc (List.not_mem_nil)
  | cons c t =>
    obtain ⟨hc, hsigned⟩ := Option.ite_none_right_eq_some.1 h
    refine noSpace_cons ?_ (noSpace_of_signed ?_ hsigned)
    · rcases hc with rfl | rfl
      · rfl
      · rfl
    · intro u n hu
      obtain ⟨k, hk, -⟩ := Option.map_eq_some_iff.1 hu
      exact noSpace_of_whole hk

theorem noSpace_of_fraction {t : Text} (h : NoSpace (fraction t).2) : NoSpace t := by
  unfold fraction at h
  split at h
  · exact noSpace_cons rfl (noSpace_of_dropWhile h)
  · exact h

theorem noSpace_of_number {t : Text} {q : ℚ} (h : number t = some q) : NoSpace t := by
  obtain ⟨-, hmap⟩ := Option.ite_none_left_eq_some.1 h
  obtain ⟨e, he, -⟩ := Option.map_eq_some_iff.1 hmap
  exact noSpace_of_dropWhile (noSpace_of_fraction (noSpace_of_exponent he))

/-- The text of a number is one word. -/
theorem isWord_of_decimal {t : Text} {q : ℚ} (h : decimal t = some q) : Text.IsWord t := by
  refine ⟨?_, noSpace_of_signed noSpace_of_number h⟩
  rintro rfl
  cases h

/-! ## Printing a whole double -/

/-- Of the two multiples of `unit` around `n` the nearer one that is rounded to `n`, the greater
one where both are as near. -/
def nearMultiple (n unit : ℕ) : Option ℕ :=
  let low := n / unit * unit
  let high := low + unit
  if round low = n ∧ (round high = n → n - low < high - n) then some low
  else if round high = n then some high
  else none

/-- `Display` of a whole double: the fewest digits that are rounded to it, the nearest ones of
these, filled up with zeros. -/
def displayWhole (v : ℤ) : String :=
  let n := v.natAbs
  let units := (List.range (Nat.toDigits 10 n).length).reverse.map (10 ^ ·)
  (if v < 0 then "-" else "") ++ toString ((units.findSome? (nearMultiple n)).getD n)

example : displayWhole (2 ^ 63) = "9223372036854776000" := by decide +kernel

end F64
