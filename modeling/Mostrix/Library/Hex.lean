import Mathlib.Algebra.Group.Nat.Defs

/-!
# Hexadecimal texts of a fixed width

`Hex.digits w n` is the text of `n` in `w` lower-case digits, and `Hex.read` reads digits of either
case. A number that fits is read back from its text (`read_digits`), so its text determines it.
-/

namespace Hex

/-- A lower-case digit. -/
def digit (d : Nat) : Char := Nat.digitChar d

/-- The value of a digit of either case. -/
def value (c : Char) : Option Nat :=
  if '0' ≤ c ∧ c ≤ '9' then some (c.toNat - '0'.toNat)
  else if 'a' ≤ c ∧ c ≤ 'f' then some (c.toNat - 'a'.toNat + 10)
  else if 'A' ≤ c ∧ c ≤ 'F' then some (c.toNat - 'A'.toNat + 10)
  else none

/-- The last `w` digits of a number. -/
def digits : Nat → Nat → List Char
  | 0, _ => []
  | w + 1, n => digits w (n / 16) ++ [digit (n % 16)]

/-- The number that digits are the text of. -/
def read (cs : List Char) : Option Nat :=
  cs.foldlM (fun n c => (value c).map fun d => 16 * n + d) 0

theorem value_digit {d : Nat} (h : d < 16) : value (digit d) = some d := by
  revert h
  revert d
  decide

@[simp] theorem length_digits (w n : Nat) : (digits w n).length = w := by
  induction w generalizing n with
  | zero => rfl
  | succ w ih => simp [digits, ih]

/-- The digits of a number that fits are read back. -/
theorem read_digits {w n : Nat} (h : n < 16 ^ w) : read (digits w n) = some n := by
  induction w generalizing n with
  | zero =>
    obtain rfl : n = 0 := by omega
    rfl
  | succ w ih =>
    have hhigh : n / 16 < 16 ^ w := by
      rw [Nat.pow_succ] at h
      omega
    have hread := ih hhigh
    unfold read at hread
    have hlow : value (digit (n % 16)) = some (n % 16) := value_digit (by omega)
    have hsum : 16 * (n / 16) + n % 16 = n := Nat.div_add_mod n 16
    rw [digits, read, List.foldlM_append, hread]
    simp only [Option.bind_eq_bind, Option.bind_some, List.foldlM_cons, hlow, Option.map_some, hsum,
      List.foldlM_nil]
    rfl

theorem digits_inj {w m n : Nat} (hm : m < 16 ^ w) (hn : n < 16 ^ w)
    (h : digits w m = digits w n) : m = n := by
  have hread := read_digits hm
  rw [h, read_digits hn] at hread
  exact (Option.some.inj hread).symm

/-- Digits of a text are digits. -/
theorem exists_digit_of_mem {w n : Nat} {c : Char} (h : c ∈ digits w n) :
    ∃ d, d < 16 ∧ c = digit d := by
  induction w generalizing n with
  | zero => cases h
  | succ w ih =>
    rw [digits, List.mem_append, List.mem_singleton] at h
    rcases h with h | rfl
    · exact ih h
    · exact ⟨n % 16, by omega, rfl⟩

theorem value_of_mem_digits {w n : Nat} {c : Char} (h : c ∈ digits w n) : (value c).isSome := by
  obtain ⟨d, hd, rfl⟩ := exists_digit_of_mem h
  rw [value_digit hd]
  rfl

/-! ## Hyphenated texts -/

/-- Digits in groups of the given lengths, and the rest, with hyphens between. -/
def hyphenate : List Nat → List Char → List Char
  | [], ds => ds
  | g :: groups, ds => ds.take g ++ '-' :: hyphenate groups (ds.drop g)

/-- Without its hyphens, a text is its digits. -/
theorem filter_hyphenate (groups : List Nat) {ds : List Char} (h : ∀ c ∈ ds, c ≠ '-') :
    (hyphenate groups ds).filter (· ≠ '-') = ds := by
  induction groups generalizing ds with
  | nil => exact List.filter_eq_self.2 fun c hc => by simpa using h c hc
  | cons g groups ih =>
    have htake : (ds.take g).filter (· ≠ '-') = ds.take g :=
      List.filter_eq_self.2 fun c hc => by simpa using h c (List.mem_of_mem_take hc)
    have hdrop : (hyphenate groups (ds.drop g)).filter (· ≠ '-') = ds.drop g :=
      ih fun c hc => h c (List.mem_of_mem_drop hc)
    rw [hyphenate, List.filter_append, htake, List.filter_cons_of_neg (by simp), hdrop,
      List.take_append_drop]

theorem hyphenate_digits_inj {groups : List Nat} {w m n : Nat} (hm : m < 16 ^ w) (hn : n < 16 ^ w)
    (h : hyphenate groups (digits w m) = hyphenate groups (digits w n)) : m = n := by
  have hyphen : ∀ k, ∀ c ∈ digits w k, c ≠ '-' := by
    rintro k c hc rfl
    exact absurd (value_of_mem_digits hc) (by decide)
  have hfilter := filter_hyphenate groups (hyphen m)
  rw [h, filter_hyphenate groups (hyphen n)] at hfilter
  exact digits_inj hm hn hfilter.symm

end Hex
