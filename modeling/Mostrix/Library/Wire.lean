import Mostrix.Library.Text

/-!
# JSON objects of strings, and base64

A writer of JSON objects whose fields are strings, with the escapes and without white space as
`serde_json` writes them, and the reader of what it writes; base64 in the standard alphabet with
padding. `readObject_writeObject` and `base64Decode_base64Encode` are the round trips, and
`writeObject_isLine` says that an object is one line.
-/

namespace Wire

/-! ## JSON strings -/

/-- The letters of the short escapes. -/
def shortEscapes : List (Char × Char) :=
  [('"', '"'), ('\\', '\\'), ('n', '\n'), ('r', '\r'), ('t', '\t'), ('b', Char.ofNat 8),
    ('f', Char.ofNat 12)]

/-- A hexadecimal digit. -/
def hexDigit (n : Nat) : Char := if n < 10 then Char.ofNat (48 + n) else Char.ofNat (87 + n)

/-- Its value. -/
def hexValue (c : Char) : Nat := if c.toNat < 58 then c.toNat - 48 else c.toNat - 87

/-- A character in a string: a short escape where there is one, the code of any other control
character, and else the character. -/
def escape (c : Char) : Text :=
  match shortEscapes.find? (·.2 = c) with
  | some (letter, _) => ['\\', letter]
  | none =>
    if c.toNat < 32 then ['\\', 'u', '0', '0', hexDigit (c.toNat / 16), hexDigit (c.toNat % 16)]
    else [c]

/-- A string. -/
def writeString (t : Text) : Text := '"' :: (t.flatMap escape ++ ['"'])

/-- The rest of a string behind its first quote, and what comes after it. -/
def readString : Text → Option (Text × Text)
  | [] => none
  | '"' :: rest => some ([], rest)
  | '\\' :: 'u' :: '0' :: '0' :: high :: low :: rest =>
    (readString rest).map fun (t, rest) =>
      (Char.ofNat (16 * hexValue high + hexValue low) :: t, rest)
  | '\\' :: letter :: rest => do
    let (_, c) ← shortEscapes.find? (·.1 = letter)
    let (t, rest) ← readString rest
    some (c :: t, rest)
  | c :: rest => (readString rest).map fun (t, rest) => (c :: t, rest)

/-- The digits of a control character name it. -/
theorem ofNat_hexDigits {n : Nat} (h : n < 32) :
    Char.ofNat (16 * hexValue (hexDigit (n / 16)) + hexValue (hexDigit (n % 16))) =
      Char.ofNat n := by
  have hall : ∀ n < 32,
      16 * hexValue (hexDigit (n / 16)) + hexValue (hexDigit (n % 16)) = n := by decide
  rw [hall n h]

theorem readString_escape (c : Char) (rest : Text) :
    readString (escape c ++ rest) = (readString rest).map fun (t, rest) => (c :: t, rest) := by
  unfold escape
  split
  next letter c' hfind =>
    have hmem := List.mem_of_find?_eq_some hfind
    have hc := List.find?_some hfind
    simp only [decide_eq_true_eq] at hc
    subst hc
    simp only [shortEscapes, List.mem_cons, Prod.mk.injEq, List.not_mem_nil, or_false] at hmem
    rcases hmem with ⟨rfl, rfl⟩ | ⟨rfl, rfl⟩ | ⟨rfl, rfl⟩ | ⟨rfl, rfl⟩ | ⟨rfl, rfl⟩ | ⟨rfl, rfl⟩ |
      ⟨rfl, rfl⟩
    all_goals
      simp [readString, shortEscapes]
      cases readString rest <;> rfl
  next hfind =>
    split
    next hcontrol =>
      have hc : Char.ofNat (16 * hexValue (hexDigit (c.toNat / 16)) +
          hexValue (hexDigit (c.toNat % 16))) = c := by
        rw [ofNat_hexDigits hcontrol, Char.ofNat_toNat]
      simp only [List.cons_append, List.nil_append, readString, hc]
    next hplain =>
      have hquote : c ≠ '"' := by
        rintro rfl
        simp [shortEscapes] at hfind
      have hslash : c ≠ '\\' := by
        rintro rfl
        simp [shortEscapes] at hfind
      rw [List.singleton_append, readString.eq_def]
      split <;> simp_all

theorem readString_flatMap (t rest : Text) :
    readString (t.flatMap escape ++ '"' :: rest) = some (t, rest) := by
  induction t with
  | nil => simp [readString]
  | cons c t ih =>
    rw [List.flatMap_cons, List.append_assoc, readString_escape, ih]
    rfl

theorem newline_notMem_escape (c : Char) : '\n' ∉ escape c := by
  unfold escape
  split
  next letter c' hfind =>
    have hmem := List.mem_of_find?_eq_some hfind
    simp only [shortEscapes, List.mem_cons, Prod.mk.injEq, List.not_mem_nil, or_false] at hmem
    rcases hmem with ⟨rfl, -⟩ | ⟨rfl, -⟩ | ⟨rfl, -⟩ | ⟨rfl, -⟩ | ⟨rfl, -⟩ | ⟨rfl, -⟩ | ⟨rfl, -⟩ <;>
      decide
  next hfind =>
    split
    next hcontrol =>
      have hall : ∀ n < 32, hexDigit (n / 16) ≠ '\n' ∧ hexDigit (n % 16) ≠ '\n' := by decide
      obtain ⟨hhigh, hlow⟩ := hall _ hcontrol
      simp [Ne.symm hhigh, Ne.symm hlow]
    next hplain =>
      rw [List.mem_singleton]
      rintro rfl
      simp [shortEscapes] at hfind

/-! ## JSON objects -/

/-- A field. -/
def writeField (field : Text × Text) : Text :=
  writeString field.1 ++ ':' :: writeString field.2

/-- The fields of an object and its end. -/
def writeFields : List (Text × Text) → Text
  | [] => ['}']
  | [field] => writeField field ++ ['}']
  | field :: fields => writeField field ++ ',' :: writeFields fields

/-- An object. -/
def writeObject (fields : List (Text × Text)) : Text := '{' :: writeFields fields

/-- A field, and what comes after it. -/
def readField : Text → Option ((Text × Text) × Text)
  | '"' :: t => do
    let (key, t) ← readString t
    match t with
    | ':' :: '"' :: t => do
      let (value, t) ← readString t
      some ((key, value), t)
    | _ => none
  | _ => none

/-- The fields of an object up to its end; there are at most `fuel` of them. -/
def readFields : Nat → Text → Option (List (Text × Text))
  | 0, _ => none
  | fuel + 1, t => do
    let (field, t) ← readField t
    match t with
    | ['}'] => some [field]
    | ',' :: t => (readFields fuel t).map (field :: ·)
    | _ => none

/-- An object of strings. -/
def readObject : Text → Option (List (Text × Text))
  | ['{', '}'] => some []
  | '{' :: t => readFields t.length t
  | _ => none

theorem readField_writeField (field : Text × Text) (rest : Text) :
    readField (writeField field ++ rest) = some (field, rest) := by
  have hvalue : readString (field.2.flatMap escape ++ '"' :: rest) = some (field.2, rest) :=
    readString_flatMap field.2 rest
  have hkey := readString_flatMap field.1
    (':' :: '"' :: (field.2.flatMap escape ++ '"' :: rest))
  unfold writeField writeString
  simp only [List.cons_append, List.append_assoc, List.nil_append, readField]
  rw [hkey]
  simp [hvalue]

theorem length_writeFields (fields : List (Text × Text)) :
    fields.length ≤ (writeFields fields).length := by
  fun_induction writeFields fields with
  | case1 => exact Nat.zero_le _
  | case2 field => simp
  | case3 field fields hne ih =>
    simp only [List.length_cons, List.length_append]
    omega

theorem readFields_writeFields {fields : List (Text × Text)} (hne : fields ≠ []) {fuel : Nat}
    (hfuel : fields.length ≤ fuel) : readFields fuel (writeFields fields) = some fields := by
  induction fields generalizing fuel with
  | nil => exact absurd rfl hne
  | cons field fields ih =>
    obtain ⟨fuel, rfl⟩ := Nat.exists_eq_succ_of_ne_zero (Nat.ne_zero_of_lt hfuel)
    cases fields with
    | nil =>
      rw [writeFields, readFields, readField_writeField]
      rfl
    | cons field' fields =>
      have hrest := ih (List.cons_ne_nil _ _) (Nat.le_of_succ_le_succ hfuel)
      rw [writeFields, readFields, readField_writeField]
      · simp [hrest]
      · exact List.cons_ne_nil _ _

/-- **What is written is read back.** -/
theorem readObject_writeObject (fields : List (Text × Text)) :
    readObject (writeObject fields) = some fields := by
  cases fields with
  | nil => rfl
  | cons field fields =>
    have hread : readFields (writeFields (field :: fields)).length (writeFields (field :: fields)) =
        some (field :: fields) :=
      readFields_writeFields (List.cons_ne_nil _ _) (length_writeFields _)
    unfold writeObject readObject
    split
    next hempty =>
      obtain ⟨-, hempty⟩ := List.cons.inj hempty
      have hlength := length_writeFields (field :: fields)
      rw [hempty] at hlength hread
      cases fields with
      | nil => cases hread
      | cons _ _ => simp at hlength
    next t heq =>
      obtain ⟨-, rfl⟩ := List.cons.inj heq
      exact hread
    next hother => exact absurd rfl (hother _)

/-! ### An object is one line -/

theorem newline_notMem_writeString (t : Text) : '\n' ∉ writeString t := by
  unfold writeString
  simp only [List.mem_cons, List.mem_append, List.mem_flatMap, List.not_mem_nil, or_false, not_or]
  refine ⟨by decide, ?_, by decide⟩
  rintro ⟨c, -, hc⟩
  exact newline_notMem_escape c hc

theorem newline_notMem_writeFields (fields : List (Text × Text)) : '\n' ∉ writeFields fields := by
  have hfield : ∀ field, '\n' ∉ writeField field := fun field => by
    unfold writeField
    simp only [List.mem_append, List.mem_cons, not_or]
    exact ⟨newline_notMem_writeString _, by decide, newline_notMem_writeString _⟩
  fun_induction writeFields fields with
  | case1 => decide
  | case2 field => simp [hfield]
  | case3 field fields hne ih => simp [hfield, ih]

theorem getLast_writeFields (fields : List (Text × Text)) :
    ∃ front, writeFields fields = front ++ ['}'] := by
  fun_induction writeFields fields with
  | case1 => exact ⟨[], rfl⟩
  | case2 field => exact ⟨writeField field, rfl⟩
  | case3 field fields hne ih =>
    obtain ⟨front, hfront⟩ := ih
    exact ⟨writeField field ++ ',' :: front, by rw [hfront]; simp⟩

theorem writeObject_isLine (fields : List (Text × Text)) : Text.IsLine (writeObject fields) := by
  obtain ⟨front, hfront⟩ := getLast_writeFields fields
  have hlast : (writeObject fields).getLast (List.cons_ne_nil _ _) = '}' := by
    simp [writeObject, hfront]
  refine ⟨⟨List.cons_ne_nil _ _, rfl, ?_⟩, ?_⟩
  · rw [hlast]
    rfl
  · unfold writeObject
    simp [newline_notMem_writeFields]

/-! ## Base64 -/

/-- The standard alphabet. -/
def base64Digit (n : Nat) : Char :=
  if n < 26 then Char.ofNat (65 + n)
  else if n < 52 then Char.ofNat (71 + n)
  else if n < 62 then Char.ofNat (n - 4)
  else if n = 62 then '+'
  else '/'

/-- The value of a digit. -/
def base64Value (c : Char) : Option Nat :=
  if 65 ≤ c.toNat ∧ c.toNat < 91 then some (c.toNat - 65)
  else if 97 ≤ c.toNat ∧ c.toNat < 123 then some (c.toNat - 71)
  else if 48 ≤ c.toNat ∧ c.toNat < 58 then some (c.toNat + 4)
  else if c = '+' then some 62
  else if c = '/' then some 63
  else none

/-- Three bytes are four digits; what is missing of them at the end is padded. -/
def base64Encode : List UInt8 → Text
  | [] => []
  | [a] => [base64Digit (a.toNat / 4), base64Digit (a.toNat % 4 * 16), '=', '=']
  | [a, b] =>
    let n := a.toNat * 256 + b.toNat
    [base64Digit (n / 1024), base64Digit (n / 16 % 64), base64Digit (n % 16 * 4), '=']
  | a :: b :: c :: rest =>
    let n := (a.toNat * 256 + b.toNat) * 256 + c.toNat
    base64Digit (n / 262144) :: base64Digit (n / 4096 % 64) :: base64Digit (n / 64 % 64) ::
      base64Digit (n % 64) :: base64Encode rest

/-- The bytes of a text; the bits of its last digit that no byte takes have to be zero. -/
def base64Decode : Text → Option (List UInt8)
  | [] => some []
  | [x, y, '=', '='] => do
    let n := (← base64Value x) * 64 + (← base64Value y)
    if n % 16 = 0 then some [UInt8.ofNat (n / 16)] else none
  | [x, y, z, '='] => do
    let n := ((← base64Value x) * 64 + (← base64Value y)) * 64 + (← base64Value z)
    if n % 4 = 0 then some [UInt8.ofNat (n / 1024), UInt8.ofNat (n / 4)] else none
  | x :: y :: z :: w :: rest => do
    let n := (((← base64Value x) * 64 + (← base64Value y)) * 64 + (← base64Value z)) * 64 +
      (← base64Value w)
    let bytes ← base64Decode rest
    some (UInt8.ofNat (n / 65536) :: UInt8.ofNat (n / 256) :: UInt8.ofNat n :: bytes)
  | _ => none

theorem base64Value_base64Digit {n : Nat} (h : n < 64) :
    base64Value (base64Digit n) = some n ∧ base64Digit n ≠ '=' := by
  have hall : ∀ n < 64, base64Value (base64Digit n) = some n ∧ base64Digit n ≠ '=' := by decide
  exact hall n h

theorem ofNat_of_mod {a : UInt8} {n : Nat} (h : n % 256 = a.toNat) : UInt8.ofNat n = a := by
  rw [← UInt8.toNat_inj, UInt8.toNat_ofNat']
  exact h

/-- **Bytes are read back.** -/
theorem base64Decode_base64Encode (bytes : List UInt8) :
    base64Decode (base64Encode bytes) = some bytes := by
  fun_induction base64Encode bytes with
  | case1 => rfl
  | case2 a =>
    have ha := a.toNat_lt
    obtain ⟨hx, -⟩ := base64Value_base64Digit (n := a.toNat / 4) (by omega)
    obtain ⟨hy, -⟩ := base64Value_base64Digit (n := a.toNat % 4 * 16) (by omega)
    have hpad : (a.toNat / 4 * 64 + a.toNat % 4 * 16) % 16 = 0 := by omega
    have hbyte : UInt8.ofNat ((a.toNat / 4 * 64 + a.toNat % 4 * 16) / 16) = a :=
      ofNat_of_mod (by omega)
    simp only [base64Decode, hx, hy, Option.bind_eq_bind, Option.bind_some, hpad, hbyte, if_true]
  | case3 a b n =>
    have ha := a.toNat_lt
    have hb := b.toNat_lt
    have hn : n = a.toNat * 256 + b.toNat := rfl
    obtain ⟨hx, -⟩ := base64Value_base64Digit (n := n / 1024) (by omega)
    obtain ⟨hy, -⟩ := base64Value_base64Digit (n := n / 16 % 64) (by omega)
    obtain ⟨hz, hne⟩ := base64Value_base64Digit (n := n % 16 * 4) (by omega)
    have hpad : ((n / 1024 * 64 + n / 16 % 64) * 64 + n % 16 * 4) % 4 = 0 := by omega
    have hfirst : UInt8.ofNat (((n / 1024 * 64 + n / 16 % 64) * 64 + n % 16 * 4) / 1024) = a :=
      ofNat_of_mod (by omega)
    have hsecond : UInt8.ofNat (((n / 1024 * 64 + n / 16 % 64) * 64 + n % 16 * 4) / 4) = b :=
      ofNat_of_mod (by omega)
    rw [base64Decode]
    · simp only [hx, hy, hz, Option.bind_eq_bind, Option.bind_some, hpad, hfirst, hsecond, if_true]
    · exact fun h => absurd h hne
  | case4 a b c rest n ih =>
    have ha := a.toNat_lt
    have hb := b.toNat_lt
    have hc := c.toNat_lt
    have hn : n = (a.toNat * 256 + b.toNat) * 256 + c.toNat := rfl
    obtain ⟨hx, -⟩ := base64Value_base64Digit (n := n / 262144) (by omega)
    obtain ⟨hy, -⟩ := base64Value_base64Digit (n := n / 4096 % 64) (by omega)
    obtain ⟨hz, -⟩ := base64Value_base64Digit (n := n / 64 % 64) (by omega)
    obtain ⟨hw, hne⟩ := base64Value_base64Digit (n := n % 64) (by omega)
    have hall : ((n / 262144 * 64 + n / 4096 % 64) * 64 + n / 64 % 64) * 64 + n % 64 = n := by omega
    have hfirst : UInt8.ofNat (n / 65536) = a := ofNat_of_mod (by omega)
    have hsecond : UInt8.ofNat (n / 256) = b := ofNat_of_mod (by omega)
    have hthird : UInt8.ofNat n = c := ofNat_of_mod (by omega)
    rw [base64Decode]
    · simp only [hx, hy, hz, hw, ih, Option.bind_eq_bind, Option.bind_some, hall, hfirst, hsecond,
        hthird]
    · exact fun _ h => absurd h hne
    · exact fun h => absurd h hne

end Wire
