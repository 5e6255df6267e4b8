import Mostrix.Library.Wire

/-!
# JSON objects of strings and numbers

A writer of JSON objects whose fields are strings and natural numbers, and the reader of what it
writes. The members of an object are items between commas: `readItems_writeItems` reads such items
back for any way to write one that can be read in front of what closes it. `readMembers_writeMembers`
is the round trip of an object, and `writeMembers_isLine` says that an object is one line.
-/

namespace Json

open Wire

/-! ## Items between commas -/

section
variable {α : Type} (write : α → Text) (read : Text → Option (α × Text))

/-- The items of an object and its end. -/
def writeItems : List α → Text
  | [] => ['}']
  | [a] => write a ++ ['}']
  | a :: as => write a ++ ',' :: writeItems as

/-- The items of an object up to its end; there are at most `fuel` of them. -/
def readItems : Nat → Text → Option (List α)
  | 0, _ => none
  | fuel + 1, t => do
    let (a, t) ← read t
    match t with
    | ['}'] => some [a]
    | ',' :: t => (readItems fuel t).map (a :: ·)
    | _ => none

variable {write read}

/-- What closes an item. -/
def Closes (t : Text) : Prop := t.head? = some ',' ∨ t.head? = some '}'

theorem length_writeItems (items : List α) : items.length ≤ (writeItems write items).length := by
  induction items with
  | nil => exact Nat.zero_le _
  | cons a as ih =>
    cases as with
    | nil =>
      show 1 ≤ (write a ++ ['}']).length
      rw [List.length_append]
      exact Nat.le_add_left _ _
    | cons b as =>
      show (b :: as).length + 1 ≤ (write a ++ ',' :: writeItems write (b :: as)).length
      rw [List.length_append, List.length_cons (a := ',')]
      omega

theorem readItems_writeItems (hread : ∀ a rest, Closes rest → read (write a ++ rest) = some (a, rest))
    {items : List α} (hne : items ≠ []) {fuel : Nat} (hfuel : items.length ≤ fuel) :
    readItems read fuel (writeItems write items) = some items := by
  induction items generalizing fuel with
  | nil => exact absurd rfl hne
  | cons a as ih =>
    obtain ⟨fuel, rfl⟩ := Nat.exists_eq_succ_of_ne_zero (Nat.ne_zero_of_lt hfuel)
    cases as with
    | nil =>
      rw [writeItems, readItems, hread a ['}'] (.inr rfl)]
      rfl
    | cons b as =>
      have hrest := ih (List.cons_ne_nil _ _) (Nat.le_of_succ_le_succ hfuel)
      rw [writeItems, readItems, hread a _ (.inl rfl)]
      · simp [hrest]
      · exact List.cons_ne_nil _ _

theorem notMem_writeItems {c : Char} (hc : c ≠ ',' ∧ c ≠ '}') (hwrite : ∀ a, c ∉ write a)
    (items : List α) : c ∉ writeItems write items := by
  induction items with
  | nil => exact List.not_mem_cons_of_ne_of_not_mem hc.2 List.not_mem_nil
  | cons a as ih =>
    intro hmem
    cases as with
    | nil =>
      rcases List.mem_append.1 hmem with hitem | hend
      · exact hwrite a hitem
      · exact hc.2 (List.mem_singleton.1 hend)
    | cons b as =>
      rcases List.mem_append.1 hmem with hitem | hrest
      · exact hwrite a hitem
      · rcases List.mem_cons.1 hrest with hcomma | hrest
        · exact hc.1 hcomma
        · exact ih hrest

theorem getLast_writeItems (items : List α) :
    ∃ front, writeItems write items = front ++ ['}'] := by
  induction items with
  | nil => exact ⟨[], rfl⟩
  | cons a as ih =>
    cases as with
    | nil => exact ⟨write a, rfl⟩
    | cons b as =>
      obtain ⟨front, hfront⟩ := ih
      refine ⟨write a ++ ',' :: front, ?_⟩
      show write a ++ ',' :: writeItems write (b :: as) = _
      rw [hfront, List.append_assoc, List.cons_append]

end

/-! ## Values -/

/-- A value of a field. -/
inductive Value
  | string (t : Text)
  | number (n : Nat)
deriving DecidableEq, Repr

/-- The text of a string. -/
def Value.asStr : Value → Option Text
  | .string t => some t
  | .number _ => none

/-- A number in decimal. -/
def writeNumber (n : Nat) : Text := Nat.toDigits 10 n

/-- The digits in front, and what comes after them. -/
def readNumber (t : Text) : Option (Nat × Text) :=
  match t.takeWhile Char.isDigit with
  | [] => none
  | d :: ds => some (Nat.ofDigitChars 10 (d :: ds) 0, t.dropWhile Char.isDigit)

theorem isDigit_of_mem_writeNumber {n : Nat} {c : Char} (h : c ∈ writeNumber n) :
    c.isDigit = true :=
  Nat.isDigit_of_mem_toDigits (by decide) (by decide) h

theorem writeNumber_ne_nil (n : Nat) : writeNumber n ≠ [] := Nat.toDigits_ne_nil

/-- A number is read back in front of what is no digit. -/
theorem readNumber_writeNumber (n : Nat) {rest : Text}
    (h : ∀ c, rest.head? = some c → c.isDigit = false) :
    readNumber (writeNumber n ++ rest) = some (n, rest) := by
  have htake : (writeNumber n ++ rest).takeWhile Char.isDigit = writeNumber n := by
    rw [List.takeWhile_append_of_pos fun c hc => isDigit_of_mem_writeNumber hc]
    cases rest with
    | nil => simp
    | cons c rest => simp [h c rfl]
  have hdrop : (writeNumber n ++ rest).dropWhile Char.isDigit = rest := by
    rw [List.dropWhile_append_of_pos fun c hc => isDigit_of_mem_writeNumber hc]
    cases rest with
    | nil => rfl
    | cons c rest => simp [h c rfl]
  have hvalue : Nat.ofDigitChars 10 (writeNumber n) 0 = n :=
    Nat.ofDigitChars_toDigits (by decide) (by decide)
  unfold readNumber
  rw [htake, hdrop]
  cases hdigits : writeNumber n with
  | nil => exact absurd hdigits (writeNumber_ne_nil n)
  | cons d ds =>
    rw [hdigits] at hvalue
    exact congrArg (fun n => some (n, rest)) hvalue

/-- A value. -/
def writeValue : Value → Text
  | .string t => writeString t
  | .number n => writeNumber n

/-- A value, and what comes after it. -/
def readValue : Text → Option (Value × Text)
  | '"' :: t => (readString t).map fun (s, t) => (.string s, t)
  | t => (readNumber t).map fun (n, t) => (.number n, t)

theorem readValue_writeValue (v : Value) {rest : Text} (h : Closes rest) :
    readValue (writeValue v ++ rest) = some (v, rest) := by
  cases v with
  | string t =>
    have hread := readString_flatMap t rest
    simp only [writeValue, writeString, List.cons_append, List.append_assoc, List.nil_append,
      readValue, hread, Option.map_some]
  | number n =>
    have hrest : ∀ c, rest.head? = some c → c.isDigit = false := by
      intro c hc
      rcases h with h | h <;>
      · rw [h] at hc
        cases hc
        rfl
    have hread := readNumber_writeNumber n hrest
    unfold readValue
    split
    next t heq =>
      -- a number does not begin with a quote
      obtain ⟨d, ds, hdigits⟩ := List.exists_cons_of_ne_nil (writeNumber_ne_nil n)
      have hmem : d ∈ writeNumber n := hdigits ▸ List.mem_cons_self
      have hd : d.isDigit = true := isDigit_of_mem_writeNumber hmem
      rw [writeValue, hdigits] at heq
      obtain ⟨rfl, -⟩ := List.cons.inj heq
      exact absurd hd (by decide)
    next => rw [writeValue, hread, Option.map_some]

/-! ## Objects -/

/-- A field of an object. -/
def writeMember (member : Text × Value) : Text := writeString member.1 ++ ':' :: writeValue member.2

/-- A field, and what comes after it. -/
def readMember : Text → Option ((Text × Value) × Text)
  | '"' :: t => do
    let (key, t) ← readString t
    match t with
    | ':' :: t => do
      let (value, t) ← readValue t
      some ((key, value), t)
    | _ => none
  | _ => none

/-- An object. -/
def writeMembers (members : List (Text × Value)) : Text := '{' :: writeItems writeMember members

/-- An object of strings and numbers. -/
def readMembers : Text → Option (List (Text × Value))
  | ['{', '}'] => some []
  | '{' :: t => readItems readMember t.length t
  | _ => none

theorem readMember_writeMember (member : Text × Value) (rest : Text) (h : Closes rest) :
    readMember (writeMember member ++ rest) = some (member, rest) := by
  have hkey := readString_flatMap member.1 (':' :: (writeValue member.2 ++ rest))
  have hvalue := readValue_writeValue member.2 h
  simp only [writeMember, writeString, List.cons_append, List.append_assoc, List.nil_append,
    readMember, hkey, Option.bind_eq_bind, Option.bind_some, hvalue]

/-- **What is written is read back.** -/
theorem readMembers_writeMembers (members : List (Text × Value)) :
    readMembers (writeMembers members) = some members := by
  cases members with
  | nil => rfl
  | cons member members =>
    have hread : readItems readMember (writeItems writeMember (member :: members)).length
        (writeItems writeMember (member :: members)) = some (member :: members) :=
      readItems_writeItems readMember_writeMember (List.cons_ne_nil _ _) (length_writeItems _)
    have hlong : writeItems writeMember (member :: members) ≠ ['}'] := by
      intro hclose
      rw [hclose] at hread
      cases hread
    unfold writeMembers readMembers
    split
    next hempty => exact absurd (List.cons.inj hempty).2 hlong
    next t heq =>
      obtain ⟨-, rfl⟩ := List.cons.inj heq
      exact hread
    next hother => exact absurd rfl (hother _)

theorem newline_notMem_writeMember (member : Text × Value) : '\n' ∉ writeMember member := by
  have hvalue : '\n' ∉ writeValue member.2 := by
    cases member.2 with
    | string t => exact newline_notMem_writeString t
    | number n => exact fun h => absurd (isDigit_of_mem_writeNumber h) (by decide)
  simp only [writeMember, List.mem_append, List.mem_cons, not_or]
  exact ⟨newline_notMem_writeString _, by decide, hvalue⟩

theorem writeMembers_isLine (members : List (Text × Value)) :
    Text.IsLine (writeMembers members) := by
  obtain ⟨front, hfront⟩ : ∃ front, writeItems writeMember members = front ++ ['}'] :=
    getLast_writeItems members
  have hlast : (writeMembers members).getLast (List.cons_ne_nil _ _) = '}' := by
    simp [writeMembers, hfront]
  refine ⟨⟨List.cons_ne_nil _ _, rfl, ?_⟩, ?_⟩
  · rw [hlast]
    rfl
  · have hitems := notMem_writeItems (by decide) newline_notMem_writeMember members
    simp [writeMembers, hitems]

end Json
