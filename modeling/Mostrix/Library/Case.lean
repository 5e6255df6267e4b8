import Mostrix.Library.Text

/-!
# Letter case

`to_uppercase` and `to_lowercase` of `str` are the Unicode ones, and `to_ascii_uppercase` and
`eq_ignore_ascii_case` look at the ASCII letters only. `CaseTable` is what the first two take from
the Unicode data: upper case is taken character by character, a character may become several, and
lower case may look around. On a text of ASCII characters both are the ASCII ones.
-/

/-- The case mappings of the Unicode data. -/
structure CaseTable where
  upper : Char → Text
  lower : Text → Text
  upper_ascii : ∀ c : Char, c.toNat < 128 → upper c = [c.toUpper]
  lower_ascii : ∀ t : Text, (∀ c ∈ t, c.toNat < 128) → lower t = t.map Char.toLower

namespace CaseTable

/-- The table that only knows the ASCII letters. -/
def ascii : CaseTable where
  upper c := [c.toUpper]
  lower t := t.map Char.toLower
  upper_ascii _ _ := rfl
  lower_ascii _ _ := rfl

variable (C : CaseTable)

/-- `to_uppercase`. -/
def toUppercase (s : String) : String := String.ofList (s.toList.flatMap C.upper)

/-- `to_lowercase`. -/
def toLowercase (s : String) : String := String.ofList (C.lower s.toList)

end CaseTable

/-- `to_ascii_uppercase`. -/
def toAsciiUppercase (s : String) : String := String.ofList (s.toList.map Char.toUpper)

/-- `eq_ignore_ascii_case`. -/
def eqIgnoreAsciiCase (s t : String) : Bool := toAsciiUppercase s = toAsciiUppercase t

/-- A text of ASCII characters. -/
def IsAscii (s : String) : Prop := ∀ c ∈ s.toList, c.toNat < 128

-- not `inferInstanceAs`, which may look for the characters in all of `Char`
instance (s : String) : Decidable (IsAscii s) :=
  List.decidableBAll (fun c : Char => c.toNat < 128) s.toList

theorem CaseTable.toUppercase_of_isAscii (C : CaseTable) {s : String} (h : IsAscii s) :
    C.toUppercase s = toAsciiUppercase s := by
  unfold toUppercase toAsciiUppercase
  rw [List.map_eq_flatMap, List.flatMap_congr fun c hc => C.upper_ascii c (h c hc)]

theorem CaseTable.toLowercase_of_isAscii (C : CaseTable) {s : String} (h : IsAscii s) :
    C.toLowercase s = String.ofList (s.toList.map Char.toLower) := by
  unfold toLowercase
  rw [C.lower_ascii _ h]
