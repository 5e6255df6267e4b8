import Mostrix.Library.KeyedList

/-!
# A selection by key in a list of visible rows

A list shows some rows, and the selected one is remembered by its key. The row that shows as
selected is the first one with that key, or the first row where none has it. Moving the selection
by `delta` rows stops at both ends of the list and remembers the key of the row it lands on.

With distinct keys a row is selected by its key wherever it stands (`row_of_mem`), so that after a
move the row it landed on is selected, in whatever list shows it.
-/

namespace Selection

variable {α κ : Type _} [DecidableEq κ] (key : α → κ)

/-- Where the row that shows as selected stands; there is none in an empty list. -/
def displayIdx (selected : Option κ) (rows : List α) : Option Nat :=
  if rows.isEmpty then none
  else some ((selected.bind fun id => rows.findIdx? fun r => key r = id).getD 0)

/-- The row that shows as selected. -/
def row (selected : Option κ) (rows : List α) : Option α :=
  (displayIdx key selected rows).bind (rows[·]?)

/-- `delta` rows from `idx` on, within a list of `len` rows. -/
def clampedIdx (idx : Nat) (delta : Int) (len : Nat) : Nat :=
  min ((idx : Int) + delta).toNat (len - 1)

variable {key} {selected : Option κ} {rows : List α} {idx : Nat}

theorem displayIdx_lt (h : displayIdx key selected rows = some idx) : idx < rows.length := by
  cases rows with
  | nil => cases h
  | cons r rs =>
    obtain rfl := Option.some.inj h
    cases hfind : selected.bind fun id => (r :: rs).findIdx? fun r => key r = id with
    | none => exact Nat.zero_lt_succ _
    | some i =>
      obtain ⟨id, _, hi⟩ := Option.bind_eq_some_iff.1 hfind
      exact (List.findIdx?_eq_some_iff_findIdx_eq.1 hi).1

theorem displayIdx_eq_none_iff : displayIdx key selected rows = none ↔ rows = [] := by
  cases rows with
  | nil => exact iff_of_true rfl rfl
  | cons r rs => exact iff_of_false (fun h => nomatch h) (List.cons_ne_nil r rs)

theorem clampedIdx_lt (idx : Nat) (delta : Int) {len : Nat} (h : 0 < len) :
    clampedIdx idx delta len < len := by
  unfold clampedIdx
  omega

/-- The row at the shown place, or at the first place when there is none, is the selected one. -/
theorem getElem?_displayIdx :
    rows[(displayIdx key selected rows).getD 0]? = row key selected rows := by
  cases rows with
  | nil => rfl
  | cons r rs => rfl

/-- The selected row is the one with the key, or the first one. -/
theorem row_eq :
    row key selected rows =
      (selected.bind fun id => KeyedList.entry key rows id).or rows.head? := by
  cases rows with
  | nil => cases selected <;> rfl
  | cons r rs =>
    have hdisplay : displayIdx key selected (r :: rs) =
        some ((selected.bind fun id => (r :: rs).findIdx? fun r => key r = id).getD 0) := rfl
    cases selected with
    | none => rfl
    | some id =>
      rw [row, hdisplay, Option.bind_some, Option.bind_some, Option.bind_some, KeyedList.entry,
        List.find?_eq_bind_findIdx?_getElem?]
      cases hfind : (r :: rs).findIdx? fun r => key r = id with
      | none => rfl
      | some i =>
        have hlt := (List.findIdx?_eq_some_iff_findIdx_eq.1 hfind).1
        rw [Option.getD_some, Option.bind_some, List.getElem?_eq_getElem hlt]
        rfl

/-- With distinct keys, a row is selected by its key. -/
theorem row_of_mem (h : KeyedList.Distinct key rows) {r : α} (hr : r ∈ rows) :
    row key (some (key r)) rows = some r := by
  rw [row_eq, Option.bind_some, (KeyedList.entry_eq_some_iff h).2 ⟨hr, rfl⟩, Option.some_or]

/-- A key that no row has selects what no key selects. -/
theorem row_of_stale {id : κ} (h : KeyedList.entry key rows id = none) :
    row key (some id) rows = row key none rows := by
  rw [row_eq, row_eq, Option.bind_some, h, Option.bind_none]

end Selection
