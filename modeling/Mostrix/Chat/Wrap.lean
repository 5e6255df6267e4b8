import Mostrix.Library.Text

/-!
# Wrapping a message

`ui/helpers/chat_render.rs`: `wrap_text_to_lines` lays the words of a content out in lines of a
given width. A transcript stores the wrapped content, so what matters here is that the words of the
lines are those of the content.

They are, unless a word is put on a line of width zero that is not empty: the code takes such a line
for an empty one and leaves the space out. `mergedWords` counts these words, and `wrapped_words`
says that the lines have the words of the content exactly when there are none.
-/

namespace Mostrix.Chat

open Text

/-- The loop's variables. -/
structure Wrapping where
  lines : List Text := []
  currentLine : Text := []
  currentWidth : Nat := 0
deriving DecidableEq

section
variable (width : Text → Nat) (maxWidth : Nat)

/-- One word of `wrap_text_to_lines`; `width` is the display width of a text. -/
def wrapWord (s : Wrapping) (word : Text) : Wrapping :=
  let wordWidth := width word
  let spaceWidth := if s.currentWidth > 0 then 1 else 0
  if wordWidth > maxWidth then
    if s.currentLine ≠ [] then
      { lines := s.lines ++ [s.currentLine] ++ [word], currentLine := [], currentWidth := 0 }
    else { s with lines := s.lines ++ [word] }
  else if s.currentWidth + spaceWidth + wordWidth > maxWidth then
    { lines := if s.currentLine ≠ [] then s.lines ++ [s.currentLine] else s.lines
      currentLine := word
      currentWidth := wordWidth }
  else if s.currentWidth > 0 then
    { s with
      currentLine := s.currentLine ++ ' ' :: word
      currentWidth := s.currentWidth + 1 + wordWidth }
  else
    { s with
      currentLine := s.currentLine ++ word
      currentWidth := s.currentWidth + wordWidth }

/-- `wrap_text_to_lines`. -/
def wrapTextToLines (content : Text) : List Text :=
  if maxWidth = 0 then [content]
  else
    let s := (words content).foldl (wrapWord width maxWidth) {}
    let lines := if s.currentLine ≠ [] then s.lines ++ [s.currentLine] else s.lines
    if lines = [] then [content] else lines

/-- How many of the words are put right behind another one: those that come to a line that is
started and has no width. -/
def mergedWords : Bool → Nat → List Text → Nat
  | _, _, [] => 0
  | started, currentWidth, word :: rest =>
    if width word > maxWidth then mergedWords false 0 rest
    else if currentWidth + (if currentWidth > 0 then 1 else 0) + width word > maxWidth then
      mergedWords true (width word) rest
    else if currentWidth > 0 then mergedWords true (currentWidth + 1 + width word) rest
    else (if started then 1 else 0) + mergedWords true (width word) rest

end

/-! ## What a word does -/

section
variable {width : Text → Nat} {maxWidth : Nat} {s : Wrapping} {word : Text}

/-- The lines with the current one. -/
def Wrapping.closed (s : Wrapping) : List Text :=
  if s.currentLine ≠ [] then s.lines ++ [s.currentLine] else s.lines

/-- A word that is wider than a line gets a line of its own. -/
theorem wrapWord_of_wide (hwide : width word > maxWidth)
    (hempty : s.currentLine = [] → s.currentWidth = 0) :
    wrapWord width maxWidth s word = ⟨s.closed ++ [word], [], 0⟩ := by
  unfold wrapWord Wrapping.closed
  rw [if_pos hwide]
  by_cases hline : s.currentLine = []
  · rw [if_neg (not_not.2 hline), if_neg (not_not.2 hline), hline, hempty hline]
  · rw [if_pos hline, if_pos hline]

/-- A word that has no room in the current line starts a new one. -/
theorem wrapWord_of_full (hwide : ¬ width word > maxWidth)
    (hfull : s.currentWidth + (if s.currentWidth > 0 then 1 else 0) + width word > maxWidth) :
    wrapWord width maxWidth s word = ⟨s.closed, word, width word⟩ := by
  unfold wrapWord
  rw [if_neg hwide, if_pos hfull]
  rfl

/-- A word behind the others of the current line. -/
theorem wrapWord_of_fits (hwide : ¬ width word > maxWidth)
    (hfull : ¬ s.currentWidth + (if s.currentWidth > 0 then 1 else 0) + width word > maxWidth)
    (hstarted : s.currentWidth > 0) :
    wrapWord width maxWidth s word =
      ⟨s.lines, s.currentLine ++ ' ' :: word, s.currentWidth + 1 + width word⟩ := by
  unfold wrapWord
  rw [if_neg hwide, if_neg hfull, if_pos hstarted]

/-- A word on a line without width, which is taken for an empty one. -/
theorem wrapWord_of_noWidth (hwide : ¬ width word > maxWidth) (hzero : s.currentWidth = 0) :
    wrapWord width maxWidth s word = ⟨s.lines, s.currentLine ++ word, width word⟩ := by
  unfold wrapWord
  simp [hwide, hzero]

/-- The lines of a content are those of the loop, if it leaves any. -/
theorem wrapTextToLines_eq (hmax : maxWidth ≠ 0) (content : Text) :
    wrapTextToLines width maxWidth content =
      if ((words content).foldl (wrapWord width maxWidth) {}).closed = [] then [content]
      else ((words content).foldl (wrapWord width maxWidth) {}).closed := by
  unfold wrapTextToLines
  rw [if_neg hmax]
  rfl

end

/-! ## Rows of words -/

/-- The loop's lines are rows of words: the finished rows, and the current one. -/
structure Laid (s : Wrapping) (rows : List (List Text)) (row : List Text) : Prop where
  lines : s.lines = rows.map [' '].intercalate
  currentLine : s.currentLine = [' '].intercalate row
  started : ∀ r ∈ rows, r ≠ []
  words : ∀ w ∈ rows.flatten ++ row, IsWord w
  width : row = [] → s.currentWidth = 0

section
variable {width : Text → Nat} {maxWidth : Nat} {s : Wrapping} {rows : List (List Text)}
  {row : List Text}

theorem Laid.currentLine_ne_nil_iff (h : Laid s rows row) : s.currentLine ≠ [] ↔ row ≠ [] := by
  rw [h.currentLine]
  refine ⟨fun hne hrow => hne (by rw [hrow]; rfl), fun hne => ?_⟩
  exact (isLine_words hne fun w hw => h.words w (List.mem_append_right _ hw)).ne_nil

/-- The rows with the current one. -/
def allRows (rows : List (List Text)) (row : List Text) : List (List Text) :=
  if row ≠ [] then rows ++ [row] else rows

theorem flatten_allRows : (allRows rows row).flatten = rows.flatten ++ row := by
  unfold allRows
  split
  · simp
  · rename_i hrow
    simp [not_not.1 hrow]

/-- Closing the current line. -/
theorem Laid.lines_allRows (h : Laid s rows row) :
    s.closed = (allRows rows row).map [' '].intercalate := by
  unfold allRows Wrapping.closed
  by_cases hrow : row = []
  · rw [if_neg fun hne => h.currentLine_ne_nil_iff.1 hne hrow, if_neg (not_not.2 hrow), h.lines]
  · rw [if_pos (h.currentLine_ne_nil_iff.2 hrow), if_pos hrow, h.lines, h.currentLine]
    simp

theorem Laid.started_allRows (h : Laid s rows row) : ∀ r ∈ allRows rows row, r ≠ [] := by
  unfold allRows
  split
  · rename_i hrow
    intro r hr
    rcases List.mem_append.1 hr with hr | hr
    · exact h.started r hr
    · rw [List.mem_singleton.1 hr]
      exact hrow
  · exact h.started

theorem Laid.words_snoc (h : Laid s rows row) {word : Text} (hword : IsWord word) :
    ∀ w ∈ rows.flatten ++ row ++ [word], IsWord w := by
  intro w hw
  rcases List.mem_append.1 hw with hw | hw
  · exact h.words w hw
  · rwa [List.mem_singleton.1 hw]

variable (width maxWidth) in
/-- What one word does to the rows: it comes behind their words, or it is merged with the last one. -/
structure LaysWord (s : Wrapping) (rows : List (List Text)) (row : List Text) (word : Text)
    (rows' : List (List Text)) (row' : List Text) (merged : Nat) : Prop where
  laid : Laid (wrapWord width maxWidth s word) rows' row'
  mergedWords : ∀ rest, mergedWords width maxWidth (row ≠ []) s.currentWidth (word :: rest) =
    merged + mergedWords width maxWidth (row' ≠ [])
      (wrapWord width maxWidth s word).currentWidth rest
  length : (rows'.flatten ++ row').length + merged = (rows.flatten ++ row).length + 1
  words : merged = 0 → rows'.flatten ++ row' = rows.flatten ++ row ++ [word]

/-- A word that is not merged. -/
theorem LaysWord.of_flatten {word : Text} {rows' : List (List Text)} {row' : List Text}
    (hlaid : Laid (wrapWord width maxWidth s word) rows' row')
    (hmerged : ∀ rest, Chat.mergedWords width maxWidth (row ≠ []) s.currentWidth (word :: rest) =
      Chat.mergedWords width maxWidth (row' ≠ [])
        (wrapWord width maxWidth s word).currentWidth rest)
    (hflat : rows'.flatten ++ row' = rows.flatten ++ row ++ [word]) :
    LaysWord width maxWidth s rows row word rows' row' 0 := by
  refine ⟨hlaid, fun rest => ?_, ?_, fun _ => hflat⟩
  · rw [hmerged rest, Nat.zero_add]
  · rw [hflat, List.length_append]
    rfl

/-- A word that is wider than a line gets a row of its own. -/
theorem Laid.wrapWord_wide (h : Laid s rows row) {word : Text} (hword : IsWord word)
    (hwide : width word > maxWidth) :
    LaysWord width maxWidth s rows row word (allRows rows row ++ [[word]]) [] 0 := by
  have hflat : (allRows rows row ++ [[word]]).flatten ++ [] = rows.flatten ++ row ++ [word] := by
    simp [flatten_allRows]
  have hclosed : wrapWord width maxWidth s word =
      { lines := (allRows rows row).map [' '].intercalate ++ [word] } := by
    rw [wrapWord_of_wide hwide, h.lines_allRows]
    intro hline
    exact h.width (not_not.1 fun hne => h.currentLine_ne_nil_iff.2 hne hline)
  refine .of_flatten ?_ (fun rest => ?_) hflat
  · rw [hclosed]
    refine ⟨by simp, by simp, ?_, ?_, fun _ => rfl⟩
    · intro r hr
      rcases List.mem_append.1 hr with hr | hr
      · exact h.started_allRows r hr
      · rw [List.mem_singleton.1 hr]
        exact List.cons_ne_nil _ _
    · rw [hflat]
      exact h.words_snoc hword
  · rw [hclosed]
    simp [Chat.mergedWords, hwide]

/-- A word that has no room in the current row starts a new one. -/
theorem Laid.wrapWord_full (h : Laid s rows row) {word : Text} (hword : IsWord word)
    (hwide : ¬ width word > maxWidth)
    (hfull : s.currentWidth + (if s.currentWidth > 0 then 1 else 0) + width word > maxWidth) :
    LaysWord width maxWidth s rows row word (allRows rows row) [word] 0 := by
  have hflat : (allRows rows row).flatten ++ [word] = rows.flatten ++ row ++ [word] := by
    rw [flatten_allRows]
  have hclosed : wrapWord width maxWidth s word =
      ⟨(allRows rows row).map [' '].intercalate, word, width word⟩ := by
    rw [wrapWord_of_full hwide hfull, h.lines_allRows]
  refine .of_flatten ?_ (fun rest => ?_) hflat
  · rw [hclosed]
    refine ⟨rfl, by simp, h.started_allRows, ?_, nofun⟩
    rw [hflat]
    exact h.words_snoc hword
  · rw [hclosed]
    simp [Chat.mergedWords, hwide, hfull]

/-- A word that the current row goes on with. -/
theorem Laid.wrapWord_fits (h : Laid s rows row) {word : Text} (hword : IsWord word)
    (hwide : ¬ width word > maxWidth)
    (hfull : ¬ s.currentWidth + (if s.currentWidth > 0 then 1 else 0) + width word > maxWidth)
    (hstarted : s.currentWidth > 0) :
    LaysWord width maxWidth s rows row word rows (row ++ [word]) 0 := by
  have hne : row ≠ [] := fun hrow => by
    rw [h.width hrow] at hstarted
    exact Nat.lt_irrefl 0 hstarted
  have hflat : rows.flatten ++ (row ++ [word]) = rows.flatten ++ row ++ [word] := by simp
  have hnext := wrapWord_of_fits hwide hfull hstarted
  refine .of_flatten ?_ (fun rest => ?_) hflat
  · rw [hnext]
    refine ⟨h.lines, ?_, h.started, ?_, by simp⟩
    · rw [intercalate_concat _ hne, h.currentLine]
    · rw [hflat]
      exact h.words_snoc hword
  · rw [hnext]
    simp only [if_pos hstarted] at hfull
    simp [Chat.mergedWords, hwide, hfull, hstarted]

/-- A word on a line without width: it starts the row, or it is merged with the row's last word. -/
theorem Laid.wrapWord_noWidth (h : Laid s rows row) {word : Text} (hword : IsWord word)
    (hfits : ¬ width word > maxWidth) (hzero : s.currentWidth = 0) :
    ∃ row' merged, LaysWord width maxWidth s rows row word rows row' merged := by
  have hnext := wrapWord_of_noWidth hfits hzero
  obtain rfl | ⟨init, last, rfl⟩ := List.eq_nil_or_concat' row
  · refine ⟨[word], 0, .of_flatten ?_ (fun rest => ?_) (by simp)⟩
    · rw [hnext]
      refine ⟨h.lines, ?_, h.started, ?_, nofun⟩
      · simp [h.currentLine]
      · simpa using h.words_snoc hword
    · rw [hnext]
      simp [Chat.mergedWords, hfits, hzero]
  · -- the row is started and has no width: the space is left out
    have hlast : IsWord last := h.words last (by simp)
    have hjoined : IsWord (last ++ word) := by
      refine ⟨by simp [hlast.ne_nil], fun c hc => ?_⟩
      rcases List.mem_append.1 hc with hc | hc
      · exact hlast.noSpace c hc
      · exact hword.noSpace c hc
    refine ⟨init ++ [last ++ word], 1, ?_, fun rest => ?_, by simp, nofun⟩
    · rw [hnext]
      refine ⟨h.lines, ?_, h.started, ?_, by simp⟩
      · rw [h.currentLine, intercalate_append]
      · intro w hw
        rw [← List.append_assoc] at hw
        rcases List.mem_append.1 hw with hw | hw
        · refine h.words w ?_
          rw [← List.append_assoc]
          exact List.mem_append_left _ hw
        · rwa [List.mem_singleton.1 hw]
    · rw [hnext]
      simp [Chat.mergedWords, hfits, hzero]

variable (width maxWidth) in
/-- One word of the loop. -/
theorem Laid.wrapWord (h : Laid s rows row) {word : Text} (hword : IsWord word) :
    ∃ rows' row' merged, LaysWord width maxWidth s rows row word rows' row' merged := by
  by_cases hwide : width word > maxWidth
  · exact ⟨_, _, _, h.wrapWord_wide hword hwide⟩
  by_cases hfull : s.currentWidth + (if s.currentWidth > 0 then 1 else 0) + width word > maxWidth
  · exact ⟨_, _, _, h.wrapWord_full hword hwide hfull⟩
  by_cases hstarted : s.currentWidth > 0
  · exact ⟨_, _, _, h.wrapWord_fits hword hwide hfull hstarted⟩
  · exact ⟨rows, h.wrapWord_noWidth hword hwide (Nat.eq_zero_of_not_pos hstarted)⟩

variable (width maxWidth) in
/-- The whole loop. -/
theorem Laid.foldl (h : Laid s rows row) {ws : List Text} (hws : ∀ w ∈ ws, IsWord w) :
    ∃ rows' row', Laid (ws.foldl (Chat.wrapWord width maxWidth) s) rows' row' ∧
      (rows'.flatten ++ row').length + mergedWords width maxWidth (row ≠ []) s.currentWidth ws =
        (rows.flatten ++ row).length + ws.length ∧
      (mergedWords width maxWidth (row ≠ []) s.currentWidth ws = 0 →
        rows'.flatten ++ row' = rows.flatten ++ row ++ ws) := by
  induction ws generalizing s rows row with
  | nil => exact ⟨rows, row, h, rfl, fun _ => (List.append_nil _).symm⟩
  | cons w ws ih =>
    obtain ⟨hw, hws⟩ := List.forall_mem_cons.1 hws
    obtain ⟨rows₁, row₁, merged, hlaid, hmerged, hlength, hwords⟩ := h.wrapWord width maxWidth hw
    obtain ⟨rows₂, row₂, hlaid₂, hlength₂, hwords₂⟩ := ih hlaid hws
    rw [hmerged ws]
    refine ⟨rows₂, row₂, hlaid₂, ?_, fun hzero => ?_⟩
    · rw [List.length_cons]
      omega
    · obtain ⟨hnone, hnone₂⟩ := Nat.add_eq_zero_iff.1 hzero
      rw [hwords₂ hnone₂, hwords hnone, List.append_assoc, List.singleton_append]

variable (width maxWidth) in
theorem mergedWords_le (started : Bool) (currentWidth : Nat) (ws : List Text) :
    mergedWords width maxWidth started currentWidth ws ≤ ws.length := by
  induction ws generalizing started currentWidth with
  | nil => exact Nat.le_refl 0
  | cons w ws ih =>
    have hwide := ih false 0
    have hnew := ih true (width w)
    have hon := ih true (currentWidth + 1 + width w)
    rw [mergedWords, List.length_cons]
    split_ifs <;> omega

variable (width maxWidth) in
/-- The first word is not merged. -/
theorem mergedWords_lt {ws : List Text} (hne : ws ≠ []) :
    mergedWords width maxWidth false 0 ws < ws.length := by
  obtain ⟨w, rest, rfl⟩ := List.exists_cons_of_ne_nil hne
  have hwide := mergedWords_le width maxWidth false 0 rest
  have hnew := mergedWords_le width maxWidth true (width w) rest
  have hon := mergedWords_le width maxWidth true (0 + 1 + width w) rest
  rw [mergedWords, List.length_cons]
  simp only [Bool.false_eq_true, if_false]
  split_ifs <;> omega

/-- A content without words is its own line. -/
theorem wrapTextToLines_of_isBlank {content : Text} (h : IsBlank content) :
    wrapTextToLines width maxWidth content = [content] := by
  unfold wrapTextToLines
  split
  · rfl
  · rw [words_eq_nil_iff.2 h]
    rfl

variable (width maxWidth) in
/-- The lines of a content with words, and when they have the same words. -/
theorem wrapped_words (hmax : maxWidth ≠ 0) {content : Text} (h : ¬ IsBlank content) :
    ∃ ls, wrapTextToLines width maxWidth content = ls ∧ ls ≠ [] ∧ (∀ l ∈ ls, IsLine l) ∧
      (words (joinLines ls) = words content ↔
        mergedWords width maxWidth false 0 (words content) = 0) := by
  have hempty : Laid {} [] [] := ⟨rfl, rfl, nofun, nofun, fun _ => rfl⟩
  obtain ⟨rows, row, hlaid, hlength, hwords⟩ := hempty.foldl width maxWidth
    fun w (hw : w ∈ words content) => isWord_of_mem_words hw
  have hword : ∀ r ∈ allRows rows row, ∀ w ∈ r, IsWord w := by
    intro r hr w hw
    refine hlaid.words w ?_
    rw [← flatten_allRows]
    exact List.mem_flatten_of_mem hr hw
  have hrows : allRows rows row ≠ [] := by
    intro hnil
    have hflat : rows.flatten ++ row = [] := by rw [← flatten_allRows, hnil, List.flatten_nil]
    have hlt := mergedWords_lt width maxWidth fun hnone =>
      h (words_eq_nil_iff.1 hnone)
    rw [hflat] at hlength
    simp at hlength
    omega
  have hread : words (joinLines ((allRows rows row).map [' '].intercalate)) =
      rows.flatten ++ row := by
    have hrow : ∀ r ∈ allRows rows row, words ([' '].intercalate r) = r :=
      fun r hr => words_intercalate_words rfl (hword r hr)
    rw [joinLines, words_intercalate rfl, List.flatMap_map, ← flatten_allRows,
      List.flatMap_congr hrow, List.flatMap_id']
  refine ⟨(allRows rows row).map [' '].intercalate, ?_, ?_, ?_, ?_⟩
  · rw [wrapTextToLines_eq hmax, hlaid.lines_allRows, if_neg (by simpa using hrows)]
  · simpa using hrows
  · intro l hl
    obtain ⟨r, hr, rfl⟩ := List.mem_map.1 hl
    exact isLine_words (hlaid.started_allRows r hr) (hword r hr)
  · rw [hread]
    refine ⟨fun heq => ?_, fun hzero => ?_⟩
    · rw [heq] at hlength
      simpa using hlength
    · simpa using hwords hzero

end

end Mostrix.Chat
