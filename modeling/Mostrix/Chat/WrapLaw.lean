import Mostrix.Chat.Wrap

/-!
# What wrapping keeps

`wrapTextToLines` should lose no word, give no line that is wider than asked for unless it is a
single word, and give the same lines again for its own output. The display width of a text is that
of the `unicode-width` crate, of which one law is used: a space is one column, and what stands on
its two sides is measured apart (`DisplayWidth`).

All of it holds unless a word is put on a started line of width zero, which the loop takes for an
empty one (`mergedWords`), or the content has no words at all and is wider than the line.
-/

namespace Mostrix.Chat

open Text

/-- The display width of a text. -/
structure DisplayWidth where
  width : Text → Nat
  /-- A space is one column wide, and no sequence goes across it. -/
  space : ∀ a b, width (a ++ ' ' :: b) = width a + 1 + width b

/-- What is asked of the lines of a content. -/
structure WrapsWell (d : DisplayWidth) (maxWidth : Nat) (content : Text) : Prop where
  /-- No word is lost, made or moved. -/
  words : words (joinLines (wrapTextToLines d.width maxWidth content)) = words content
  /-- A line that is wider is one word. -/
  bounded : ∀ l ∈ wrapTextToLines d.width maxWidth content, maxWidth < d.width l → IsWord l
  /-- The lines are wrapped into themselves. -/
  stable : wrapTextToLines d.width maxWidth
      (joinLines (wrapTextToLines d.width maxWidth content)) =
    wrapTextToLines d.width maxWidth content

/-- The state of a loop that merges no word, with the words that are left. -/
structure Within (d : DisplayWidth) (maxWidth : Nat) (s : Wrapping) (rest : List Text) : Prop where
  lines : ∀ l ∈ s.lines, maxWidth < d.width l → IsWord l
  currentLine : s.currentLine ≠ [] → d.width s.currentLine = s.currentWidth
  empty : s.currentLine = [] → s.currentWidth = 0
  currentWidth : s.currentWidth ≤ maxWidth
  unmerged : mergedWords d.width maxWidth (s.currentLine ≠ []) s.currentWidth rest = 0

section
variable {d : DisplayWidth} {maxWidth : Nat} {s : Wrapping} {word : Text} {rest : List Text}

/-- Closing the current line. -/
theorem Within.closed (h : Within d maxWidth s rest) :
    ∀ l ∈ s.closed, maxWidth < d.width l → IsWord l := by
  intro l hl hwide
  unfold Wrapping.closed at hl
  split at hl
  · rename_i hne
    rcases List.mem_append.1 hl with hl | hl
    · exact h.lines l hl hwide
    · rw [List.mem_singleton.1 hl, h.currentLine hne] at hwide
      exact absurd h.currentWidth (Nat.not_le.2 hwide)
  · exact h.lines l hl hwide

theorem Within.wrapWord_wide (h : Within d maxWidth s (word :: rest)) (hword : IsWord word)
    (hwide : d.width word > maxWidth) :
    Within d maxWidth (wrapWord d.width maxWidth s word) rest := by
  have hnone := h.unmerged
  rw [wrapWord_of_wide hwide h.empty]
  refine ⟨?_, fun hne => absurd rfl hne, fun _ => rfl, Nat.zero_le _, ?_⟩
  · intro l hl hl'
    rcases List.mem_append.1 hl with hl | hl
    · exact h.closed l hl hl'
    · rwa [List.mem_singleton.1 hl]
  · rw [mergedWords, if_pos hwide] at hnone
    simpa using hnone

theorem Within.wrapWord_full (h : Within d maxWidth s (word :: rest)) (hword : IsWord word)
    (hwide : ¬ d.width word > maxWidth)
    (hfull : s.currentWidth + (if s.currentWidth > 0 then 1 else 0) + d.width word > maxWidth) :
    Within d maxWidth (wrapWord d.width maxWidth s word) rest := by
  have hnone := h.unmerged
  rw [wrapWord_of_full hwide hfull]
  refine ⟨h.closed, fun _ => rfl, fun hnil => absurd hnil hword.ne_nil, Nat.not_lt.1 hwide, ?_⟩
  rw [mergedWords, if_neg hwide, if_pos hfull] at hnone
  simpa [hword.ne_nil] using hnone

/-- A word behind the others of the current line: the space between them is one column. -/
theorem Within.wrapWord_fits (h : Within d maxWidth s (word :: rest))
    (hwide : ¬ d.width word > maxWidth)
    (hfull : ¬ s.currentWidth + (if s.currentWidth > 0 then 1 else 0) + d.width word > maxWidth)
    (hstarted : s.currentWidth > 0) :
    Within d maxWidth (wrapWord d.width maxWidth s word) rest := by
  have hnone := h.unmerged
  have hne : s.currentLine ≠ [] := by
    intro hnil
    rw [h.empty hnil] at hstarted
    exact Nat.lt_irrefl 0 hstarted
  rw [wrapWord_of_fits hwide hfull hstarted]
  refine ⟨h.lines, fun _ => ?_, fun hnil => ?_, ?_, ?_⟩
  · rw [d.space, h.currentLine hne]
  · simp at hnil
  · rw [if_pos hstarted] at hfull
    exact Nat.not_lt.1 hfull
  · rw [mergedWords, if_neg hwide, if_neg hfull, if_pos hstarted] at hnone
    simpa using hnone

/-- A word on a line without width: the line is empty, as nothing is merged. -/
theorem Within.wrapWord_first (h : Within d maxWidth s (word :: rest)) (hword : IsWord word)
    (hwide : ¬ d.width word > maxWidth) (hzero : s.currentWidth = 0) :
    Within d maxWidth (wrapWord d.width maxWidth s word) rest := by
  have hnone := h.unmerged
  have hsplit : (if (decide (s.currentLine ≠ [])) = true then 1 else 0) +
      mergedWords d.width maxWidth true (d.width word) rest = 0 := by
    rw [mergedWords, if_neg hwide, hzero] at hnone
    simpa [hwide] using hnone
  obtain ⟨hstarted, hrest⟩ := Nat.add_eq_zero_iff.1 hsplit
  have hnil : s.currentLine = [] := by simpa using hstarted
  rw [wrapWord_of_noWidth hwide hzero, hnil, List.nil_append]
  refine ⟨h.lines, fun _ => rfl, fun hw => absurd hw hword.ne_nil, Nat.not_lt.1 hwide, ?_⟩
  simpa [hword.ne_nil] using hrest

/-- One word of the loop. -/
theorem Within.wrapWord (h : Within d maxWidth s (word :: rest)) (hword : IsWord word) :
    Within d maxWidth (wrapWord d.width maxWidth s word) rest := by
  by_cases hwide : d.width word > maxWidth
  · exact h.wrapWord_wide hword hwide
  by_cases hfull : s.currentWidth + (if s.currentWidth > 0 then 1 else 0) + d.width word > maxWidth
  · exact h.wrapWord_full hword hwide hfull
  by_cases hstarted : s.currentWidth > 0
  · exact h.wrapWord_fits hwide hfull hstarted
  · exact h.wrapWord_first hword hwide (Nat.eq_zero_of_not_pos hstarted)

/-- The whole loop. -/
theorem Within.foldl {ws : List Text} (h : Within d maxWidth s ws) (hws : ∀ w ∈ ws, IsWord w) :
    Within d maxWidth (ws.foldl (Chat.wrapWord d.width maxWidth) s) [] := by
  induction ws generalizing s with
  | nil => exact h
  | cons w ws ih =>
    obtain ⟨hw, hws⟩ := List.forall_mem_cons.1 hws
    exact ih (h.wrapWord hw) hws

variable (d maxWidth s) in
/-- A word leaves a line. -/
theorem wrapWord_ne_nil (hword : IsWord word) :
    (wrapWord d.width maxWidth s word).lines ≠ [] ∨
      (wrapWord d.width maxWidth s word).currentLine ≠ [] := by
  have hne := hword.ne_nil
  by_cases hwide : d.width word > maxWidth
  · left
    rw [wrapWord, if_pos hwide]
    split <;> simp
  right
  by_cases hfull : s.currentWidth + (if s.currentWidth > 0 then 1 else 0) + d.width word > maxWidth
  · rw [wrapWord, if_neg hwide, if_pos hfull]
    exact hne
  · rw [wrapWord, if_neg hwide, if_neg hfull]
    split <;> simp [hne]

variable (d) in
/-- The lines of a content with words are those of the loop. -/
theorem wrapTextToLines_of_words (hmax : maxWidth ≠ 0) {content : Text}
    (hblank : ¬ IsBlank content) {s : Wrapping}
    (hs : (words content).foldl (wrapWord d.width maxWidth) {} = s) :
    wrapTextToLines d.width maxWidth content = s.closed := by
  have hne : words content ≠ [] := fun hnil => hblank (words_eq_nil_iff.1 hnil)
  obtain ⟨init, last, hlast⟩ := (List.eq_nil_or_concat' (words content)).resolve_left hne
  have hword : IsWord last := isWord_of_mem_words (t := content) (by rw [hlast]; simp)
  have hleft := wrapWord_ne_nil d maxWidth (init.foldl (wrapWord d.width maxWidth) {}) hword
  rw [hlast, List.foldl_concat] at hs
  rw [hs] at hleft
  have hclosed : s.closed ≠ [] := by
    unfold Wrapping.closed
    split
    · simp
    · rename_i hnil
      exact hleft.resolve_right hnil
  rw [wrapTextToLines_eq hmax, hlast, List.foldl_concat, hs, if_neg hclosed]

/-- Where no word is merged, the lines of a content with words are bounded. -/
theorem bounded_of_mergedWords (hmax : maxWidth ≠ 0) {content : Text} (hblank : ¬ IsBlank content)
    (hnone : mergedWords d.width maxWidth false 0 (words content) = 0) :
    ∀ l ∈ wrapTextToLines d.width maxWidth content, maxWidth < d.width l → IsWord l := by
  have hempty : Within d maxWidth {} (words content) :=
    ⟨nofun, fun hne => absurd rfl hne, fun _ => rfl, Nat.zero_le _, by simpa using hnone⟩
  have hlines := (hempty.foldl fun w hw => isWord_of_mem_words hw).closed
  rwa [← wrapTextToLines_of_words d hmax hblank rfl] at hlines

/-- Only the words of a content matter. -/
theorem wrapTextToLines_congr (hmax : maxWidth ≠ 0) {content content' : Text}
    (hblank : ¬ IsBlank content) (hwords : words content' = words content) :
    wrapTextToLines d.width maxWidth content' = wrapTextToLines d.width maxWidth content := by
  have hblank' : ¬ IsBlank content' := by
    rwa [← words_eq_nil_iff, hwords, words_eq_nil_iff]
  rw [wrapTextToLines_of_words d hmax hblank' rfl, wrapTextToLines_of_words d hmax hblank rfl,
    hwords]

/-- A content with words is kept where no word is merged. -/
theorem wrapsWell_of_mergedWords (hmax : maxWidth ≠ 0) {content : Text} (hblank : ¬ IsBlank content)
    (hnone : mergedWords d.width maxWidth false 0 (words content) = 0) :
    WrapsWell d maxWidth content := by
  obtain ⟨ls, hls, -, -, hkept⟩ := wrapped_words d.width maxWidth hmax hblank
  have hwords : words (joinLines (wrapTextToLines d.width maxWidth content)) = words content := by
    rw [hls]
    exact hkept.2 hnone
  exact ⟨hwords, bounded_of_mergedWords hmax hblank hnone, wrapTextToLines_congr hmax hblank hwords⟩

/-- Words with a width are never merged. -/
theorem mergedWords_of_pos {width : Text → Nat} {ws : List Text} (hws : ∀ w ∈ ws, 0 < width w)
    (started : Bool) (currentWidth : Nat) (hstarted : started = true → 0 < currentWidth) :
    mergedWords width maxWidth started currentWidth ws = 0 := by
  induction ws generalizing started currentWidth with
  | nil => rfl
  | cons w ws ih =>
    obtain ⟨hw, hws⟩ := List.forall_mem_cons.1 hws
    have hwide := ih hws false 0 nofun
    have hnew := ih hws true (width w) fun _ => hw
    have hon := ih hws true (currentWidth + 1 + width w) fun _ => by omega
    rw [mergedWords, hwide, hnew, hon]
    by_cases hline : currentWidth > 0
    · simp [hline]
    · have hempty : started = false := Bool.eq_false_iff.2 fun hon => hline (hstarted hon)
      simp [hline, hempty]

/-- A content whose words have a width is always kept. -/
theorem wrapsWell_of_pos (hmax : maxWidth ≠ 0) {content : Text} (hblank : ¬ IsBlank content)
    (hpos : ∀ w ∈ words content, 0 < d.width w) : WrapsWell d maxWidth content :=
  wrapsWell_of_mergedWords hmax hblank (mergedWords_of_pos hpos false 0 nofun)

/-- The exact law of wrapping: all is kept where no word that fits comes to a started line of width
zero, and a content without words is not wider than the line. -/
theorem wrapsWell_iff (d : DisplayWidth) (maxWidth : Nat) (hmax : 0 < maxWidth) (content : Text) :
    WrapsWell d maxWidth content ↔
      mergedWords d.width maxWidth false 0 (words content) = 0 ∧
        (IsBlank content → d.width content ≤ maxWidth) := by
  have hmax' : maxWidth ≠ 0 := Nat.pos_iff_ne_zero.1 hmax
  by_cases hblank : IsBlank content
  · -- the content is its own line
    have hself : wrapTextToLines d.width maxWidth content = [content] :=
      wrapTextToLines_of_isBlank hblank
    have hjoin : joinLines [content] = content := by simp [joinLines]
    have hnone : mergedWords d.width maxWidth false 0 (words content) = 0 := by
      rw [words_eq_nil_iff.2 hblank]
      rfl
    refine ⟨fun h => ⟨hnone, fun _ => ?_⟩, fun h => ⟨?_, ?_, ?_⟩⟩
    · by_contra hwide
      have hword : IsWord content := h.bounded content (by simp [hself]) (Nat.not_le.1 hwide)
      exact hword.isTrimmed.not_isBlank hblank
    · rw [hself, hjoin]
    · intro l hl hwide
      rw [hself, List.mem_singleton] at hl
      rw [hl] at hwide
      exact absurd (h.2 hblank) (Nat.not_le.2 hwide)
    · rw [hself, hjoin, hself]
  · obtain ⟨ls, hls, -, -, hkept⟩ := wrapped_words d.width maxWidth hmax' hblank
    refine ⟨fun h => ⟨?_, fun hb => absurd hb hblank⟩, fun h => ?_⟩
    · rw [← hkept, ← hls]
      exact h.words
    · exact wrapsWell_of_mergedWords hmax' hblank h.1

end

/-- The width of a text of which only the zero width space is not one column wide. -/
def columns : DisplayWidth where
  width t := t.countP (· != '\u200b')
  space a b := by
    rw [List.countP_append, List.countP_cons_of_pos (by decide)]
    omega

theorem wrapsWell_iff_hello :
    0 < 5 ∧ (WrapsWell columns 5 "hello big world".toList ↔
      mergedWords columns.width 5 false 0 (words "hello big world".toList) = 0 ∧
        (IsBlank "hello big world".toList → columns.width "hello big world".toList ≤ 5)) :=
  ⟨by decide, wrapsWell_iff columns 5 (by decide) "hello big world".toList⟩

/-- A word of width zero and the next one become one word. -/
theorem zero_width_word_merges : ¬ WrapsWell columns 5 "\u200b a".toList := by
  intro h
  exact absurd h.words (by decide +kernel)

end Mostrix.Chat
