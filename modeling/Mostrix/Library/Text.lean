import Mathlib.Data.List.DropRight

/-!
# Texts, and how Rust's `str` methods cut them

A text is a list of characters. The definitions follow the methods of `str` that they are named
after: `trim`, `split_whitespace` (`words`), `lines`, `split_once`, the first three parts of
`splitn`, `split("\n\n")` (`paragraphs`), and `join`.

Cutting at one character is `List.splitOnP`. Cutting at a pair of equal characters is not compatible
with appending: whether a newline at the end of a text and one at the start of the next make a pair
depends on the newlines before them. `paragraphs_append` is the case where they do not meet, and
`paragraphs_append_newlines` says what a run of newlines leaves of itself.
-/

/-- A text. -/
abbrev Text := List Char

namespace Text

/-! ## White space -/

/-- `char::is_whitespace`: the Unicode property `White_Space`. -/
def isWhitespace (c : Char) : Bool :=
  let n := c.toNat
  (9 ≤ n && n ≤ 13) || n = 0x20 || n = 0x85 || n = 0xA0 || n = 0x1680 || (0x2000 ≤ n && n ≤ 0x200A) ||
    n = 0x2028 || n = 0x2029 || n = 0x202F || n = 0x205F || n = 0x3000

/-- `trim`. -/
def trim (t : Text) : Text := (t.dropWhile isWhitespace).rdropWhile isWhitespace

/-- `split_whitespace`. -/
def words (t : Text) : List Text := (t.splitOnP isWhitespace).filter fun w => w ≠ []

/-- A text of white space only. -/
def IsBlank (t : Text) : Prop := ∀ c ∈ t, isWhitespace c = true

/-- A word, or what else begins and ends with no white space. -/
structure IsTrimmed (t : Text) : Prop where
  ne_nil : t ≠ []
  head : isWhitespace (t.head ne_nil) = false
  last : isWhitespace (t.getLast ne_nil) = false

/-- A word: not empty, and without white space. -/
structure IsWord (t : Text) : Prop where
  ne_nil : t ≠ []
  noSpace : ∀ c ∈ t, isWhitespace c = false

theorem IsWord.isTrimmed {t : Text} (h : IsWord t) : IsTrimmed t :=
  ⟨h.ne_nil, h.noSpace _ (List.head_mem _), h.noSpace _ (List.getLast_mem _)⟩

theorem trim_eq_nil_iff {t : Text} : trim t = [] ↔ IsBlank t := by
  unfold trim IsBlank
  rw [List.rdropWhile_eq_nil_iff]
  refine ⟨fun h c hc => ?_, fun h c hc => h c ((List.dropWhile_sublist _).mem hc)⟩
  -- what is dropped in front is white space, and so is the rest
  rw [← List.takeWhile_append_dropWhile (p := isWhitespace) (l := t)] at hc
  rcases List.mem_append.1 hc with hfront | hrest
  · exact List.mem_takeWhile_imp hfront
  · exact h c hrest

theorem IsTrimmed.trim_eq {t : Text} (h : IsTrimmed t) : trim t = t := by
  have hfront : t.dropWhile isWhitespace = t := by
    obtain ⟨c, rest, rfl⟩ := List.exists_cons_of_ne_nil h.ne_nil
    have hc : isWhitespace c = false := h.head
    simp [hc]
  unfold trim
  rw [hfront, List.rdropWhile_eq_self_iff]
  intro hne
  rw [h.last]
  exact Bool.false_ne_true

/-- What is left of a text that is not blank. -/
theorem isTrimmed_trim {t : Text} (h : trim t ≠ []) : IsTrimmed (trim t) := by
  refine ⟨h, ?_, ?_⟩
  · have hfront : trim t <+: t.dropWhile isWhitespace := List.rdropWhile_prefix _ _
    have hne : t.dropWhile isWhitespace ≠ [] := hfront.ne_nil h
    rw [hfront.head h]
    exact List.head_dropWhile_not _ _
  · exact eq_false_of_ne_true (List.rdropWhile_last_not _ _ h)

theorem IsTrimmed.not_isBlank {t : Text} (h : IsTrimmed t) : ¬ IsBlank t := by
  intro hblank
  have hspace := hblank _ (List.head_mem h.ne_nil)
  rw [h.head] at hspace
  cases hspace

/-- White space at the end of a text is trimmed. -/
theorem trim_concat (t : Text) {c : Char} (hc : isWhitespace c = true) :
    trim (t ++ [c]) = trim t := by
  unfold trim
  by_cases hblank : t.dropWhile isWhitespace = []
  · have hall : ∀ d ∈ t, isWhitespace d = true := List.dropWhile_eq_nil_iff.1 hblank
    have hboth : (t ++ [c]).dropWhile isWhitespace = [] := by
      rw [List.dropWhile_eq_nil_iff]
      intro d hd
      rcases List.mem_append.1 hd with hd | hd
      · exact hall d hd
      · rwa [List.mem_singleton.1 hd]
    rw [hboth, hblank]
  · have hboth : (t ++ [c]).dropWhile isWhitespace = t.dropWhile isWhitespace ++ [c] := by
      rw [List.dropWhile_append, if_neg (by simpa using hblank)]
    rw [hboth, List.rdropWhile_concat_pos _ _ _ hc]

/-- A word at the end of a text stays when it is trimmed. -/
theorem IsWord.trim_append {w : Text} (h : IsWord w) (t : Text) :
    trim (t ++ w) = t.dropWhile isWhitespace ++ w := by
  have hfront : (t ++ w).dropWhile isWhitespace = t.dropWhile isWhitespace ++ w := by
    rw [List.dropWhile_append]
    split
    · rename_i hnil
      obtain ⟨c, rest, rfl⟩ := List.exists_cons_of_ne_nil h.ne_nil
      have hc : isWhitespace c = false := h.noSpace c List.mem_cons_self
      rw [List.isEmpty_iff.1 hnil, List.nil_append]
      simp [hc]
    · rfl
  unfold trim
  rw [hfront, List.rdropWhile_eq_self_iff]
  intro hne
  rw [List.getLast_append_of_ne_nil _ h.ne_nil, h.noSpace _ (List.getLast_mem h.ne_nil)]
  exact Bool.false_ne_true

/-! ## Words -/

/-- White space separates words. -/
theorem words_append_cons (a b : Text) {c : Char} (hc : isWhitespace c = true) :
    words (a ++ c :: b) = words a ++ words b := by
  unfold words
  rw [List.splitOnP_append_cons a b hc, List.filter_append]

theorem words_nil : words [] = [] := rfl

theorem words_cons_of_space {c : Char} (hc : isWhitespace c = true) (t : Text) :
    words (c :: t) = words t := by
  rw [← List.nil_append (c :: t), words_append_cons [] t hc, words_nil, List.nil_append]

theorem IsWord.words_eq {t : Text} (h : IsWord t) : words t = [t] := by
  unfold words
  rw [List.splitOnP_eq_singleton h.noSpace]
  simp [h.ne_nil]

/-- A piece of a text is of characters of the text at which it is not cut. -/
theorem mem_splitOnP {p : Char → Bool} {t w : Text} (h : w ∈ t.splitOnP p) :
    ∀ c ∈ w, c ∈ t ∧ p c = false := by
  induction t generalizing w with
  | nil =>
    obtain rfl := List.mem_singleton.1 h
    exact nofun
  | cons d t ih =>
    have hcons : ∀ {w : Text}, w ∈ t.splitOnP p → ∀ c ∈ w, c ∈ d :: t ∧ p c = false :=
      fun hw c hc => ⟨List.mem_cons_of_mem _ (ih hw c hc).1, (ih hw c hc).2⟩
    rw [List.splitOnP_cons_eq_if_modifyHead] at h
    split at h
    · rcases List.mem_cons.1 h with rfl | h
      · exact nofun
      · exact hcons h
    · rename_i hd
      obtain ⟨first, rest, hsplit⟩ := List.exists_cons_of_ne_nil (List.splitOnP_ne_nil p t)
      rw [hsplit] at h hcons
      rcases List.mem_cons.1 h with rfl | h
      · intro c hc
        rcases List.mem_cons.1 hc with rfl | hc
        · exact ⟨List.mem_cons_self, eq_false_of_ne_true hd⟩
        · exact hcons List.mem_cons_self c hc
      · exact hcons (List.mem_cons_of_mem _ h)

theorem isWord_of_mem_words {t w : Text} (h : w ∈ words t) : IsWord w := by
  obtain ⟨hw, hne⟩ := List.mem_filter.1 h
  exact ⟨by simpa using hne, fun c hc => (mem_splitOnP hw c hc).2⟩

/-- A text without words is blank. -/
theorem words_eq_nil_iff {t : Text} : words t = [] ↔ IsBlank t := by
  induction t with
  | nil => exact iff_of_true rfl nofun
  | cons c t ih =>
    by_cases hc : isWhitespace c = true
    · rw [words_cons_of_space hc, ih]
      unfold IsBlank
      simp [hc]
    · refine iff_of_false ?_ fun h => hc (h c List.mem_cons_self)
      obtain ⟨first, rest, hsplit⟩ :=
        List.exists_cons_of_ne_nil (List.splitOnP_ne_nil isWhitespace t)
      unfold words
      rw [List.splitOnP_cons_eq_if_modifyHead, if_neg hc, hsplit]
      simp

/-! ## Joining -/

theorem intercalate_cons_cons (c : Char) (l l' : Text) (ls : List Text) :
    [c].intercalate (l :: l' :: ls) = l ++ c :: [c].intercalate (l' :: ls) := by
  rw [List.intercalate_cons_cons, List.append_assoc, List.singleton_append]

/-- Joining one more text. -/
theorem intercalate_concat (c : Char) {ls : List Text} (hne : ls ≠ []) (l : Text) :
    [c].intercalate (ls ++ [l]) = [c].intercalate ls ++ c :: l := by
  induction ls with
  | nil => exact absurd rfl hne
  | cons l' ls ih =>
    cases ls with
    | nil => simp
    | cons l'' ls =>
      have hrest := ih (List.cons_ne_nil _ _)
      simp only [List.cons_append] at hrest ⊢
      rw [intercalate_cons_cons, hrest, intercalate_cons_cons, List.append_assoc, List.cons_append]

/-- Appending to joined texts is appending to the last one. -/
theorem intercalate_append (c : Char) (ls : List Text) (l t : Text) :
    [c].intercalate (ls ++ [l]) ++ t = [c].intercalate (ls ++ [l ++ t]) := by
  cases ls with
  | nil => simp
  | cons l' ls =>
    rw [intercalate_concat c (List.cons_ne_nil _ _), intercalate_concat c (List.cons_ne_nil _ _),
      List.append_assoc, List.cons_append]

theorem mem_intercalate {c d : Char} {ls : List Text} (h : d ∈ [c].intercalate ls) :
    d = c ∨ ∃ l ∈ ls, d ∈ l := by
  induction ls with
  | nil => cases h
  | cons l ls ih =>
    cases ls with
    | nil => exact .inr ⟨l, List.mem_cons_self, by simpa using h⟩
    | cons l' ls =>
      rw [intercalate_cons_cons] at h
      rcases List.mem_append.1 h with h | h
      · exact .inr ⟨l, List.mem_cons_self, h⟩
      · rcases List.mem_cons.1 h with rfl | h
        · exact .inl rfl
        · obtain rfl | ⟨l'', hl'', hd⟩ := ih h
          · exact .inl rfl
          · exact .inr ⟨l'', List.mem_cons_of_mem _ hl'', hd⟩

/-- Joined texts begin and end as they do. -/
theorem isTrimmed_intercalate (c : Char) {ls : List Text} (hne : ls ≠ [])
    (h : ∀ l ∈ ls, IsTrimmed l) : IsTrimmed ([c].intercalate ls) := by
  induction ls with
  | nil => exact absurd rfl hne
  | cons l ls ih =>
    obtain ⟨hl, hls⟩ := List.forall_mem_cons.1 h
    cases ls with
    | nil => simpa using hl
    | cons l' ls =>
      have hrest := ih (List.cons_ne_nil _ _) hls
      rw [intercalate_cons_cons]
      refine ⟨by simp, ?_, ?_⟩
      · rw [List.head_append_of_ne_nil hl.ne_nil]
        exact hl.head
      · rw [List.getLast_append_of_ne_nil _ (List.cons_ne_nil _ _), List.getLast_cons hrest.ne_nil]
        exact hrest.last

/-- Joining with white space joins the words. -/
theorem words_intercalate {c : Char} (hc : isWhitespace c = true) (ts : List Text) :
    words ([c].intercalate ts) = ts.flatMap words := by
  induction ts with
  | nil => rfl
  | cons t ts ih =>
    cases ts with
    | nil => simp
    | cons t' ts =>
      rw [intercalate_cons_cons, words_append_cons t _ hc, ih]
      rfl

/-- Words joined with white space are the words of the text. -/
theorem words_intercalate_words {c : Char} (hc : isWhitespace c = true) {ws : List Text}
    (hws : ∀ w ∈ ws, IsWord w) : words ([c].intercalate ws) = ws := by
  rw [words_intercalate hc]
  induction ws with
  | nil => rfl
  | cons w ws ih =>
    obtain ⟨hw, hws⟩ := List.forall_mem_cons.1 hws
    rw [List.flatMap_cons, hw.words_eq, ih hws, List.singleton_append]

/-! ## Lines -/

/-- `join("\n")`. -/
def joinLines (ls : List Text) : Text := ['\n'].intercalate ls

/-- The carriage return of a line ending. -/
def stripCr (l : Text) : Text := if l.getLast? = some '\r' then l.dropLast else l

/-- `lines`: the text after the last newline is a line if there is any, and keeps its `\r`. -/
def lines (t : Text) : List Text :=
  let pieces := t.splitOn '\n'
  pieces.dropLast.map stripCr ++ (pieces.getLast?.filter (· ≠ [])).toList

/-- A line: it begins and ends with no white space, and has no newline. -/
structure IsLine (l : Text) : Prop extends IsTrimmed l where
  noNewline : '\n' ∉ l

theorem IsWord.isLine {t : Text} (h : IsWord t) : IsLine t :=
  ⟨h.isTrimmed, fun hmem => Bool.noConfusion (h.noSpace _ hmem)⟩

/-- Two lines with something between them that has no newline. -/
theorem IsLine.append_append {a b : Text} (ha : IsLine a) (hb : IsLine b) {s : Text}
    (hs : '\n' ∉ s) : IsLine (a ++ s ++ b) := by
  refine ⟨⟨by simp [ha.ne_nil], ?_, ?_⟩, ?_⟩
  · simp only [List.append_assoc, List.head_append_of_ne_nil ha.ne_nil]
    exact ha.head
  · rw [List.getLast_append_of_ne_nil _ hb.ne_nil]
    exact hb.last
  · intro hmem
    rcases List.mem_append.1 hmem with hmem | hmem
    · rcases List.mem_append.1 hmem with hmem | hmem
      · exact ha.noNewline hmem
      · exact hs hmem
    · exact hb.noNewline hmem

theorem IsLine.stripCr_eq {l : Text} (h : IsLine l) : stripCr l = l := by
  unfold stripCr
  refine if_neg fun hcr => ?_
  rw [List.getLast?_eq_some_getLast h.ne_nil] at hcr
  have hlast := h.last
  rw [Option.some.inj hcr] at hlast
  cases hlast

/-- The pieces of a text that begins with a line and a newline. -/
theorem splitOn_line_append {l : Text} (h : IsLine l) (t : Text) :
    (l ++ '\n' :: t).splitOn '\n' = l :: t.splitOn '\n' :=
  List.splitOn_append_cons_self_of_not_mem h.noNewline t

/-- The lines of a text that begins with a line and a newline. -/
theorem lines_line_append {l : Text} (h : IsLine l) (t : Text) :
    lines (l ++ '\n' :: t) = l :: lines t := by
  unfold lines
  rw [splitOn_line_append h]
  obtain ⟨first, rest, hsplit⟩ := List.exists_cons_of_ne_nil (List.splitOn_ne_nil '\n' t)
  rw [hsplit]
  simp [h.stripCr_eq]

/-- The lines of a text that begins with a newline. -/
theorem lines_newline_cons (t : Text) : lines ('\n' :: t) = [] :: lines t := by
  unfold lines
  rw [← List.nil_append ('\n' :: t),
    List.splitOn_append_cons_self_of_not_mem (List.not_mem_nil) t]
  obtain ⟨first, rest, hsplit⟩ := List.exists_cons_of_ne_nil (List.splitOn_ne_nil '\n' t)
  rw [hsplit]
  rfl

theorem lines_line {l : Text} (h : IsLine l) : lines l = [l] := by
  unfold lines
  rw [List.splitOn_eq_singleton h.noNewline]
  simp [h.ne_nil]

theorem joinLines_cons_cons (l l' : Text) (ls : List Text) :
    joinLines (l :: l' :: ls) = l ++ '\n' :: joinLines (l' :: ls) :=
  intercalate_cons_cons ..

/-- Joined lines are cut into these lines again. -/
theorem lines_joinLines {ls : List Text} (h : ∀ l ∈ ls, IsLine l) : lines (joinLines ls) = ls := by
  induction ls with
  | nil => rfl
  | cons l ls ih =>
    obtain ⟨hl, hls⟩ := List.forall_mem_cons.1 h
    cases ls with
    | nil => simpa [joinLines] using lines_line hl
    | cons l' ls =>
      rw [joinLines_cons_cons, lines_line_append hl, ih hls]

/-- Joined lines begin and end with no white space. -/
theorem isTrimmed_joinLines {ls : List Text} (hne : ls ≠ []) (h : ∀ l ∈ ls, IsLine l) :
    IsTrimmed (joinLines ls) :=
  isTrimmed_intercalate _ hne fun l hl => (h l hl).toIsTrimmed

/-- Words with a space between them are a line. -/
theorem isLine_words {ws : List Text} (hne : ws ≠ []) (h : ∀ w ∈ ws, IsWord w) :
    IsLine ([' '].intercalate ws) where
  toIsTrimmed := isTrimmed_intercalate _ hne fun w hw => (h w hw).isTrimmed
  noNewline := by
    intro hmem
    obtain hspace | ⟨w, hw, hmem⟩ := mem_intercalate hmem
    · cases hspace
    · exact (h w hw).isLine.noNewline hmem

/-- A line has characters of the text. -/
theorem mem_of_mem_lines {t l : Text} (h : l ∈ lines t) : ∀ c ∈ l, c ∈ t := by
  have hpiece : ∀ {w : Text}, w ∈ t.splitOn '\n' → ∀ c ∈ w, c ∈ t :=
    fun hw c hc => (mem_splitOnP hw c hc).1
  rcases List.mem_append.1 h with hmem | hmem
  · obtain ⟨w, hw, rfl⟩ := List.mem_map.1 hmem
    intro c hc
    refine hpiece (List.dropLast_subset _ hw) c ?_
    unfold stripCr at hc
    split at hc
    · exact List.dropLast_subset _ hc
    · exact hc
  · rw [Option.mem_toList, Option.filter_eq_some_iff] at hmem
    exact hpiece (List.mem_of_getLast? hmem.1)

theorem trim_stripCr (l : Text) : trim (stripCr l) = trim l := by
  unfold stripCr
  split
  · rename_i hcr
    obtain ⟨init, rfl⟩ := List.getLast?_eq_some_iff.1 hcr
    rw [List.dropLast_concat, trim_concat init rfl]
  · rfl

/-- The text after the last newline. -/
def lastLine (t : Text) : Text := t.rtakeWhile (· ≠ '\n')

/-- A text is its last line, or has it behind a newline. -/
theorem eq_lastLine_or (t : Text) :
    '\n' ∉ lastLine t ∧ (t = lastLine t ∨ ∃ body, t = body ++ '\n' :: lastLine t) := by
  unfold lastLine
  induction t using List.reverseRecOn with
  | nil => exact ⟨nofun, .inl rfl⟩
  | append_singleton t c ih =>
    by_cases hc : c = '\n'
    · rw [List.rtakeWhile_concat_neg _ _ _ (by simpa using hc), hc]
      exact ⟨nofun, .inr ⟨t, rfl⟩⟩
    · rw [List.rtakeWhile_concat_pos _ _ _ (by simpa using hc)]
      obtain ⟨hnew, heq⟩ := ih
      refine ⟨?_, heq.imp (fun h => by rw [← h]) ?_⟩
      · simpa [Ne.symm hc] using hnew
      · rintro ⟨body, hbody⟩
        refine ⟨body, ?_⟩
        rw [← List.cons_append, ← List.append_assoc, ← hbody]

/-- The lines of a blank text are blank. -/
theorem isBlank_joinLines_lines {t : Text} (h : IsBlank t) : IsBlank (joinLines (lines t)) := by
  intro c hc
  obtain rfl | ⟨l, hl, hc⟩ := mem_intercalate hc
  · rfl
  · exact h c (mem_of_mem_lines hl c hc)

/-! ## The first occurrence -/

/-- `split_once`: what stands before the first occurrence of `sep`, and what stands after it. -/
def splitOnce (sep : Text) : Text → Option (Text × Text)
  | [] => if sep = [] then some ([], []) else none
  | c :: rest =>
    if sep.isPrefixOf (c :: rest) then some ([], (c :: rest).drop sep.length)
    else (splitOnce sep rest).map fun p => (c :: p.1, p.2)

/-- `splitn(3, sep)`, when that gives three parts. -/
def splitn3 (sep t : Text) : Option (Text × Text × Text) := do
  let (a, rest) ← splitOnce sep t
  let (b, c) ← splitOnce sep rest
  some (a, b, c)

/-- A text that lacks one of the first two characters of the separator ends where the separator
begins. -/
theorem splitOnce_append {x y : Char} (hxy : x ≠ y) (s a rest : Text) (h : x ∉ a ∨ y ∉ a) :
    splitOnce (x :: y :: s) (a ++ x :: y :: s ++ rest) = some (a, rest) := by
  induction a with
  | nil => simp [splitOnce]
  | cons c a ih =>
    have hrest : x ∉ a ∨ y ∉ a :=
      h.imp (fun h hx => h (List.mem_cons_of_mem _ hx)) fun h hy => h (List.mem_cons_of_mem _ hy)
    have hstarts : ¬ (x :: y :: s) <+: (c :: (a ++ x :: y :: s ++ rest)) := by
      rw [List.cons_prefix_cons]
      rintro ⟨rfl, hp⟩
      cases a with
      | nil =>
        rw [List.nil_append, List.cons_append, List.cons_prefix_cons] at hp
        exact hxy hp.1.symm
      | cons d a =>
        rw [List.cons_append, List.cons_append, List.cons_prefix_cons] at hp
        obtain rfl := hp.1
        rcases h with h | h
        · exact h List.mem_cons_self
        · exact h (List.mem_cons_of_mem _ List.mem_cons_self)
    rw [List.cons_append, List.cons_append, splitOnce, if_neg (by simpa using hstarts), ih hrest]
    rfl

/-! ## Paragraphs -/

/-- `split("\n\n")`: the pairs of newlines are taken from the left. -/
def paragraphs : Text → List Text
  | [] => [[]]
  | '\n' :: '\n' :: rest => [] :: paragraphs rest
  | c :: rest => (paragraphs rest).modifyHead (c :: ·)

/-- The text begins with a newline. -/
def StartsWithNewline (t : Text) : Prop := t.head? = some '\n'

/-- The text ends with a newline. -/
def EndsWithNewline (t : Text) : Prop := t.getLast? = some '\n'

theorem paragraphs_newline_newline (t : Text) :
    paragraphs ('\n' :: '\n' :: t) = [] :: paragraphs t := rfl

/-- A character that begins no pair. -/
theorem paragraphs_cons {c : Char} {t : Text} (h : c = '\n' → ¬ StartsWithNewline t) :
    paragraphs (c :: t) = (paragraphs t).modifyHead (c :: ·) := by
  rw [paragraphs]
  rintro rest rfl rfl
  exact h rfl rfl

theorem paragraphs_ne_nil (t : Text) : paragraphs t ≠ [] := by
  fun_induction paragraphs t with
  | case1 => simp
  | case2 => simp
  | case3 c rest _ ih => simpa using ih

/-- The paragraphs of a text, with the last one apart. -/
theorem exists_paragraphs (t : Text) : ∃ closed opened, paragraphs t = closed ++ [opened] :=
  ⟨_, _, (List.dropLast_append_getLast (paragraphs_ne_nil t)).symm⟩

theorem IsTrimmed.not_startsWithNewline {t : Text} (h : IsTrimmed t) : ¬ StartsWithNewline t := by
  intro hnewline
  unfold StartsWithNewline at hnewline
  rw [List.head?_eq_some_head h.ne_nil] at hnewline
  have hhead := h.head
  rw [Option.some.inj hnewline] at hhead
  cases hhead

theorem IsTrimmed.not_endsWithNewline {t : Text} (h : IsTrimmed t) : ¬ EndsWithNewline t := by
  intro hnewline
  unfold EndsWithNewline at hnewline
  rw [List.getLast?_eq_some_getLast h.ne_nil] at hnewline
  have hlast := h.last
  rw [Option.some.inj hnewline] at hlast
  cases hlast

theorem EndsWithNewline.cons {t : Text} (h : EndsWithNewline t) (c : Char) :
    EndsWithNewline (c :: t) := by
  cases t with
  | nil => cases h
  | cons d t => simpa [EndsWithNewline] using h

/-- The last paragraph of a text goes on where the next text begins, if no pair begins in the one
and ends in the other. -/
theorem paragraphs_append {t : Text} {closed : List Text} {opened : Text}
    (ht : paragraphs t = closed ++ [opened]) (rest : Text)
    (h : EndsWithNewline t → ¬ StartsWithNewline rest) :
    paragraphs (t ++ rest) = closed ++ (paragraphs rest).modifyHead (opened ++ ·) := by
  fun_induction paragraphs t generalizing closed opened with
  | case1 =>
    obtain ⟨rfl, rfl⟩ : closed = [] ∧ opened = [] := by
      cases closed <;> simp_all
    cases hrest : paragraphs rest <;> simp [hrest]
  | case2 t ih =>
    have hends : EndsWithNewline t → ¬ StartsWithNewline rest := fun ht => h ((ht.cons _).cons _)
    obtain ⟨closed', opened', ht'⟩ := exists_paragraphs t
    rw [List.cons_append, List.cons_append, paragraphs_newline_newline, ih ht' hends]
    rw [ht', ← List.cons_append] at ht
    obtain ⟨rfl, hopened⟩ := List.append_inj' ht rfl
    obtain rfl := List.singleton_inj.1 hopened
    rfl
  | case3 c t hpair ih =>
    have hends : EndsWithNewline t → ¬ StartsWithNewline rest := fun ht => h (ht.cons _)
    have hstart : c = '\n' → ¬ StartsWithNewline (t ++ rest) := by
      rintro rfl
      cases t with
      | nil => exact h rfl
      | cons d t =>
        intro hd
        obtain rfl := Option.some.inj hd
        exact hpair t rfl rfl
    obtain ⟨closed', opened', ht'⟩ := exists_paragraphs t
    rw [List.cons_append, paragraphs_cons hstart, ih ht' hends]
    rw [ht'] at ht
    cases closed' with
    | nil =>
      have heq : [] ++ [c :: opened'] = closed ++ [opened] := ht
      obtain ⟨rfl, hopened⟩ := List.append_inj' heq rfl
      obtain rfl := List.singleton_inj.1 hopened
      cases paragraphs rest <;> rfl
    | cons p ps =>
      have heq : ((c :: p) :: ps) ++ [opened'] = closed ++ [opened] := ht
      obtain ⟨rfl, hopened⟩ := List.append_inj' heq rfl
      obtain rfl := List.singleton_inj.1 hopened
      rfl

/-- A text that begins with no newline after one that is all one paragraph. -/
theorem paragraphs_of_noNewline {t : Text} (h : '\n' ∉ t) : paragraphs t = [t] := by
  induction t with
  | nil => rfl
  | cons c t ih =>
    rw [paragraphs_cons fun hc => absurd (hc ▸ List.mem_cons_self) h,
      ih fun ht => h (List.mem_cons_of_mem _ ht)]
    rfl

/-- Lines are one paragraph. -/
theorem paragraphs_joinLines {ls : List Text} (hne : ls ≠ []) (h : ∀ l ∈ ls, IsLine l) :
    paragraphs (joinLines ls) = [joinLines ls] := by
  induction ls with
  | nil => exact absurd rfl hne
  | cons l ls ih =>
    obtain ⟨hl, hls⟩ := List.forall_mem_cons.1 h
    have hline : paragraphs l = [] ++ [l] := paragraphs_of_noNewline hl.noNewline
    cases ls with
    | nil => simpa [joinLines] using hline
    | cons l' ls =>
      have htrimmed := isTrimmed_joinLines (List.cons_ne_nil l' ls) hls
      have hends : EndsWithNewline l → ¬ StartsWithNewline ('\n' :: joinLines (l' :: ls)) :=
        fun hl' => absurd hl' hl.not_endsWithNewline
      rw [joinLines_cons_cons, paragraphs_append hline _ hends,
        paragraphs_cons fun _ => htrimmed.not_startsWithNewline, ih (List.cons_ne_nil _ _) hls]
      rfl

/-- A run of newlines. -/
theorem paragraphs_replicate (n : Nat) :
    paragraphs (List.replicate n '\n') =
      List.replicate (n / 2) [] ++ [List.replicate (n % 2) '\n'] := by
  induction n using Nat.twoStepInduction with
  | zero => rfl
  | one => rfl
  | more n ih _ =>
    have hdiv : (n + 2) / 2 = n / 2 + 1 := by omega
    have hmod : (n + 2) % 2 = n % 2 := by omega
    rw [List.replicate_succ, List.replicate_succ, paragraphs_newline_newline, ih, hdiv, hmod,
      List.replicate_succ, List.cons_append]

/-- A text and a run of at least two newlines: the run ends the text's last paragraph, and leaves a
newline if it is odd. -/
theorem paragraphs_append_newlines {t : Text} (h : ¬ EndsWithNewline t) (n : Nat) :
    paragraphs (t ++ List.replicate (n + 2) '\n') =
      paragraphs t ++ List.replicate (n / 2) [] ++ [List.replicate (n % 2) '\n'] := by
  obtain ⟨closed, opened, ht⟩ := exists_paragraphs t
  have hdiv : (n + 2) / 2 = n / 2 + 1 := by omega
  have hmod : (n + 2) % 2 = n % 2 := by omega
  rw [paragraphs_append ht _ fun hends => absurd hends h, paragraphs_replicate, hdiv, hmod, ht,
    List.replicate_succ]
  simp

/-- The first paragraph is how the text begins. -/
theorem isPrefix_of_paragraphs_cons {t p : Text} {ps : List Text} (h : paragraphs t = p :: ps) :
    p <+: t := by
  fun_induction paragraphs t generalizing p ps with
  | case1 =>
    obtain ⟨rfl, -⟩ := List.cons.inj h
    exact List.nil_prefix
  | case2 t ih =>
    obtain ⟨rfl, -⟩ := List.cons.inj h
    exact List.nil_prefix
  | case3 c t _ ih =>
    obtain ⟨first, rest, hsplit⟩ := List.exists_cons_of_ne_nil (paragraphs_ne_nil t)
    rw [hsplit] at h
    obtain ⟨rfl, -⟩ := List.cons.inj h
    exact (List.prefix_cons_inj c).2 (ih hsplit)

/-- A paragraph has characters of the text. -/
theorem mem_of_mem_paragraphs {t p : Text} (h : p ∈ paragraphs t) : ∀ c ∈ p, c ∈ t := by
  fun_induction paragraphs t generalizing p with
  | case1 =>
    obtain rfl := List.mem_singleton.1 h
    exact nofun
  | case2 t ih =>
    rcases List.mem_cons.1 h with rfl | h
    · exact nofun
    · exact fun c hc => List.mem_cons_of_mem _ (List.mem_cons_of_mem _ (ih h c hc))
  | case3 d t _ ih =>
    obtain ⟨first, rest, hsplit⟩ := List.exists_cons_of_ne_nil (paragraphs_ne_nil t)
    rw [hsplit] at h ih
    rcases List.mem_cons.1 h with rfl | h
    · intro c hc
      rcases List.mem_cons.1 hc with rfl | hc
      · exact List.mem_cons_self
      · exact List.mem_cons_of_mem _ (ih List.mem_cons_self c hc)
    · exact fun c hc => List.mem_cons_of_mem _ (ih (List.mem_cons_of_mem _ h) c hc)

/-- How many newlines a text ends with. -/
def trailingNewlines (t : Text) : Nat := (t.rtakeWhile (· = '\n')).length

/-- The newlines at the end of a text, and what stands before them. -/
theorem exists_trailingNewlines (t : Text) :
    ∃ v, t = v ++ List.replicate (trailingNewlines t) '\n' ∧ ¬ EndsWithNewline v := by
  have hrun : t.rtakeWhile (· = '\n') = List.replicate (trailingNewlines t) '\n' := by
    refine List.eq_replicate_of_mem fun c hc => ?_
    simpa using List.mem_rtakeWhile_imp hc
  refine ⟨t.rdropWhile (· = '\n'), ?_, ?_⟩
  · rw [← hrun]
    exact List.rdropWhile_append_rtakeWhile.symm
  · intro hends
    have hne : t.rdropWhile (· = '\n') ≠ [] := by
      intro hnil
      rw [hnil] at hends
      cases hends
    have hlast := List.rdropWhile_last_not _ _ hne
    unfold EndsWithNewline at hends
    rw [List.getLast?_eq_some_getLast hne] at hends
    exact hlast (by simpa using Option.some.inj hends)

/-- The pieces of a line with a blank text below it and an empty line. A newline is left when the
newlines at the end are odd in number. -/
theorem paragraphs_line_blank {l t : Text} (hl : IsLine l) (ht : IsBlank t) :
    ∃ first blanks rest,
      paragraphs (l ++ '\n' :: t ++ ['\n', '\n']) =
        first :: blanks ++ [List.replicate (trailingNewlines ('\n' :: t) % 2) '\n'] ∧
      l <+: first ∧ (∀ b ∈ blanks, IsBlank b) ∧ lines first = l :: rest ∧
      IsBlank (joinLines rest) := by
  obtain ⟨v, hv, hends⟩ := exists_trailingNewlines ('\n' :: t)
  generalize trailingNewlines ('\n' :: t) = k at hv ⊢
  have hvt : v <+: '\n' :: t := ⟨_, hv.symm⟩
  have hvblank : IsBlank v := by
    intro c hc
    rcases List.mem_cons.1 (hvt.mem hc) with rfl | hc
    · rfl
    · exact ht c hc
  obtain ⟨q, blanks, hpieces⟩ := List.exists_cons_of_ne_nil (paragraphs_ne_nil v)
  have hblanks : ∀ b ∈ q :: blanks, IsBlank b := by
    intro b hb c hc
    rw [← hpieces] at hb
    exact hvblank c (mem_of_mem_paragraphs hb c hc)
  have hline : paragraphs l = [] ++ [l] := paragraphs_of_noNewline hl.noNewline
  have hfront : paragraphs (l ++ v) = (l ++ q) :: blanks := by
    rw [paragraphs_append hline v fun hends => absurd hends hl.not_endsWithNewline, hpieces]
    rfl
  have hfrontEnds : ¬ EndsWithNewline (l ++ v) := by
    unfold EndsWithNewline at hends ⊢
    rw [List.getLast?_append]
    cases hlast : v.getLast? with
    | none => simpa [EndsWithNewline, hlast] using hl.not_endsWithNewline
    | some c => simpa [hlast] using hends
  have htext : l ++ '\n' :: t ++ ['\n', '\n'] = l ++ v ++ List.replicate (k + 2) '\n' := by
    rw [hv, List.replicate_add]
    simp
  refine ⟨l ++ q, blanks ++ List.replicate (k / 2) [], lines (q.drop 1), ?_,
    List.prefix_append _ _, ?_, ?_, ?_⟩
  · rw [htext, paragraphs_append_newlines hfrontEnds, hfront]
    simp
  · intro b hb
    rcases List.mem_append.1 hb with hb | hb
    · exact hblanks b (List.mem_cons_of_mem _ hb)
    · rw [List.eq_of_mem_replicate hb]
      exact nofun
  · -- the first piece goes on with a newline, if it goes on
    have hq : q <+: '\n' :: t := (isPrefix_of_paragraphs_cons hpieces).trans hvt
    obtain rfl | ⟨q', rfl, -⟩ := List.prefix_cons_iff.1 hq
    · rw [List.append_nil, lines_line hl]
      rfl
    · rw [lines_line_append hl]
      rfl
  · refine isBlank_joinLines_lines fun c hc => ?_
    exact hblanks q List.mem_cons_self c (List.drop_subset _ _ hc)

end Text
