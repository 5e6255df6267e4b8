import Mathlib.Data.List.Forall2
import Mathlib.Data.List.ReduceOption
import Mostrix.Chat.TranscriptText
import Mathlib.Tactic.Tauto

/-!
# Reading a transcript back

What `ui/helpers/chat_storage.rs` reads back from a transcript to which messages were saved one by
one. A body of words is written as lines without white space at their ends, so it holds no empty
line and no content forges a header. A blank body is written as it is. Together with the empty line
behind it there are then newlines of which pairs are cut off from the left, and when their number is
odd the last of them stays in front of the next block's header: `swallowsNext`. That block is not
read.

`TranscriptHolds` is what a file holds, and `transcript_roundTrip_iff` says which sequences of
messages are read back as they were saved.
-/

namespace Mostrix.Chat

open Text

section
variable {σ : Type} (formats : Formats) (labels : SenderLabels σ)

/-! ## The header -/

/-- The date and the time that a header shows. -/
theorem exists_header (m : ChatMessage σ) : ∃ date time, IsWord date ∧ IsWord time ∧
    transcriptHeader formats labels m =
      labels.label m.sender ++ " - ".toList ++ (date ++ " - ".toList ++ time) ∧
    formats.clock.parse date time =
      if (formats.clock.format m.timestamp).isSome then some m.timestamp else none := by
  unfold transcriptHeader
  cases hformat : formats.clock.format m.timestamp with
  | none =>
    refine ⟨_, _, ?_, ?_, rfl, formats.clock.parse_unknown⟩
    · exact isWord_of_all (List.cons_ne_nil _ _) rfl
    · exact isWord_of_all (List.cons_ne_nil _ _) rfl
  | some dt =>
    obtain ⟨date, time⟩ := dt
    obtain ⟨hdate, htime⟩ := formats.clock.format_isWord hformat
    exact ⟨date, time, hdate, htime, rfl, formats.clock.parse_format hformat⟩

theorem transcriptHeader_isLine (m : ChatMessage σ) :
    IsLine (transcriptHeader formats labels m) := by
  obtain ⟨date, time, hdate, htime, hheader, -⟩ := exists_header formats labels m
  rw [hheader]
  have hdash : '\n' ∉ " - ".toList := by decide
  exact (labels.label_isLine m.sender).append_append
    (hdate.isLine.append_append htime.isLine hdash) hdash

/-- What a block is read as when its time is known. -/
def messageBlock (m : ChatMessage σ) : MessageBlock σ :=
  ⟨labels.canonical m.sender, m.timestamp, trim (transcriptBody formats m)⟩

/-- What a block is read as. -/
def storedBlock (m : ChatMessage σ) : Option (MessageBlock σ) :=
  if (formats.clock.format m.timestamp).isSome then some (messageBlock formats labels m) else none

/-- A block that begins with a message's header is of its sender and time. -/
theorem parseOneMessageBlock_of_lines {m : ChatMessage σ} {block : Text} {rest : List Text}
    (h : lines block = transcriptHeader formats labels m :: rest)
    (hbody : trim (joinLines rest) = trim (transcriptBody formats m)) :
    parseOneMessageBlock formats labels block = storedBlock formats labels m := by
  obtain ⟨date, time, hdate, htime, hheader, hparse⟩ := exists_header formats labels m
  have hsep : ' ' ≠ '-' := by decide
  have hspace : ' ' ∉ date := fun hmem => Bool.noConfusion (hdate.noSpace _ hmem)
  have hfirst : splitOnce " - ".toList (transcriptHeader formats labels m) =
      some (labels.label m.sender, date ++ " - ".toList ++ time) := by
    rw [hheader]
    exact splitOnce_append hsep [' '] _ _ (.inr (labels.label_noDash m.sender))
  have hsecond : splitOnce " - ".toList (date ++ " - ".toList ++ time) = some (date, time) :=
    splitOnce_append hsep [' '] _ _ (.inl hspace)
  have hparts : splitn3 " - ".toList (transcriptHeader formats labels m) =
      some (labels.label m.sender, date, time) := by
    unfold splitn3
    rw [hfirst]
    dsimp only [Option.bind_eq_bind, Option.bind_some]
    rw [hsecond]
    rfl
  unfold parseOneMessageBlock storedBlock messageBlock
  rw [h]
  dsimp only
  rw [hparts]
  dsimp only [Option.bind_eq_bind, Option.bind_some]
  rw [(labels.label_isLine m.sender).trim_eq, labels.ofLabel_label, hdate.isTrimmed.trim_eq,
    htime.isTrimmed.trim_eq]
  dsimp only [Option.bind_some]
  rw [hparse, hbody]
  split <;> rfl

/-- A newline in front of a block hides its header. -/
theorem parseOneMessageBlock_newline_cons (block : Text) :
    parseOneMessageBlock formats labels ('\n' :: block) = none := by
  unfold parseOneMessageBlock
  rw [lines_newline_cons]
  rfl

/-! ## The pieces of a block -/

/-- A message whose block leaves a newline in front of the next one: it is blank, and the newlines
at the end of its block are odd in number. -/
def swallowsNext (m : ChatMessage σ) : Bool :=
  m.attachment.isNone ∧ trim m.content = [] ∧
    trailingNewlines ('\n' :: m.content) % 2 = 1

/-- The newline that is left in front of a block. -/
def carry (carried : Bool) : Text := if carried then ['\n'] else []

theorem isBlank_carry (carried : Bool) : IsBlank (carry carried) := by
  cases carried <;> simp [carry, IsBlank, isWhitespace]

theorem replicate_mod_two (k : Nat) : List.replicate (k % 2) '\n' = carry (k % 2 = 1) := by
  obtain h | h := Nat.mod_two_eq_zero_or_one k <;> rw [h] <;> rfl

/-- A body is a list of lines, or blank and the content itself. -/
theorem transcriptBody_cases (m : ChatMessage σ) :
    (∃ ls, ls ≠ [] ∧ (∀ l ∈ ls, IsLine l) ∧ transcriptBody formats m = joinLines ls ∧
      swallowsNext m = false) ∨
    (m.attachment = none ∧ IsBlank m.content ∧ transcriptBody formats m = m.content) := by
  unfold transcriptBody swallowsNext
  cases m.attachment with
  | some a =>
    refine .inl ⟨[serializeAttachmentForTranscript formats.encodings a], List.cons_ne_nil _ _, ?_,
      ?_, rfl⟩
    · intro l hl
      rw [List.mem_singleton.1 hl]
      exact serializeAttachmentForTranscript_isLine formats.encodings a
    · simp [joinLines]
  | none =>
    by_cases hblank : IsBlank m.content
    · refine .inr ⟨rfl, hblank, ?_⟩
      dsimp only
      rw [wrapTextToLines_of_isBlank hblank]
      simp [joinLines]
    · obtain ⟨ls, hwrap, hne, hlines, -⟩ :=
        wrapped_words formats.width 80 (by decide) hblank
      refine .inl ⟨ls, hne, hlines, ?_, ?_⟩
      · dsimp only
        rw [hwrap]
      · simp [trim_eq_nil_iff, hblank]

/-- The pieces of a block: the first is read as the message, and behind the blank ones a newline may
be left. -/
theorem paragraphs_formatTranscriptBlock (m : ChatMessage σ) : ∃ first blanks,
    paragraphs (formatTranscriptBlock formats labels m) =
      first :: blanks ++ [carry (swallowsNext m)] ∧
    transcriptHeader formats labels m <+: first ∧ (∀ b ∈ blanks, IsBlank b) ∧
    parseOneMessageBlock formats labels first = storedBlock formats labels m := by
  have hheader := transcriptHeader_isLine formats labels m
  unfold formatTranscriptBlock
  obtain ⟨ls, hne, hlines, hbody, hswallows⟩ | ⟨hattachment, hblank, hbody⟩ :=
    transcriptBody_cases formats m
  · -- lines: the header and the body are one piece
    have hall : ∀ l ∈ transcriptHeader formats labels m :: ls, IsLine l :=
      List.forall_mem_cons.2 ⟨hheader, hlines⟩
    have hpiece : transcriptHeader formats labels m ++ '\n' :: joinLines ls =
        joinLines (transcriptHeader formats labels m :: ls) := by
      obtain ⟨l, ls, rfl⟩ := List.exists_cons_of_ne_nil hne
      rw [joinLines_cons_cons]
    have htrimmed := isTrimmed_joinLines (List.cons_ne_nil _ _) hall
    refine ⟨joinLines (transcriptHeader formats labels m :: ls), [], ?_, ?_, nofun, ?_⟩
    · rw [hbody, hpiece, hswallows]
      have hnewlines := paragraphs_append_newlines htrimmed.not_endsWithNewline 0
      rw [paragraphs_joinLines (List.cons_ne_nil _ _) hall] at hnewlines
      exact hnewlines
    · rw [← hpiece]
      exact List.prefix_append _ _
    · exact parseOneMessageBlock_of_lines formats labels (lines_joinLines hall) (by rw [hbody])
  · -- a blank body
    obtain ⟨first, blanks, rest, hpieces, hfront, hblanks, hlines, hrest⟩ :=
      paragraphs_line_blank hheader hblank
    refine ⟨first, blanks, ?_, hfront, hblanks, ?_⟩
    · rw [hbody, hpieces, replicate_mod_two, swallowsNext]
      simp [hattachment, trim_eq_nil_iff.2 hblank]
    · refine parseOneMessageBlock_of_lines formats labels hlines ?_
      rw [hbody, trim_eq_nil_iff.2 hblank, trim_eq_nil_iff.2 hrest]

/-! ## What a file holds -/

/-- The file is cut into pieces, of which those that are not blank are read as `blocks`; the last
piece is empty, or the newline that swallows the next block. -/
def TranscriptHolds (file : Option Text) (blocks : List (Option (MessageBlock σ)))
    (carried : Bool) : Prop :=
  ∃ pieces, paragraphs (file.getD []) = pieces ++ [carry carried] ∧
    (pieces.filter fun s => trim s ≠ []).map (parseOneMessageBlock formats labels) = blocks

theorem transcriptHolds_none : TranscriptHolds formats labels none [] false := ⟨[], rfl, rfl⟩

theorem filter_blanks {pieces : List Text} (h : ∀ b ∈ pieces, IsBlank b) :
    pieces.filter (fun s => trim s ≠ []) = [] :=
  List.filter_eq_nil_iff.2 fun b hb => by simpa using trim_eq_nil_iff.2 (h b hb)

section
variable {formats : Formats} {labels : SenderLabels σ} {file : Option Text}
  {blocks : List (Option (MessageBlock σ))} {carried : Bool}

/-- The blocks of a file. -/
theorem TranscriptHolds.blocks_eq (h : TranscriptHolds formats labels file blocks carried) :
    (transcriptBlocks (file.getD [])).map (parseOneMessageBlock formats labels) = blocks := by
  obtain ⟨pieces, hpieces, hblocks⟩ := h
  have hlast : [carry carried].filter (fun s => trim s ≠ []) = [] :=
    filter_blanks fun b hb => List.mem_singleton.1 hb ▸ isBlank_carry carried
  unfold transcriptBlocks
  rw [hpieces, List.filter_append, hlast, List.append_nil, hblocks]

/-- A block at the end of a file. -/
theorem TranscriptHolds.append (h : TranscriptHolds formats labels file blocks carried)
    (m : ChatMessage σ) :
    TranscriptHolds formats labels (some (file.getD [] ++ formatTranscriptBlock formats labels m))
      (blocks ++ [if carried then none else storedBlock formats labels m]) (swallowsNext m) := by
  obtain ⟨pieces, hpieces, hblocks⟩ := h
  obtain ⟨first, blanks, hblock, ⟨more, rfl⟩, hblanks, hfirst⟩ :=
    paragraphs_formatTranscriptBlock formats labels m
  have hheader := (transcriptHeader_isLine formats labels m).toIsTrimmed
  have hstart : ¬ StartsWithNewline (formatTranscriptBlock formats labels m) := by
    have hnewline := hheader.not_startsWithNewline
    unfold StartsWithNewline at hnewline ⊢
    unfold formatTranscriptBlock
    rwa [List.append_assoc, List.head?_append_of_ne_nil _ hheader.ne_nil]
  refine ⟨pieces ++ (carry carried ++ (transcriptHeader formats labels m ++ more)) :: blanks,
    ?_, ?_⟩
  · rw [Option.getD_some, paragraphs_append hpieces _ fun _ => hstart, hblock]
    simp
  · have hkept : trim (carry carried ++ (transcriptHeader formats labels m ++ more)) ≠ [] := by
      intro hnil
      rw [trim_eq_nil_iff] at hnil
      refine hheader.not_isBlank fun c hc => hnil c ?_
      exact List.mem_append_right _ (List.mem_append_left _ hc)
    have hread : parseOneMessageBlock formats labels
        (carry carried ++ (transcriptHeader formats labels m ++ more)) =
        if carried then none else storedBlock formats labels m := by
      cases carried with
      | false => exact hfirst
      | true => exact parseOneMessageBlock_newline_cons formats labels _
    rw [List.filter_append, List.filter_cons_of_pos (by simpa using hkept), filter_blanks hblanks,
      List.map_append, hblocks, List.map_cons, hread]
    rfl

/-- What is loaded from a file. -/
theorem TranscriptHolds.load (h : TranscriptHolds formats labels file blocks carried) :
    (loadChatFromFile formats labels file).getD [] =
      blocks.reduceOption.map (MessageBlock.message formats) := by
  have hblocks := h.blocks_eq
  unfold loadChatFromFile
  cases file with
  | none =>
    obtain rfl : [] = blocks := hblocks
    rfl
  | some content =>
    have hread : (transcriptBlocks content).filterMap (fun block =>
        (parseOneMessageBlock formats labels block).map (MessageBlock.message formats)) =
        blocks.reduceOption.map (MessageBlock.message formats) := by
      rw [← hblocks, List.reduceOption, List.map_filterMap, List.filterMap_map]
      rfl
    dsimp only [Option.bind_eq_bind, Option.bind_some]
    rw [hread]
    split
    · rename_i hempty
      rw [List.isEmpty_iff.1 hempty]
      rfl
    · rfl

/-- The last block of a file, as saving reads it. -/
theorem TranscriptHolds.last (h : TranscriptHolds formats labels file blocks carried) :
    (do
      let existing ← file
      let lastBlock ← (transcriptBlocks existing).getLast?
      parseOneMessageBlock formats labels lastBlock) = blocks.getLast?.join := by
  have hblocks := h.blocks_eq
  cases file with
  | none =>
    obtain rfl : [] = blocks := hblocks
    rfl
  | some content =>
    rw [← hblocks, List.getLast?_map]
    dsimp only [Option.bind_eq_bind, Option.bind_some, Option.getD_some]
    cases (transcriptBlocks content).getLast? <;> rfl

end

/-! ## The content of a message -/

/-- A message that is read back: the same sender, the same time, and the same words. The party of an
admin's message belongs to its sender, and to no other sender's. -/
structure IsReadBack (m loaded : ChatMessage σ) : Prop where
  sender : loaded.sender = labels.canonical m.sender
  timestamp : loaded.timestamp = m.timestamp
  content : words loaded.content = words m.content

/-- The body has the words of the content: no word of a text is put right behind another one, and an
attachment has its JSON for its content. -/
def BodyKept (m : ChatMessage σ) : Prop :=
  match m.attachment with
  | some a => words (serializeAttachmentForTranscript formats.encodings a) = words m.content
  | none => mergedWords formats.width 80 false 0 (words m.content) = 0

/-- The content is kept: a body that is read as an attachment is shown with the words of the
content, and any other body has these words. -/
def ContentKept (m : ChatMessage σ) : Prop :=
  match tryParseAttachmentMessage formats.encodings (trim (transcriptBody formats m)) with
  | some (_, display) => words display = words m.content
  | none => BodyKept formats m

/-- A message with its time in the clock's range, and its content kept. -/
structure Storable (m : ChatMessage σ) : Prop where
  timestamp : (formats.clock.format m.timestamp).isSome = true
  content : ContentKept formats m

section
variable {formats labels}

theorem words_trim_transcriptBody (m : ChatMessage σ) :
    words (trim (transcriptBody formats m)) = words m.content ↔ BodyKept formats m := by
  unfold transcriptBody BodyKept
  cases m.attachment with
  | some a =>
    dsimp only
    rw [(serializeAttachmentForTranscript_isLine formats.encodings a).trim_eq]
  | none =>
    dsimp only
    by_cases hblank : IsBlank m.content
    · rw [wrapTextToLines_of_isBlank hblank, words_eq_nil_iff.2 hblank]
      simp [joinLines, trim_eq_nil_iff.2 hblank, words_nil, mergedWords]
    · obtain ⟨ls, hwrap, hne, hlines, hwords⟩ := wrapped_words formats.width 80 (by decide) hblank
      rw [hwrap, (isTrimmed_joinLines hne hlines).trim_eq, hwords]

variable (formats labels) in
/-- A block's content is shown with the words of the message. -/
theorem words_message_content (m : ChatMessage σ) :
    words (MessageBlock.message formats (messageBlock formats labels m)).content = words m.content ↔
      ContentKept formats m := by
  unfold MessageBlock.message messageFieldsFromTranscriptContent ContentKept messageBlock
  dsimp only
  cases tryParseAttachmentMessage formats.encodings (trim (transcriptBody formats m)) with
  | some parsed => rfl
  | none => exact words_trim_transcriptBody m

theorem isReadBack_messageBlock (m : ChatMessage σ) :
    IsReadBack labels m (MessageBlock.message formats (messageBlock formats labels m)) ↔
      ContentKept formats m := by
  rw [← words_message_content formats labels]
  exact ⟨fun h => h.content, fun h => ⟨rfl, rfl, h⟩⟩

end

/-! ## Saving and loading -/

section
variable [DecidableEq σ]

/-- The blocks read back of the messages that are saved to a file: `last` is what its last block is
read as, and `carried` whether the next block is swallowed. -/
def readBack : Option (MessageBlock σ) → Bool → List (ChatMessage σ) → List (MessageBlock σ)
  | _, _, [] => []
  | last, carried, m :: ms =>
    if last.any fun last => transcriptAlreadyHasMessage formats last m then readBack last carried ms
    else
      let stored := if carried then none else storedBlock formats labels m
      stored.toList ++ readBack stored (swallowsNext m) ms

variable {formats labels}

/-- Saving one message leaves it out, or appends its block. -/
theorem TranscriptHolds.saveChatMessage {file : Option Text}
    {blocks : List (Option (MessageBlock σ))} {carried : Bool}
    (h : TranscriptHolds formats labels file blocks carried) (m : ChatMessage σ) :
    Chat.saveChatMessage formats labels file m =
      if blocks.getLast?.join.any fun last => transcriptAlreadyHasMessage formats last m then file
      else some (file.getD [] ++ formatTranscriptBlock formats labels m) := by
  unfold Chat.saveChatMessage
  rw [h.last]

/-- The messages that are loaded after others were saved. -/
theorem TranscriptHolds.load_foldl {file : Option Text} {blocks : List (Option (MessageBlock σ))}
    {carried : Bool} (h : TranscriptHolds formats labels file blocks carried)
    (ms : List (ChatMessage σ)) :
    (loadChatFromFile formats labels
      (ms.foldl (Chat.saveChatMessage formats labels) file)).getD [] =
      (blocks.reduceOption ++ readBack formats labels blocks.getLast?.join carried ms).map
        (MessageBlock.message formats) := by
  induction ms generalizing file blocks carried with
  | nil =>
    rw [readBack, List.append_nil]
    exact h.load
  | cons m ms ih =>
    rw [List.foldl_cons, h.saveChatMessage, readBack]
    split
    · exact ih h
    · rw [ih (h.append m), List.getLast?_concat, List.reduceOption_append,
        List.reduceOption_singleton, List.append_assoc]
      rfl

variable (formats labels) in
/-- No more messages are read back than were saved. -/
theorem length_readBack_le (last : Option (MessageBlock σ)) (carried : Bool)
    (ms : List (ChatMessage σ)) : (readBack formats labels last carried ms).length ≤ ms.length := by
  induction ms generalizing last carried with
  | nil => exact Nat.le_refl 0
  | cons m ms ih =>
    rw [readBack, List.length_cons]
    split
    · exact Nat.le_succ_of_le (ih last carried)
    · dsimp only
      rw [List.length_append, Nat.add_comm]
      refine Nat.add_le_add (ih _ _) ?_
      cases (if carried then none else storedBlock formats labels m) <;> simp

/-! ## What is read back as it was saved -/

variable (formats labels) in
/-- A message that is saved behind another one: its block is not swallowed, and it is not taken for
the other. -/
structure KeptBehind (previous m : ChatMessage σ) : Prop where
  notSwallowed : swallowsNext previous = false
  notPresent : transcriptAlreadyHasMessage formats (messageBlock formats labels previous) m = false

/-- What is read back is too short when a message is left out. -/
theorem not_forall₂_of_short {R : ChatMessage σ → ChatMessage σ → Prop} {m : ChatMessage σ}
    {ms : List (ChatMessage σ)} (last : Option (MessageBlock σ)) (carried : Bool) :
    ¬ List.Forall₂ R (m :: ms)
      ((readBack formats labels last carried ms).map (MessageBlock.message formats)) := by
  intro h
  have hlength := h.length_eq
  have hle := length_readBack_le formats labels last carried ms
  rw [List.length_map, List.length_cons] at hlength
  omega

/-- The first message after what a file holds. -/
theorem forall₂_readBack_cons (last : Option (MessageBlock σ)) (carried : Bool) (m : ChatMessage σ)
    (ms : List (ChatMessage σ)) :
    List.Forall₂ (IsReadBack labels) (m :: ms)
      ((readBack formats labels last carried (m :: ms)).map (MessageBlock.message formats)) ↔
      (carried = false ∧ (∀ last' ∈ last, transcriptAlreadyHasMessage formats last' m = false)) ∧
        Storable formats m ∧
        List.Forall₂ (IsReadBack labels) ms
          ((readBack formats labels (some (messageBlock formats labels m)) (swallowsNext m) ms).map
            (MessageBlock.message formats)) := by
  rw [readBack]
  by_cases hpresent : last.any (fun last => transcriptAlreadyHasMessage formats last m) = true
  · obtain ⟨last', hlast', hsame⟩ := (Option.any_eq_true _ _).1 hpresent
    rw [if_pos hpresent]
    refine iff_of_false (not_forall₂_of_short last carried) fun h => ?_
    rw [h.1.2 last' hlast'] at hsame
    cases hsame
  have hfresh : ∀ last' ∈ last, transcriptAlreadyHasMessage formats last' m = false :=
    fun last' hlast' => eq_false_of_ne_true fun hsame =>
      hpresent ((Option.any_eq_true _ _).2 ⟨last', hlast', hsame⟩)
  rw [if_neg hpresent]
  cases carried with
  | true => exact iff_of_false (not_forall₂_of_short none (swallowsNext m)) fun h => nomatch h.1.1
  | false =>
    unfold storedBlock
    by_cases htime : (formats.clock.format m.timestamp).isSome = true
    · -- the block is read
      have hstorable : Storable formats m ↔ ContentKept formats m :=
        ⟨fun h => h.content, fun h => ⟨htime, h⟩⟩
      simp only [Bool.false_eq_true, if_false, if_pos htime, Option.toList_some,
        List.singleton_append, List.map_cons, List.forall₂_cons, isReadBack_messageBlock, hstorable,
        true_and]
      exact (and_iff_right hfresh).symm
    · simp only [Bool.false_eq_true, if_false, if_neg htime]
      refine iff_of_false (not_forall₂_of_short none (swallowsNext m)) fun h => ?_
      exact htime h.2.1.timestamp

/-- Messages after one whose block was appended. -/
theorem forall₂_readBack (previous : ChatMessage σ) (ms : List (ChatMessage σ)) :
    List.Forall₂ (IsReadBack labels) ms
      ((readBack formats labels (some (messageBlock formats labels previous))
        (swallowsNext previous) ms).map (MessageBlock.message formats)) ↔
      (∀ m ∈ ms, Storable formats m) ∧ (previous :: ms).IsChain (KeptBehind formats labels) := by
  induction ms generalizing previous with
  | nil => simp [readBack]
  | cons m ms ih =>
    rw [forall₂_readBack_cons, ih m, List.isChain_cons_cons, List.forall_mem_cons]
    have hbehind : KeptBehind formats labels previous m ↔ swallowsNext previous = false ∧
        ∀ last ∈ some (messageBlock formats labels previous),
          transcriptAlreadyHasMessage formats last m = false := by
      refine ⟨fun h => ⟨h.notSwallowed, ?_⟩, fun h => ⟨h.1, h.2 _ rfl⟩⟩
      rintro last ⟨⟩
      exact h.notPresent
    rw [hbehind]
    tauto

end

end

/-- **A transcript** reads the messages back that were saved to it one by one, with their senders,
times and words, exactly when the time of each is in the clock's range, the content of each is kept,
and no message's block is swallowed by the blank one before or taken for the block before. The
code's labels are `userLabels` and `disputeLabels`. -/
theorem transcript_roundTrip_iff {σ : Type} [DecidableEq σ] (formats : Formats)
    (labels : SenderLabels σ) (messages : List (ChatMessage σ)) :
    List.Forall₂ (IsReadBack labels) messages
      ((loadChatFromFile formats labels
        (messages.foldl (saveChatMessage formats labels) none)).getD []) ↔
      (∀ m ∈ messages, Storable formats m) ∧
        messages.IsChain (KeptBehind formats labels) := by
  rw [(transcriptHolds_none formats labels).load_foldl messages]
  cases messages with
  | nil => simp [readBack, List.reduceOption]
  | cons m ms =>
    rw [List.reduceOption_nil, List.nil_append, List.getLast?_nil, Option.join_none,
      forall₂_readBack_cons, forall₂_readBack, List.forall_mem_cons]
    simp [and_assoc]

/-- The first two seconds. -/
def twoSeconds : Clock where
  format ts :=
    if ts = 0 then some ("01-01-1970".toList, "00:00:00".toList)
    else if ts = 1 then some ("01-01-1970".toList, "00:00:01".toList)
    else none
  parse date time :=
    if date ≠ "01-01-1970".toList then none
    else if time = "00:00:00".toList then some 0
    else if time = "00:00:01".toList then some 1
    else none
  format_isWord := by
    intro ts date time h
    split_ifs at h
    all_goals
      cases h
      exact ⟨isWord_of_all (List.cons_ne_nil _ _) rfl, isWord_of_all (List.cons_ne_nil _ _) rfl⟩
  parse_format := by
    intro ts date time h
    split_ifs at h with hzero hone
    all_goals cases h
    · rw [hzero]
      rfl
    · rw [hone]
      rfl
  parse_unknown := rfl

/-- Formats for texts of one column per character, without attachments. -/
def plainFormats : Formats where
  width := List.length
  clock := twoSeconds
  encodings :=
    { objectToString := fun _ => "{}".toList
      objectFromStr := fun _ => none
      base64Encode := fun _ => []
      base64Decode := fun _ => none
      objectToString_isLine := fun _ =>
        isLine_of_checks (by decide) (by decide) (by decide) (by decide) }

/-- An empty message of the counterparty, and an answer. -/
def emptyAndAnswer : List (ChatMessage UserChatSender) :=
  [{ sender := .peer, content := [], timestamp := 0 },
    { sender := .you, content := "x".toList, timestamp := 1 }]

/-- The answer to an empty message is not read back. -/
theorem emptyMessage_swallows_answer :
    ¬ ∀ (formats : Formats) (messages : List (ChatMessage UserChatSender)),
      (messages.IsChain fun previous m => ¬ (previous.sender = m.sender ∧
        previous.timestamp = m.timestamp ∧
        transcriptBody formats previous = transcriptBody formats m)) →
      List.Forall₂ (IsReadBack userLabels) messages
        ((loadChatFromFile formats userLabels
          (messages.foldl (saveChatMessage formats userLabels) none)).getD []) := by
  intro h
  have hdistinct : emptyAndAnswer.IsChain fun previous m => ¬ (previous.sender = m.sender ∧
      previous.timestamp = m.timestamp ∧
      transcriptBody plainFormats previous = transcriptBody plainFormats m) := by
    refine List.isChain_cons_cons.2 ⟨?_, .singleton _⟩
    intro hsame
    cases hsame.1
  have hread := h plainFormats emptyAndAnswer hdistinct
  rw [(transcriptHolds_none plainFormats userLabels).load_foldl] at hread
  have hlength := hread.length_eq
  have hone : (readBack plainFormats userLabels none false emptyAndAnswer).length = 1 := by decide
  rw [List.length_map, List.reduceOption_nil, List.nil_append, List.getLast?_nil, Option.join_none,
    hone] at hlength
  cases hlength

end Mostrix.Chat
