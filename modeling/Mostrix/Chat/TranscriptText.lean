import Mostrix.Chat.Attachments
import Mostrix.Chat.Cursor
import Mostrix.Chat.Wrap

/-!
# The text of a transcript

`ui/helpers/chat_storage.rs`: a transcript is a text file to which every message is appended as a
block: a header line with the sender and the time, the message's body, and an empty line. Loading
cuts the file at empty lines and parses each piece as a block. Saving looks at the last block first
and leaves out a message that is there already.

The transcripts of an order and of a user's dispute have one set of sender labels, those of an
admin's dispute another; `SenderLabels` is what the two have in common. Writes are taken to succeed.
-/

namespace Mostrix.Chat

open Text

/-! ## The parts of a block -/

/-- The date and the time of a timestamp, as `chrono` writes them (`%d-%m-%Y`, `%H:%M:%S`) and reads
them back. A timestamp outside `chrono`'s range has none. -/
structure Clock where
  format : Int → Option (Text × Text)
  parse : Text → Text → Option Int
  format_isWord : ∀ {ts : Int} {date time : Text}, format ts = some (date, time) →
    IsWord date ∧ IsWord time
  parse_format : ∀ {ts : Int} {date time : Text}, format ts = some (date, time) →
    parse date time = some ts
  parse_unknown : parse "??-??-????".toList "??:??:??".toList = none

/-- What the transcripts' texts are made with. -/
structure Formats where
  /-- The display width of `unicode-width`. -/
  width : Text → Nat
  clock : Clock
  encodings : Encodings

/-- How senders are written, and what is read back for them. -/
structure SenderLabels (σ : Type) where
  label : σ → Text
  ofLabel : Text → Option σ
  canonical : σ → σ
  ofLabel_label : ∀ s, ofLabel (label s) = some (canonical s)
  label_isLine : ∀ s, IsLine (label s)
  label_noDash : ∀ s, '-' ∉ label s

/-- A text that is checked to be a word. -/
theorem isWord_of_all {t : Text} (hne : t ≠ []) (h : (t.all fun c => !isWhitespace c) = true) :
    IsWord t := by
  refine ⟨hne, fun c hc => ?_⟩
  simpa using List.all_eq_true.1 h c hc

/-- A text that is checked to be a line. -/
theorem isLine_of_checks {t : Text} (hne : t ≠ [])
    (hhead : (t.head hne).toNat > 32 ∧ (t.head hne).toNat < 128)
    (hlast : (t.getLast hne).toNat > 32 ∧ (t.getLast hne).toNat < 128) (hnewline : '\n' ∉ t) :
    IsLine t := by
  have hspace : ∀ c : Char, c.toNat > 32 ∧ c.toNat < 128 → isWhitespace c = false := by
    intro c hc
    unfold isWhitespace
    simp
    omega
  exact ⟨⟨hne, hspace _ hhead, hspace _ hlast⟩, hnewline⟩

/-! ## The two kinds of transcripts -/

/-- The labels of order chats and of a user's dispute chats. Older files have an admin's labels. -/
def userLabels : SenderLabels UserChatSender where
  label
    | .you => "You".toList
    | .peer => "Peer".toList
  ofLabel t :=
    if t = "You".toList then some .you
    else if t = "Peer".toList then some .peer
    else if t = "Admin".toList ∨ t = "Admin to Buyer".toList ∨ t = "Admin to Seller".toList then
      some .you
    else if t = "Buyer".toList ∨ t = "Seller".toList then some .peer
    else none
  canonical := id
  ofLabel_label s := by cases s <;> decide
  label_isLine s := by
    cases s
    all_goals exact isLine_of_checks (by decide) (by decide) (by decide) (by decide)
  label_noDash s := by cases s <;> decide

/-- The labels of an admin's dispute chats, for a sender and the party that the message is to. The
party is written for an admin only. -/
def disputeLabels : SenderLabels (ChatSender × Option ChatParty) where
  label
    | (.admin, some .buyer) => "Admin to Buyer".toList
    | (.admin, some .seller) => "Admin to Seller".toList
    | (.admin, none) => "Admin".toList
    | (.buyer, _) => "Buyer".toList
    | (.seller, _) => "Seller".toList
  ofLabel t :=
    if t = "Admin to Buyer".toList then some (.admin, some .buyer)
    else if t = "Admin to Seller".toList then some (.admin, some .seller)
    else if t = "Admin".toList then some (.admin, none)
    else if t = "Buyer".toList then some (.buyer, none)
    else if t = "Seller".toList then some (.seller, none)
    else none
  canonical
    | (.admin, party) => (.admin, party)
    | (sender, _) => (sender, none)
  ofLabel_label s := by
    obtain ⟨sender, party⟩ := s
    cases sender <;> obtain _ | party := party <;> try cases party
    all_goals decide
  label_isLine s := by
    obtain ⟨sender, party⟩ := s
    cases sender <;> obtain _ | party := party <;> try cases party
    all_goals exact isLine_of_checks (by decide) (by decide) (by decide) (by decide)
  label_noDash s := by
    obtain ⟨sender, party⟩ := s
    cases sender <;> obtain _ | party := party <;> try cases party
    all_goals decide

/-! ## Writing and reading a block -/

/-- `UserOrderChatMessage`, or `DisputeChatMessage` with its party in the sender. -/
structure ChatMessage (σ : Type) where
  sender : σ
  content : Text
  timestamp : Int
  attachment : Option SaveableAttachment := none

/-- What `parse_one_order_message_block` and `parse_one_message_block` return. -/
structure MessageBlock (σ : Type) where
  sender : σ
  timestamp : Int
  content : Text

section
variable {σ : Type} (formats : Formats) (labels : SenderLabels σ)

/-- `transcript_body_for_order_message`, `transcript_body_for_dispute_message`. -/
def transcriptBody (m : ChatMessage σ) : Text :=
  match m.attachment with
  | some a => serializeAttachmentForTranscript formats.encodings a
  | none => joinLines (wrapTextToLines formats.width 80 m.content)

/-- The header of a block. -/
def transcriptHeader (m : ChatMessage σ) : Text :=
  let (date, time) :=
    (formats.clock.format m.timestamp).getD ("??-??-????".toList, "??:??:??".toList)
  labels.label m.sender ++ " - ".toList ++ (date ++ " - ".toList ++ time)

/-- `format_order_transcript_block`, `format_dispute_transcript_block`. -/
def formatTranscriptBlock (m : ChatMessage σ) : Text :=
  transcriptHeader formats labels m ++ '\n' :: transcriptBody formats m ++ ['\n', '\n']

/-- `parse_one_order_message_block`, `parse_one_message_block`. -/
def parseOneMessageBlock (block : Text) : Option (MessageBlock σ) :=
  match lines block with
  | [] => none
  | header :: rest => do
    let (first, date, time) ← splitn3 " - ".toList header
    let sender ← labels.ofLabel (trim first)
    let timestamp ← formats.clock.parse (trim date) (trim time)
    some ⟨sender, timestamp, trim (joinLines rest)⟩

/-- The message shown for a block. -/
def MessageBlock.message (b : MessageBlock σ) : ChatMessage σ :=
  let (content, attachment) := messageFieldsFromTranscriptContent formats.encodings b.content
  { sender := b.sender, content, timestamp := b.timestamp, attachment }

/-- The blocks of a transcript. -/
def transcriptBlocks (content : Text) : List Text :=
  (paragraphs content).filter fun s => trim s ≠ []

/-- `load_order_chat_from_file_by_kind`, `load_chat_from_file_by_kind`, for the file's text. -/
def loadChatFromFile (file : Option Text) : Option (List (ChatMessage σ)) := do
  let content ← file
  let messages := (transcriptBlocks content).filterMap fun block =>
    (parseOneMessageBlock formats labels block).map (MessageBlock.message formats)
  if messages.isEmpty then none else some messages

variable [DecidableEq σ]

/-- `order_transcript_already_has_message`, `dispute_transcript_already_has_message`. -/
def transcriptAlreadyHasMessage (last : MessageBlock σ) (m : ChatMessage σ) : Bool :=
  if last.sender ≠ m.sender ∨ last.timestamp ≠ m.timestamp then false
  else if last.content = transcriptBody formats m then true
  else
    match m.attachment with
    | none => false
    | some a =>
      (tryParseAttachmentMessage formats.encodings last.content).any
          (fun parsed => parsed.1.blossomUrl = a.blossomUrl) ||
        legacyPlaceholderMatchesFilename last.content a.filename

/-- `save_user_chat_message_by_kind`, `save_chat_message_by_kind`, on the file's text. -/
def saveChatMessage (file : Option Text) (m : ChatMessage σ) : Option Text :=
  let last := do
    let existing ← file
    let lastBlock ← (transcriptBlocks existing).getLast?
    parseOneMessageBlock formats labels lastBlock
  if last.any fun last => transcriptAlreadyHasMessage formats last m then file
  else some (file.getD [] ++ formatTranscriptBlock formats labels m)

end

end Mostrix.Chat
