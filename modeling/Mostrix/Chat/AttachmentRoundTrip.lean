import Mostrix.Chat.RoundTrip
import Mostrix.Library.Wire

/-!
# Attachments read back

An attachment is serialised to one line of JSON, parsed from it, and, when its line is the body of a
block, loaded from the transcript. The first two are a round trip for every attachment with a
trimmed URL and a key of 32 bytes or none (`tryParse_serialize`).

The third is one for a block that is written and read. It is not written behind a block of the same
sender and second with the same URL, or with the placeholder of its file name, whatever else differs
(the key, for one). And it is not read where its time is outside `chrono`'s range, or where a blank
message before it left a newline in front of its header. `attachment_roundTrip_iff` is the exact
condition, on every file that the client can have written.
-/

namespace Mostrix.Chat

open Text

/-! ## Serialising and parsing -/

/-- What `serde_json` and `base64` promise: an object of distinct names is read back by its names
and begins with a brace, and bytes are read back. -/
structure Encodings.Lawful (enc : Encodings) : Prop where
  objectFromStr_objectToString : ∀ fields : List (Text × Text), (fields.map (·.1)).Nodup →
    enc.objectFromStr (enc.objectToString fields) = some fun key => fields.lookup key
  objectToString_head : ∀ fields, (enc.objectToString fields).head? = some '{'
  base64Decode_base64Encode : ∀ bytes, enc.base64Decode (enc.base64Encode bytes) = some bytes

/-- An attachment as it is sent: its URL is trimmed, and its key, if it has one, has 32 bytes. -/
structure SaveableAttachment.IsWire (a : SaveableAttachment) : Prop where
  url : trim a.blossomUrl = a.blossomUrl
  key : ∀ key ∈ a.decryptionKey, key.length = 32

/-- The fields that are serialised. -/
def wireFields (enc : Encodings) (a : SaveableAttachment) : List (Text × Text) :=
  [("type".toList, match a.fileType with
      | .image => "image_encrypted".toList
      | .file => "file_encrypted".toList),
    ("blossom_url".toList, a.blossomUrl), ("filename".toList, a.filename)] ++
  (a.mimeType.map fun mime => ("mime_type".toList, mime)).toList ++
  ((a.decryptionKey.filter fun key => key.length = 32).map
    fun key => ("key".toList, enc.base64Encode key)).toList

theorem serialize_eq (enc : Encodings) (a : SaveableAttachment) :
    serializeAttachmentForTranscript enc a = enc.objectToString (wireFields enc a) := rfl

theorem nodup_wireFields (enc : Encodings) (a : SaveableAttachment) :
    ((wireFields enc a).map (·.1)).Nodup := by
  unfold wireFields
  cases a.mimeType <;> cases a.decryptionKey.filter fun key => key.length = 32 <;>
    simp only [Option.map_none, Option.map_some, Option.toList_none, Option.toList_some,
      List.append_nil, List.cons_append, List.nil_append, List.map_cons, List.map_nil] <;> decide

/-- What is read for each name. -/
theorem lookup_wireFields (enc : Encodings) (a : SaveableAttachment) :
    (wireFields enc a).lookup "type".toList =
        some (match a.fileType with
          | .image => "image_encrypted".toList
          | .file => "file_encrypted".toList) ∧
      (wireFields enc a).lookup "blossom_url".toList = some a.blossomUrl ∧
      (wireFields enc a).lookup "filename".toList = some a.filename ∧
      (wireFields enc a).lookup "mime_type".toList = a.mimeType ∧
      (wireFields enc a).lookup "key".toList =
        (a.decryptionKey.filter fun key => key.length = 32).map enc.base64Encode := by
  unfold wireFields
  cases a.mimeType <;> cases a.decryptionKey.filter fun key => key.length = 32 <;>
    exact ⟨rfl, rfl, rfl, rfl, rfl⟩

/-- A key of 32 bytes is read back, and none stays none. -/
theorem decoded_key {enc : Encodings} (henc : enc.Lawful) {a : SaveableAttachment}
    (ha : a.IsWire) :
    (((a.decryptionKey.filter fun key => key.length = 32).map enc.base64Encode).bind
      enc.base64Decode).filter (fun key => key.length = 32) = a.decryptionKey := by
  cases hk : a.decryptionKey with
  | none => rfl
  | some key =>
    have hlength : key.length = 32 := ha.key key hk
    have hkept : (some key).filter (fun key => decide (key.length = 32)) = some key := by
      simp [hlength]
    rw [hkept, Option.map_some, Option.bind_some, henc.base64Decode_base64Encode, hkept]

/-- The attachment that an object describes. -/
theorem tryParse_of_object {enc : Encodings} {t : Text} {obj : Text → Option Text}
    {a : SaveableAttachment} {url : Text} (hline : IsTrimmed t) (hhead : t.head? = some '{')
    (hobj : enc.objectFromStr t = some obj)
    (htype : obj "type".toList = some (match a.fileType with
      | .image => "image_encrypted".toList
      | .file => "file_encrypted".toList))
    (hurl : obj "blossom_url".toList = some url) (htrim : trim url = a.blossomUrl)
    (hname : obj "filename".toList = some a.filename)
    (hmime : obj "mime_type".toList = a.mimeType)
    (hkey : ((obj "key".toList).bind enc.base64Decode).filter (fun key => key.length = 32) =
      a.decryptionKey) :
    ∃ display, tryParseAttachmentMessage enc t = some (a, display) := by
  have hne : "file_encrypted".toList ≠ "image_encrypted".toList := by decide
  obtain ⟨_, filename, _, fileType, _, hsaveable⟩ := a
  dsimp only at *
  subst htrim hmime hkey
  have hurlSaveable : ¬ trim url = [] := fun hnil => hsaveable (by rw [hnil]; rfl)
  unfold tryParseAttachmentMessage
  dsimp only
  rw [hline.trim_eq, hhead, hobj, if_neg (not_not_intro rfl)]
  dsimp only [Option.bind_eq_bind, Option.bind_some]
  rw [htype, hurl, hname]
  dsimp only [Option.bind_some]
  cases fileType with
  | image =>
    rw [if_pos rfl, dif_neg hurlSaveable]
    exact ⟨_, rfl⟩
  | file =>
    rw [if_neg hne, if_pos rfl, dif_neg hurlSaveable]
    exact ⟨_, rfl⟩

/-- **Parsing gives the attachment back.** -/
theorem tryParse_serialize {enc : Encodings} (henc : enc.Lawful) {a : SaveableAttachment}
    (ha : a.IsWire) :
    ∃ display, tryParseAttachmentMessage enc (serializeAttachmentForTranscript enc a) =
      some (a, display) := by
  obtain ⟨htype, hurl, hname, hmime, hkey⟩ := lookup_wireFields enc a
  have hobj : enc.objectFromStr (serializeAttachmentForTranscript enc a) =
      some fun key => (wireFields enc a).lookup key := by
    rw [serialize_eq]
    exact henc.objectFromStr_objectToString _ (nodup_wireFields enc a)
  refine tryParse_of_object (serializeAttachmentForTranscript_isLine enc a).toIsTrimmed
    (henc.objectToString_head _) hobj htype hurl ha.url hname hmime ?_
  rw [hkey]
  exact decoded_key henc ha

/-! ## Saving and loading -/

section
variable {σ : Type} [DecidableEq σ] (formats : Formats) (labels : SenderLabels σ)

/-- The files that the client can have written: a message is appended, or all are written again
(`rewrite_order_chat_messages`, `rewrite_dispute_chat_messages`). -/
inductive ClientFile : Option Text → Prop
  | none : ClientFile none
  | saved {file : Option Text} (h : ClientFile file) (m : ChatMessage σ) :
      ClientFile (saveChatMessage formats labels file m)
  | rewritten (messages : List (ChatMessage σ)) :
      ClientFile (some (messages.flatMap (formatTranscriptBlock formats labels)))

/-- The last block of a file, as saving reads it. -/
def lastBlock (file : Option Text) : Option (MessageBlock σ) := do
  let existing ← file
  let lastBlock ← (transcriptBlocks existing).getLast?
  parseOneMessageBlock formats labels lastBlock

/-- A file at whose end a newline is left over, in front of what is appended. -/
def LeavesNewline (file : Option Text) : Prop :=
  (paragraphs (file.getD [])).getLast? = some ['\n']

/-- A row that shows a message's attachment under its sender and time. -/
def ShowsAttachment (m : ChatMessage σ) (a : SaveableAttachment) (row : ChatMessage σ) : Prop :=
  row.sender = labels.canonical m.sender ∧ row.timestamp = m.timestamp ∧ row.attachment = some a

/-- The round trip of an attachment that is saved in a message: it is one line, parsed back as it
was, and loaded as it was. -/
structure AttachmentKept (file : Option Text) (m : ChatMessage σ) (a : SaveableAttachment) :
    Prop where
  oneLine : '\n' ∉ serializeAttachmentForTranscript formats.encodings a
  parsed : (tryParseAttachmentMessage formats.encodings
    (serializeAttachmentForTranscript formats.encodings a)).map (·.1) = some a
  loaded : ∃ row ∈ (loadChatFromFile formats labels
    (saveChatMessage formats labels file m)).getD [], ShowsAttachment labels m a row

/-- Its block is written and read: it is not taken for the last block, no newline is left over in
front of it, and its time is in the clock's range. -/
structure WrittenAndRead (file : Option Text) (m : ChatMessage σ) : Prop where
  notPresent : ∀ last ∈ lastBlock formats labels file,
    transcriptAlreadyHasMessage formats last m = false
  notSwallowed : ¬ LeavesNewline file
  timestamp : (formats.clock.format m.timestamp).isSome = true

variable {formats labels}

/-- Every file of the client holds some blocks. -/
theorem ClientFile.exists_holds {file : Option Text} (h : ClientFile formats labels file) :
    ∃ blocks carried, TranscriptHolds formats labels file blocks carried := by
  induction h with
  | none => exact ⟨[], false, transcriptHolds_none formats labels⟩
  | saved h m ih =>
    obtain ⟨blocks, carried, hholds⟩ := ih
    rw [hholds.saveChatMessage]
    split
    · exact ⟨blocks, carried, hholds⟩
    · exact ⟨_, _, hholds.append m⟩
  | rewritten messages =>
    induction messages using List.reverseRecOn with
    | nil => exact ⟨[], false, transcriptHolds_none formats labels⟩
    | append_singleton messages m ih =>
      obtain ⟨blocks, carried, hholds⟩ := ih
      rw [List.flatMap_append, List.flatMap_singleton]
      exact ⟨_, _, hholds.append m⟩

omit [DecidableEq σ] in
theorem TranscriptHolds.leavesNewline_iff {file : Option Text}
    {blocks : List (Option (MessageBlock σ))} {carried : Bool}
    (h : TranscriptHolds formats labels file blocks carried) :
    LeavesNewline file ↔ carried = true := by
  obtain ⟨pieces, hpieces, -⟩ := h
  unfold LeavesNewline
  rw [hpieces, List.getLast?_concat]
  cases carried <;> simp [carry]

variable {file : Option Text} {m : ChatMessage σ} {a : SaveableAttachment}

omit [DecidableEq σ] in
/-- The row of a block that is read shows the attachment. -/
theorem showsAttachment_messageBlock (henc : formats.encodings.Lawful)
    (hm : m.attachment = some a) (ha : a.IsWire) :
    ShowsAttachment labels m a (MessageBlock.message formats (messageBlock formats labels m)) := by
  obtain ⟨display, hparsed⟩ := tryParse_serialize henc ha
  have hbody : trim (transcriptBody formats m) =
      serializeAttachmentForTranscript formats.encodings a := by
    unfold transcriptBody
    rw [hm]
    exact (serializeAttachmentForTranscript_isLine formats.encodings a).trim_eq
  unfold MessageBlock.message messageFieldsFromTranscriptContent messageBlock
  dsimp only
  rw [hbody, hparsed]
  exact ⟨rfl, rfl, rfl⟩

/-- What is loaded after a message was saved. -/
theorem TranscriptHolds.load_saveChatMessage {blocks : List (Option (MessageBlock σ))}
    {carried : Bool} (h : TranscriptHolds formats labels file blocks carried)
    (row : ChatMessage σ) :
    row ∈ (loadChatFromFile formats labels
        (Chat.saveChatMessage formats labels file m)).getD [] ↔
      row ∈ (loadChatFromFile formats labels file).getD [] ∨
        WrittenAndRead formats labels file m ∧
          row = MessageBlock.message formats (messageBlock formats labels m) := by
  have hlast : lastBlock formats labels file = blocks.getLast?.join := h.last
  have hnewline := h.leavesNewline_iff
  rw [h.saveChatMessage]
  by_cases hpresent : blocks.getLast?.join.any (fun last =>
      transcriptAlreadyHasMessage formats last m) = true
  · rw [if_pos hpresent]
    obtain ⟨last, hmem, hsame⟩ := (Option.any_eq_true _ _).1 hpresent
    refine (or_iff_left ?_).symm
    rintro ⟨hwritten, -⟩
    rw [hwritten.notPresent last (hlast ▸ hmem)] at hsame
    cases hsame
  · have hfresh : ∀ last ∈ lastBlock formats labels file,
        transcriptAlreadyHasMessage formats last m = false := fun last hmem =>
      eq_false_of_ne_true fun hsame =>
        hpresent ((Option.any_eq_true _ _).2 ⟨last, hlast ▸ hmem, hsame⟩)
    rw [if_neg hpresent, (h.append m).load, h.load, List.reduceOption_append, List.map_append,
      List.mem_append]
    refine or_congr_right ?_
    cases carried with
    | true =>
      refine iff_of_false (by simp [List.reduceOption]) fun hwritten => ?_
      exact hwritten.1.notSwallowed (hnewline.2 rfl)
    | false =>
      have hkept : ¬ LeavesNewline file := fun hleft => Bool.noConfusion (hnewline.1 hleft)
      unfold storedBlock
      by_cases htime : (formats.clock.format m.timestamp).isSome = true
      · have hwritten : WrittenAndRead formats labels file m := ⟨hfresh, hkept, htime⟩
        simp [htime, hwritten, List.reduceOption]
      · refine iff_of_false (by simp [htime, List.reduceOption]) fun hwritten => ?_
        exact htime hwritten.1.timestamp

end

/-- **The round trip of an attachment**: it is one line, it is parsed back as it was, and it is
loaded from the transcript as it was, exactly when its block is written and read, or a row of the
file shows it already. -/
theorem attachment_roundTrip_iff {σ : Type} [DecidableEq σ] (formats : Formats)
    (henc : formats.encodings.Lawful) (labels : SenderLabels σ) {file : Option Text}
    (hfile : ClientFile formats labels file) {m : ChatMessage σ} {a : SaveableAttachment}
    (hm : m.attachment = some a) (ha : a.IsWire) :
    AttachmentKept formats labels file m a ↔
      WrittenAndRead formats labels file m ∨
        ∃ row ∈ (loadChatFromFile formats labels file).getD [], ShowsAttachment labels m a row := by
  obtain ⟨blocks, carried, hholds⟩ := hfile.exists_holds
  have hone := (serializeAttachmentForTranscript_isLine formats.encodings a).noNewline
  obtain ⟨display, hparsed⟩ := tryParse_serialize henc ha
  have hloaded : AttachmentKept formats labels file m a ↔ ∃ row ∈ (loadChatFromFile formats labels
      (saveChatMessage formats labels file m)).getD [], ShowsAttachment labels m a row :=
    ⟨fun h => h.loaded, fun h => ⟨hone, by rw [hparsed]; rfl, h⟩⟩
  rw [hloaded]
  refine ⟨?_, ?_⟩
  · rintro ⟨row, hrow, hshows⟩
    rcases hholds.load_saveChatMessage row |>.1 hrow with hold | ⟨hwritten, -⟩
    · exact .inr ⟨row, hold, hshows⟩
    · exact .inl hwritten
  · rintro (hwritten | ⟨row, hrow, hshows⟩)
    · exact ⟨_, (hholds.load_saveChatMessage _).2 (.inr ⟨hwritten, rfl⟩),
        showsAttachment_messageBlock henc hm ha⟩
    · exact ⟨row, (hholds.load_saveChatMessage _).2 (.inl hrow), hshows⟩

/-! ### With JSON and base64 -/

/-- JSON objects of strings and base64. -/
def jsonEncodings : Encodings where
  objectToString := Wire.writeObject
  objectFromStr t := (Wire.readObject t).map fun fields key => fields.lookup key
  base64Encode := Wire.base64Encode
  base64Decode := Wire.base64Decode
  objectToString_isLine := Wire.writeObject_isLine

theorem jsonEncodings_lawful : jsonEncodings.Lawful where
  objectFromStr_objectToString fields _ := by
    show (Wire.readObject (Wire.writeObject fields)).map _ = _
    rw [Wire.readObject_writeObject]
    rfl
  objectToString_head _ := rfl
  base64Decode_base64Encode := Wire.base64Decode_base64Encode

/-- Formats with them, for texts of one column per character. -/
def jsonFormats : Formats := { plainFormats with encodings := jsonEncodings }

/-- An image without a key. -/
def keylessImage : SaveableAttachment where
  blossomUrl := "blossom://a".toList
  filename := "a.png".toList
  mimeType := none
  fileType := .image
  decryptionKey := none
  isSaveable := by decide

/-- The same image with its key. -/
def keyedImage : SaveableAttachment :=
  { keylessImage with decryptionKey := some (List.replicate 32 7) }

/-- A message of the peer with an attachment. -/
def imageMessage (a : SaveableAttachment) (timestamp : Int) : ChatMessage UserChatSender where
  sender := .peer
  content := a.filename
  timestamp
  attachment := some a

/-- The image with its key in a new transcript. -/
theorem attachment_roundTrip_image :
    AttachmentKept jsonFormats userLabels none (imageMessage keyedImage 0) keyedImage :=
  (attachment_roundTrip_iff jsonFormats jsonEncodings_lawful userLabels .none rfl
    ⟨by decide, by
      rintro key ⟨⟩
      rfl⟩).2 (.inl ⟨nofun, by unfold LeavesNewline; decide, rfl⟩)

/-- The image is sent without its key and then with it, in one second: the key is not stored. And
behind an empty message an image is not read back at all. -/
theorem attachment_key_not_stored :
    let keyless := saveChatMessage jsonFormats userLabels none (imageMessage keylessImage 0)
    let blank := saveChatMessage jsonFormats userLabels none
      { sender := .peer, content := [], timestamp := 0 }
    ¬ AttachmentKept jsonFormats userLabels keyless (imageMessage keyedImage 0) keyedImage ∧
      ¬ AttachmentKept jsonFormats userLabels blank (imageMessage keyedImage 1) keyedImage := by
  intro keyless blank
  have hattachments : ∀ {file : Option Text} {m : ChatMessage UserChatSender},
      AttachmentKept jsonFormats userLabels file m keyedImage →
      some keyedImage ∈ ((loadChatFromFile jsonFormats userLabels
        (saveChatMessage jsonFormats userLabels file m)).getD []).map (·.attachment) := by
    rintro file m h
    obtain ⟨row, hrow, -, -, hattachment⟩ := h.loaded
    exact List.mem_map.2 ⟨row, hrow, hattachment⟩
  refine ⟨fun h => absurd (hattachments h) ?_, fun h => absurd (hattachments h) ?_⟩
  · decide +kernel
  · decide +kernel

end Mostrix.Chat
