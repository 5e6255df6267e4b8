import Mostrix.Library.Text

/-!
# Attachments in a transcript

`ui/helpers/attachments.rs`: an attachment is stored as one line of JSON and read back from it. What
is read back need not have been stored that way: any text that is such a JSON object is taken for an
attachment, and shown as its file name.

JSON (`serde_json`) and base64 (`base64`) are parameters.
-/

namespace Mostrix.Chat

open Text

/-- `ChatAttachmentType`. -/
inductive ChatAttachmentType
  | image
  | file
deriving DecidableEq, Repr

/-- A `ChatAttachment` that passes `attachment_is_saveable`, as every one does that
`try_parse_attachment_message` makes. -/
structure SaveableAttachment where
  blossomUrl : Text
  filename : Text
  mimeType : Option Text
  fileType : ChatAttachmentType
  decryptionKey : Option (List UInt8)
  isSaveable : trim blossomUrl ≠ []
deriving DecidableEq

/-- What `serde_json` and `base64` do for an attachment. -/
structure Encodings where
  /-- `to_string` of an object with strings in its fields -/
  objectToString : List (Text × Text) → Text
  /-- `from_str` and `as_object`: the fields of an object that are strings -/
  objectFromStr : Text → Option (Text → Option Text)
  base64Encode : List UInt8 → Text
  base64Decode : Text → Option (List UInt8)
  /-- An object is written between braces, and a newline in a string is escaped. -/
  objectToString_isLine : ∀ fields, IsLine (objectToString fields)

section
variable (enc : Encodings)

/-- `serialize_attachment_for_transcript`. -/
def serializeAttachmentForTranscript (a : SaveableAttachment) : Text :=
  let msgType := match a.fileType with
    | .image => "image_encrypted".toList
    | .file => "file_encrypted".toList
  enc.objectToString <|
    [("type".toList, msgType), ("blossom_url".toList, a.blossomUrl),
      ("filename".toList, a.filename)] ++
    (a.mimeType.map fun mime => ("mime_type".toList, mime)).toList ++
    ((a.decryptionKey.filter fun key => key.length = 32).map
      fun key => ("key".toList, enc.base64Encode key)).toList

theorem serializeAttachmentForTranscript_isLine (a : SaveableAttachment) :
    IsLine (serializeAttachmentForTranscript enc a) :=
  enc.objectToString_isLine _

theorem trim_trim_ne_nil {t : Text} (h : trim t ≠ []) : trim (trim t) ≠ [] := by
  rwa [(isTrimmed_trim h).trim_eq]

/-- `try_parse_attachment_message`: the attachment, and the line shown for it. -/
def tryParseAttachmentMessage (content : Text) : Option (SaveableAttachment × Text) := do
  let content := trim content
  if content.head? ≠ some '{' then none
  let obj ← enc.objectFromStr content
  let msgType ← obj "type".toList
  let fileType ←
    if msgType = "image_encrypted".toList then some .image
    else if msgType = "file_encrypted".toList then some ChatAttachmentType.file
    else none
  let blossomUrl ← obj "blossom_url".toList
  if hurl : trim blossomUrl = [] then none
  else
    let filename ← obj "filename".toList
    let decryptionKey :=
      ((obj "key".toList).bind enc.base64Decode).filter fun key => key.length = 32
    let keyHint := if decryptionKey.isSome then " (key provided)".toList else []
    let display := match fileType with
      | .image => "🖼 Image: ".toList ++ filename ++ keyHint
      | .file => "📎 File: ".toList ++ filename ++ keyHint
    some ⟨⟨trim blossomUrl, filename, obj "mime_type".toList, fileType, decryptionKey,
      trim_trim_ne_nil hurl⟩, display⟩

/-- `message_fields_from_transcript_content`: the content shown for a body, and its attachment. -/
def messageFieldsFromTranscriptContent (contentBlock : Text) : Text × Option SaveableAttachment :=
  match tryParseAttachmentMessage enc contentBlock with
  | some (attachment, display) => (display, some attachment)
  | none => (contentBlock, none)

end

/-- `try_parse_attachment_placeholder`, the file name: older versions stored no JSON. -/
def tryParseAttachmentPlaceholder (content : Text) : Option Text := do
  let inner ← (trim content).dropPrefix? "[".toList
  let inner ← inner.dropSuffix? "]".toList
  let (kind, filename) ← splitOnce ": ".toList inner
  let filename ← filename.dropSuffix? " - Ctrl+S to save".toList
  if kind = "Image".toList ∨ kind = "File".toList then some filename else none

/-- `legacy_placeholder_matches_filename`. -/
def legacyPlaceholderMatchesFilename (content filename : Text) : Bool :=
  tryParseAttachmentPlaceholder content = some filename

end Mostrix.Chat
