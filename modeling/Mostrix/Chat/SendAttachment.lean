import Mostrix.Library.Json
import Mostrix.Chat.AttachmentRoundTrip
import Mostrix.Chat.Blossom
import Mostrix.Chat.Disclosure
import Mostrix.Chat.ImageDimensions

/-!
# Sending an attachment

`util/file_validation.rs`, `util/send_attachment.rs` and the builders of `ui/helpers/attachments.rs`:
a file is read and validated, encrypted under the secret of the order's chat, uploaded, and
announced in the chat as a line of JSON. An upload whose message cannot be sent is kept as prepared,
and sent again without another upload.
-/

namespace Mostrix.Chat

open Text

/-! ## The file -/

/-- `AttachmentFileClass`. -/
inductive AttachmentFileClass
  | image
  | video
  | document
deriving DecidableEq, Repr

/-- `ValidatedAttachment`. -/
structure ValidatedAttachment where
  data : Blob
  filename : Text
  mimeType : Text
  fileClass : AttachmentFileClass
  imageWidth : Nat
  imageHeight : Nat
deriving DecidableEq

/-- A path: its last component, if it has one and it is Unicode, and what reading it gives. -/
structure AttachmentPath where
  fileName : Option Text
  display : Text
  read : Except Text Blob

/-- `Path::extension` of a file name: what is behind its last dot, unless there is none but at the
start. -/
def extension (fileName : Text) : Option Text :=
  if (fileName.rdropWhile (· ≠ '.')).length ≤ 1 ∨ fileName = "..".toList then none
  else some (fileName.rtakeWhile (· ≠ '.'))

/-- `ATTACHMENT_ALLOWED_EXTENSIONS`. -/
def attachmentAllowedExtensions : List Text :=
  ["jpg".toList, "jpeg".toList, "png".toList, "pdf".toList, "mp4".toList, "mov".toList,
    "avi".toList, "doc".toList, "docx".toList]

/-- `classify_extension`. -/
def classifyExtension (ext : Text) : AttachmentFileClass :=
  if ext ∈ ["jpg".toList, "jpeg".toList, "png".toList] then .image
  else if ext ∈ ["mp4".toList, "mov".toList, "avi".toList] then .video
  else .document

/-- `mime_type_for_extension`. -/
def mimeTypeForExtension (ext : Text) : Text :=
  if ext ∈ ["jpg".toList, "jpeg".toList] then "image/jpeg".toList
  else if ext = "png".toList then "image/png".toList
  else if ext = "pdf".toList then "application/pdf".toList
  else if ext = "mp4".toList then "video/mp4".toList
  else if ext = "mov".toList then "video/quicktime".toList
  else if ext = "avi".toList then "video/x-msvideo".toList
  else if ext = "doc".toList then "application/msword".toList
  else if ext = "docx".toList then
    "application/vnd.openxmlformats-officedocument.wordprocessingml.document".toList
  else "application/octet-stream".toList

/-- `%PDF-`. -/
def pdfHeader : Blob := [0x25, 0x50, 0x44, 0x46, 0x2D]

/-- `validate_pdf_header`. -/
def validatePdfHeader (data : Blob) : Except Text Unit :=
  if pdfHeader.isPrefixOf data then .ok () else .error "File does not look like a valid PDF".toList

/-- A PDF has its header. -/
def checkDocument (fileClass : AttachmentFileClass) (ext : Text) (data : Blob) : Except Text Unit :=
  if fileClass = .document ∧ ext = "pdf".toList then validatePdfHeader data else .ok ()

/-- The size that is announced for a file; the scan of an image never faults. -/
def imageSize (fileClass : AttachmentFileClass) (data : Blob) : Except Text (Nat × Nat) :=
  if fileClass = .image then
    match readImageDimensions data with
    | .ok (some size) => .ok size
    | _ =>
      .error ("Could not read image dimensions (PNG/JPEG required for mobile ".toList ++
        "compatibility)".toList)
  else .ok (0, 0)

/-- What `validate_attachment_file` checks of the bytes that it read. -/
def validateData (filename ext : Text) (data : Blob) : Except Text ValidatedAttachment :=
  if data = [] then .error "File is empty".toList
  else if blossomMaxBlobSize < data.length then
    .error ("File too large: ".toList ++ numberText data.length ++ " bytes (max ".toList ++
      numberText (blossomMaxBlobSize / (1024 * 1024)) ++ " MB)".toList)
  else do
    let fileClass := classifyExtension ext
    checkDocument fileClass ext data
    let size ← imageSize fileClass data
    .ok ⟨data, filename, mimeTypeForExtension ext, fileClass, size.1, size.2⟩

/-- `validate_attachment_file`. -/
def validateAttachmentFile (path : AttachmentPath) : Except Text ValidatedAttachment :=
  match path.fileName with
  | none => .error "Invalid file path".toList
  | some filename =>
    match (extension filename).map (·.map Char.toLower) with
    | none => .error "File has no extension".toList
    | some ext =>
      if ext ∉ attachmentAllowedExtensions then
        .error ("Unsupported file type (.".toList ++ ext ++ "). Allowed: ".toList ++
          ", ".toList.intercalate attachmentAllowedExtensions)
      else
        match path.read with
        | .error e =>
          .error ("Failed to read ".toList ++ path.display ++ ": ".toList ++ e)
        | .ok data => validateData filename ext data

/-! ## The message -/

/-- `serde_json` and `base64` for what is sent: objects with numbers, too. -/
structure OutboundEncodings extends Encodings where
  /-- `to_string` of an object with strings and numbers in its fields -/
  outboundToString : List (Text × Json.Value) → Text
  outboundToString_isLine : ∀ fields, IsLine (outboundToString fields)

/-- What `serde_json` promises for it. -/
structure OutboundEncodings.Lawful (enc : OutboundEncodings) : Prop where
  objectFromStr_outboundToString : ∀ fields : List (Text × Json.Value),
    (fields.map (·.1)).Nodup → enc.objectFromStr (enc.outboundToString fields) =
      some fun key => (fields.lookup key).bind Json.Value.asStr
  outboundToString_head : ∀ fields, (enc.outboundToString fields).head? = some '{'

variable (enc : OutboundEncodings)

/-- `OutboundAttachmentPayload`. -/
structure OutboundAttachmentPayload where
  jsonBody : Text
  attachment : SaveableAttachment
  displayContent : Text
deriving DecidableEq

/-- `attachment_nonce_to_hex`. -/
def attachmentNonceToHex (nonce : Blob) : Text :=
  nonce.flatMap fun b => [Wire.hexDigit (b.toNat / 16), Wire.hexDigit (b.toNat % 16)]

/-- What the two builders share: the check of the nonce, the text, and the attachment read from
it. -/
def buildEncryptedJson (nonce : Blob) (fields : List (Text × Json.Value)) :
    Except Text OutboundAttachmentPayload :=
  if nonce.length ≠ 12 then
    .error ("attachment nonce must be 12 bytes, got ".toList ++ numberText nonce.length)
  else
    let jsonBody := enc.outboundToString fields
    match tryParseAttachmentMessage enc.toEncodings jsonBody with
    | none => .error "failed to build attachment display from JSON".toList
    | some (attachment, displayContent) => .ok ⟨jsonBody, attachment, displayContent⟩

/-- `build_image_encrypted_json`. -/
def buildImageEncryptedJson (blossomUrl filename mimeType : Text) (nonce : Blob)
    (dimensions : Nat × Nat) (originalSize encryptedSize : Nat) :
    Except Text OutboundAttachmentPayload :=
  buildEncryptedJson enc nonce
    [("type".toList, .string "image_encrypted".toList), ("blossom_url".toList, .string blossomUrl),
      ("nonce".toList, .string (attachmentNonceToHex nonce)), ("filename".toList, .string filename),
      ("mime_type".toList, .string mimeType), ("original_size".toList, .number originalSize),
      ("width".toList, .number dimensions.1), ("height".toList, .number dimensions.2),
      ("encrypted_size".toList, .number encryptedSize)]

/-- `build_file_encrypted_json`. -/
def buildFileEncryptedJson (blossomUrl filename mimeType fileType : Text) (nonce : Blob)
    (originalSize encryptedSize : Nat) : Except Text OutboundAttachmentPayload :=
  buildEncryptedJson enc nonce
    [("type".toList, .string "file_encrypted".toList), ("blossom_url".toList, .string blossomUrl),
      ("nonce".toList, .string (attachmentNonceToHex nonce)), ("filename".toList, .string filename),
      ("mime_type".toList, .string mimeType), ("file_type".toList, .string fileType),
      ("original_size".toList, .number originalSize),
      ("encrypted_size".toList, .number encryptedSize)]

/-- `file_type_label`. -/
def fileTypeLabel : AttachmentFileClass → Text
  | .image => "image".toList
  | .video => "video".toList
  | .document => "document".toList

/-- `build_outbound_payload`. -/
def buildOutboundPayload (validated : ValidatedAttachment) (blossomUrl : Text)
    (encryptedBlob : Blob) : Except Text OutboundAttachmentPayload :=
  if encryptedBlob.length < 12 then .error "encrypted blob missing nonce".toList
  else
    let nonce := encryptedBlob.take 12
    match validated.fileClass with
    | .image =>
      buildImageEncryptedJson enc blossomUrl validated.filename validated.mimeType nonce
        (validated.imageWidth, validated.imageHeight) validated.data.length encryptedBlob.length
    | .video | .document =>
      buildFileEncryptedJson enc blossomUrl validated.filename validated.mimeType
        (fileTypeLabel validated.fileClass) nonce validated.data.length encryptedBlob.length

/-! ## The keys -/

variable (ops : EnvelopeOps) (secretBytes : Keys → Blob)

/-- `order_chat_decryption_key_bytes`. -/
def orderChatDecryptionKeyBytes (order : Order) : Option Blob :=
  (ecdhOfOrder ops order.orderChatSharedKeyHex (order.tradeKeys.bind ops.parseKeys)
    order.counterpartyPubkey).map secretBytes

/-- `OrderChatKeys`. -/
structure OrderChatKeys where
  tradeKeys : Keys
  sharedKeys : Keys
deriving DecidableEq

/-- `load_order_chat_keys`. -/
def loadOrderChatKeys (db : Db) (orderId : Uuid) : Except Text (Order × OrderChatKeys) :=
  match db orderId with
  | none => .error "order not found".toList
  | some order =>
    match order.tradeKeys.bind ops.parseKeys with
    | none => .error "missing trade keys for order chat send".toList
    | some tradeKeys =>
      match ecdhOfOrder ops order.orderChatSharedKeyHex (some tradeKeys) order.counterpartyPubkey with
      | none => .error "could not derive shared keys for order chat".toList
      | some sharedKeys => .ok (order, ⟨tradeKeys, sharedKeys⟩)

/-! ## Sending -/

/-- `PreparedOrderChatAttachment`. -/
structure PreparedOrderChatAttachment where
  orderId : Uuid
  blossomUrl : Text
  filename : Text
  outbound : OutboundAttachmentPayload
deriving DecidableEq

/-- What an attempt to send meets: the stamp of the envelope, and what the relays answer. -/
structure SendAttempt where
  stamp : Stamp
  published : Except String Unit

/-- `CHAT_SEND_RETRY_ATTEMPTS`. -/
def chatSendRetryAttempts : Nat := 3

/-- The loop of `send_prepared_with_retries`, from an attempt on; the event that is published. -/
def sendFromAttempt (attempts : Nat → SendAttempt) (keys : OrderChatKeys) (jsonBody : Text)
    (lastErr : String) (attempt : Nat) : Nat → Except String ChatEvent
  | 0 => .error lastErr
  | remaining + 1 =>
    let a := attempts attempt
    match sendChatMessageViaSharedKey ops a.stamp keys.tradeKeys keys.sharedKeys
      (String.ofList jsonBody) with
    | .error e => sendFromAttempt attempts keys jsonBody e (attempt + 1) remaining
    | .ok event =>
      match a.published with
      | .ok () => .ok event
      | .error e =>
        sendFromAttempt attempts keys jsonBody ("Failed to send admin chat event: " ++ e) (attempt + 1)
          remaining

/-- `send_prepared_with_retries`. -/
def sendPreparedWithRetries (attempts : Nat → SendAttempt) (keys : OrderChatKeys)
    (jsonBody : Text) : Except String ChatEvent :=
  sendFromAttempt ops attempts keys jsonBody "chat send not attempted" 0 chatSendRetryAttempts

/-- `local_message_from_prepared`. -/
def localMessageFromPrepared (prepared : PreparedOrderChatAttachment) (now : Int) :
    ChatMessage UserChatSender where
  sender := .you
  content := prepared.outbound.displayContent
  timestamp := now
  attachment := some prepared.outbound.attachment

/-- What a job comes to. -/
inductive SendAttachmentAttempt
  | sent (event : ChatEvent) (message : ChatMessage UserChatSender) (info : Text)
  | uploadOkSendFailed (prepared : PreparedOrderChatAttachment) (error : Text)

/-- What sending uses from outside. -/
structure SendEnv where
  upload : UploadEnv
  nonce : BlobNonce
  attempts : Nat → SendAttempt
  now : Int

/-- `send_prepared_order_chat_attachment`. -/
def sendPreparedOrderChatAttachment (env : SendEnv) (db : Db)
    (prepared : PreparedOrderChatAttachment) :
    Except Text (ChatEvent × ChatMessage UserChatSender × Text) := do
  let loaded ← loadOrderChatKeys ops db prepared.orderId
  let event ← (sendPreparedWithRetries ops env.attempts loaded.2
    prepared.outbound.jsonBody).mapError String.toList
  .ok (event, localMessageFromPrepared prepared env.now,
    "Attachment sent: ".toList ++ prepared.filename)

variable (cipher : BlobCipher)

/-- The key an attachment is encrypted with. -/
def attachmentKey (order : Order) : Except Text Blob :=
  match orderChatDecryptionKeyBytes ops secretBytes order with
  | none => .error "missing order chat shared key for attachment encrypt".toList
  | some key => if key.length ≠ 32 then .error "shared key must be 32 bytes".toList else .ok key

/-- The check of an encrypted blob's size. -/
def checkBlobSize (encryptedBlob : Blob) : Except Text Unit :=
  if blossomMaxBlobSize < encryptedBlob.length then
    .error ("encrypted blob too large (".toList ++ numberText encryptedBlob.length ++
      " bytes)".toList)
  else .ok ()

/-- The first half of `send_order_chat_attachment_from_path`: the upload. -/
def prepareOrderChatAttachment (env : SendEnv) (db : Db) (orderId : Uuid) (path : AttachmentPath)
    (blossomServers : List Text) : Except Text (OrderChatKeys × PreparedOrderChatAttachment) := do
  let validated ← validateAttachmentFile path
  let loaded ← loadOrderChatKeys ops db orderId
  let key ← attachmentKey ops secretBytes loaded.1
  let encryptedBlob ← encryptBlob cipher env.nonce key validated.data
  checkBlobSize encryptedBlob
  let blossomUrl ← uploadBlobWithRetry env.upload blossomServers encryptedBlob loaded.2.tradeKeys
  let outbound ← buildOutboundPayload enc validated blossomUrl encryptedBlob
  .ok (loaded.2, ⟨orderId, blossomUrl, validated.filename, outbound⟩)

/-- `send_order_chat_attachment_from_path`. -/
def sendOrderChatAttachmentFromPath (env : SendEnv) (db : Db) (orderId : Uuid)
    (path : AttachmentPath) (blossomServers : List Text) : Except Text SendAttachmentAttempt := do
  let (keys, prepared) ←
    prepareOrderChatAttachment enc ops secretBytes cipher env db orderId path blossomServers
  match sendPreparedWithRetries ops env.attempts keys prepared.outbound.jsonBody with
  | .ok event =>
    .ok (.sent event (localMessageFromPrepared prepared env.now)
      ("Attachment sent: ".toList ++ prepared.filename))
  | .error e =>
    .ok (.uploadOkSendFailed prepared
      ("chat send failed after ".toList ++ numberText chatSendRetryAttempts ++
        " attempts: ".toList ++ e.toList))

variable {enc ops secretBytes cipher} in
/-- A job that is over has prepared its upload, and then announced it or not. -/
theorem sendOrderChatAttachmentFromPath_ok {env : SendEnv} {db : Db} {orderId : Uuid}
    {path : AttachmentPath} {servers : List Text} {a : SendAttachmentAttempt}
    (h : sendOrderChatAttachmentFromPath enc ops secretBytes cipher env db orderId path servers =
      .ok a) :
    ∃ keys prepared, prepareOrderChatAttachment enc ops secretBytes cipher env db orderId path
        servers = .ok (keys, prepared) ∧
      ((∃ event info, a = .sent event (localMessageFromPrepared prepared env.now) info ∧
          sendPreparedWithRetries ops env.attempts keys prepared.outbound.jsonBody = .ok event) ∨
        ∃ e, a = .uploadOkSendFailed prepared e) := by
  unfold sendOrderChatAttachmentFromPath at h
  obtain ⟨⟨keys, prepared⟩, hprepare, h⟩ := Except.ok_of_bind h
  refine ⟨keys, prepared, hprepare, ?_⟩
  dsimp only at h
  split at h
  next event hsend =>
    cases h
    exact .inl ⟨event, _, rfl, hsend⟩
  next e _ =>
    cases h
    exact .inr ⟨_, rfl⟩

/-- `DEFAULT_BLOSSOM_SERVERS`. -/
def defaultBlossomServers : List Text :=
  ["https://blossom.primal.net".toList, "https://blossom.band".toList,
    "https://nostr.media".toList, "https://blossom.sector01.com".toList,
    "https://24242.io".toList, "https://otherstuff.shaving.kiwi".toList,
    "https://blossom.f7z.io".toList, "https://nosto.re".toList,
    "https://blossom.poster.place".toList]

/-- `blossom_servers_from_settings`. -/
def blossomServersFromSettings (blossomServers : List Text) : List Text :=
  if blossomServers.isEmpty then defaultBlossomServers else blossomServers

end Mostrix.Chat
