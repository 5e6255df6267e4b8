import Mostrix.Chat.SendAttachment

/-!
# An attachment arrives

The way of a file from one party of an order to the other: encrypted under the secret of the chat,
uploaded, announced, read in the chat, fetched and decrypted with the secret that the other party
derives from its own row. `attachment_delivered` says that what the other party saves is the file,
whether the announcement went out with the job that uploaded it or was sent again later.
-/

namespace Mostrix.Chat

open Text

/-! ## The steps of a job -/

theorem validateAttachmentFile_ok {path : AttachmentPath} {v : ValidatedAttachment}
    (h : validateAttachmentFile path = .ok v) :
    path.fileName = some v.filename ∧ path.read = .ok v.data := by
  unfold validateAttachmentFile at h
  split at h
  · cases h
  next filename hname =>
    split at h
    · cases h
    next ext hext =>
      split at h
      · cases h
      · split at h
        · cases h
        next data hread =>
          unfold validateData at h
          split at h
          · cases h
          split at h
          · cases h
          obtain ⟨-, -, h⟩ := Except.ok_of_bind h
          obtain ⟨size, -, h⟩ := Except.ok_of_bind h
          cases h
          exact ⟨hname, hread⟩

section
variable {enc : OutboundEncodings} {ops : EnvelopeOps} {secretBytes : Keys → Blob}
  {cipher : BlobCipher} {db : Db} {orderId : Uuid} {keys : OrderChatKeys}

theorem loadOrderChatKeys_ok {order : Order}
    (h : loadOrderChatKeys ops db orderId = .ok (order, keys)) :
    db orderId = some order ∧ order.tradeKeys.bind ops.parseKeys = some keys.tradeKeys ∧
      ecdhOfOrder ops order.orderChatSharedKeyHex (some keys.tradeKeys) order.counterpartyPubkey =
        some keys.sharedKeys := by
  unfold loadOrderChatKeys at h
  split at h
  · cases h
  next order' hdb =>
    split at h
    · cases h
    next tradeKeys htrade =>
      split at h
      · cases h
      next sharedKeys hshared =>
        cases h
        exact ⟨hdb, htrade, hshared⟩

/-- An attempt of a send that succeeds has published its event. -/
theorem sendPreparedWithRetries_ok {attempts : Nat → SendAttempt} {jsonBody : Text}
    {event : ChatEvent} (h : sendPreparedWithRetries ops attempts keys jsonBody = .ok event) :
    ∃ i < chatSendRetryAttempts, (attempts i).published = .ok () ∧
      sendChatMessageViaSharedKey ops (attempts i).stamp keys.tradeKeys keys.sharedKeys
        (String.ofList jsonBody) = .ok event := by
  have hloop : ∀ (remaining attempt : Nat) (lastErr : String),
      sendFromAttempt ops attempts keys jsonBody lastErr attempt remaining = .ok event →
      ∃ i < attempt + remaining, (attempts i).published = .ok () ∧
        sendChatMessageViaSharedKey ops (attempts i).stamp keys.tradeKeys keys.sharedKeys
          (String.ofList jsonBody) = .ok event := by
    intro remaining
    induction remaining with
    | zero => exact nofun
    | succ remaining ih =>
      intro attempt lastErr h
      unfold sendFromAttempt at h
      dsimp only at h
      split at h
      · obtain ⟨i, hi, hrest⟩ := ih _ _ h
        exact ⟨i, by omega, hrest⟩
      next hsend =>
        split at h
        next hpublished =>
          cases h
          exact ⟨attempt, by omega, hpublished, hsend⟩
        next =>
          obtain ⟨i, hi, hrest⟩ := ih _ _ h
          exact ⟨i, by omega, hrest⟩
  simpa using hloop _ _ _ h

/-- The fields of an attachment that is read from an object. -/
theorem tryParse_fields {e : Encodings} {t : Text} {a : SaveableAttachment} {display : Text}
    {obj : Text → Option Text} (h : tryParseAttachmentMessage e t = some (a, display))
    (hobj : e.objectFromStr (trim t) = some obj) :
    (∃ url, obj "blossom_url".toList = some url ∧ a.blossomUrl = trim url) ∧
      obj "filename".toList = some a.filename ∧
      a.decryptionKey =
        ((obj "key".toList).bind e.base64Decode).filter fun key => key.length = 32 := by
  unfold tryParseAttachmentMessage at h
  dsimp only at h
  split at h
  · cases h
  · rw [hobj] at h
    obtain ⟨obj', hobj', h⟩ := Option.bind_eq_some_iff.1 h
    cases hobj'
    obtain ⟨msgType, -, h⟩ := Option.bind_eq_some_iff.1 h
    split at h
    on_goal 2 => split at h
    all_goals
      obtain ⟨fileType, -, h⟩ := Option.bind_eq_some_iff.1 h
      obtain ⟨url, hurl, h⟩ := Option.bind_eq_some_iff.1 h
      split at h
      · cases h
      · obtain ⟨filename, hname, h⟩ := Option.bind_eq_some_iff.1 h
        cases h
        exact ⟨⟨url, hurl, rfl⟩, hname, rfl⟩

/-- What is announced: the URL and the file name that were given, and no key. -/
structure Announces (enc : OutboundEncodings) (out : OutboundAttachmentPayload)
    (blossomUrl filename : Text) : Prop where
  parsed : tryParseAttachmentMessage enc.toEncodings out.jsonBody =
    some (out.attachment, out.displayContent)
  isLine : IsLine out.jsonBody
  url : out.attachment.blossomUrl = trim blossomUrl
  filename : out.attachment.filename = filename
  key : out.attachment.decryptionKey = none

theorem buildEncryptedJson_ok (henc : enc.Lawful) {nonce : Blob}
    {fields : List (Text × Json.Value)} {out : OutboundAttachmentPayload}
    {blossomUrl filename : Text} (h : buildEncryptedJson enc nonce fields = .ok out)
    (hnodup : (fields.map (·.1)).Nodup)
    (hurl : fields.lookup "blossom_url".toList = some (.string blossomUrl))
    (hname : fields.lookup "filename".toList = some (.string filename))
    (hkey : fields.lookup "key".toList = none) : Announces enc out blossomUrl filename := by
  unfold buildEncryptedJson at h
  split at h
  · cases h
  · dsimp only at h
    split at h
    · cases h
    next attachment display hparsed =>
      cases h
      have hline := enc.outboundToString_isLine fields
      have hobj : enc.objectFromStr (trim (enc.outboundToString fields)) =
          some fun key => (fields.lookup key).bind Json.Value.asStr := by
        rw [hline.toIsTrimmed.trim_eq]
        exact henc.objectFromStr_outboundToString fields hnodup
      obtain ⟨⟨url, hurl', htrim⟩, hname', hkey'⟩ := tryParse_fields hparsed hobj
      simp only [hurl, hname, hkey, Option.bind_some, Option.bind_none, Json.Value.asStr,
        Option.some.injEq, Option.filter_none] at hurl' hname' hkey'
      exact ⟨hparsed, hline, hurl' ▸ htrim, hname'.symm, hkey'⟩

theorem buildOutboundPayload_ok (henc : enc.Lawful) {v : ValidatedAttachment} {blossomUrl : Text}
    {blob : Blob} {out : OutboundAttachmentPayload}
    (h : buildOutboundPayload enc v blossomUrl blob = .ok out) :
    Announces enc out blossomUrl v.filename := by
  unfold buildOutboundPayload at h
  split at h
  · cases h
  · dsimp only at h
    split at h
    · refine buildEncryptedJson_ok henc h ?_ rfl rfl rfl
      simp only [List.map_cons, List.map_nil]
      decide
    all_goals
      refine buildEncryptedJson_ok henc h ?_ rfl rfl rfl
      simp only [List.map_cons, List.map_nil]
      decide

/-- What a job has done when its upload is over. -/
structure Uploaded (enc : OutboundEncodings) (ops : EnvelopeOps) (secretBytes : Keys → Blob)
    (cipher : BlobCipher) (env : SendEnv) (db : Db) (orderId : Uuid) (path : AttachmentPath)
    (servers : List Text) (keys : OrderChatKeys) (prepared : PreparedOrderChatAttachment)
    (data blob : Blob) : Prop where
  orderId_eq : prepared.orderId = orderId
  fileName : path.fileName = some prepared.filename
  read : path.read = .ok data
  loaded : ∃ order, loadOrderChatKeys ops db orderId = .ok (order, keys)
  encrypted : encryptBlob cipher env.nonce (secretBytes keys.sharedKeys) data = .ok blob
  size : blob.length ≤ blossomMaxBlobSize
  uploaded : ∃ server ∈ servers,
    uploadBlob env.upload server blob keys.tradeKeys = .ok prepared.blossomUrl
  announces : Announces enc prepared.outbound prepared.blossomUrl prepared.filename

theorem prepareOrderChatAttachment_ok (henc : enc.Lawful) {env : SendEnv} {path : AttachmentPath}
    {servers : List Text} {prepared : PreparedOrderChatAttachment}
    (h : prepareOrderChatAttachment enc ops secretBytes cipher env db orderId path servers =
      .ok (keys, prepared)) :
    ∃ data blob,
      Uploaded enc ops secretBytes cipher env db orderId path servers keys prepared data blob := by
  unfold prepareOrderChatAttachment at h
  obtain ⟨v, hv, h⟩ := Except.ok_of_bind h
  obtain ⟨⟨order, keys'⟩, hloaded, h⟩ := Except.ok_of_bind h
  obtain ⟨key, hkey, h⟩ := Except.ok_of_bind h
  obtain ⟨blob, hblob, h⟩ := Except.ok_of_bind h
  obtain ⟨_, hsize, h⟩ := Except.ok_of_bind h
  obtain ⟨url, hurl, h⟩ := Except.ok_of_bind h
  obtain ⟨out, hout, h⟩ := Except.ok_of_bind h
  cases h
  obtain ⟨hname, hread⟩ := validateAttachmentFile_ok hv
  obtain ⟨-, htrade, hshared⟩ := loadOrderChatKeys_ok hloaded
  -- the key of the blob is the secret of the chat
  have hkeyEq : key = secretBytes keys'.sharedKeys := by
    unfold attachmentKey orderChatDecryptionKeyBytes at hkey
    rw [htrade, hshared] at hkey
    dsimp only [Option.map_some] at hkey
    split at hkey
    · cases hkey
    · exact (Except.ok.inj hkey).symm
  refine ⟨v.data, blob, rfl, hname, hread, ⟨order, hloaded⟩, hkeyEq ▸ hblob, ?_, ?_,
    buildOutboundPayload_ok henc hout⟩
  · unfold checkBlobSize at hsize
    split at hsize
    · cases hsize
    · omega
  · unfold uploadBlobWithRetry at hurl
    split at hurl
    · cases hurl
    · obtain ⟨refused, server, rest, hservers, -, hok⟩ := uploadToAny_ok_iff.1 hurl
      exact ⟨server, by simp [hservers], hok⟩

end

/-! ## The two rows of an order -/

/-- A party's row of an order, as it is stored: with its trade keys, the other's key, and the secret
of the chat unless it was stored by an older version. -/
structure ChatOrderRow (ops : EnvelopeOps) (o : SmallOrder) (me : Keys) (row : Order) : Prop where
  tradeKeys : row.tradeKeys = some me.secretHex
  resolved : ∃ text hex, orderChatCounterpartyAndSharedHex ops.chatOps me o = some (text, hex) ∧
    row.counterpartyPubkey = some text ∧
    (row.orderChatSharedKeyHex = some hex ∨ row.orderChatSharedKeyHex = none)

section
variable {ops : EnvelopeOps} {o : SmallOrder} {buyer seller me other : Keys} {row : Order}

theorem TradeParties.parseKeys (h : TradeParties ops o buyer seller)
    (hsides : Sides buyer seller me other) : ops.parseKeys me.secretHex = some me := by
  cases hsides with
  | asBuyer => exact h.buyerKeys
  | asSeller => exact h.sellerKeys

/-- A row gives the secret that the party derives. -/
theorem TradeParties.ecdhOfOrder_row (hops : ops.Lawful) (h : TradeParties ops o buyer seller)
    (hsides : Sides buyer seller me other) (hrow : ChatOrderRow ops o me row) :
    ∃ shared, ops.derive me other.publicKey = some shared ∧
      ecdhOfOrder ops row.orderChatSharedKeyHex (row.tradeKeys.bind ops.parseKeys)
        row.counterpartyPubkey = some shared := by
  obtain ⟨text, htext, hresolve⟩ := h.resolves hsides
  obtain ⟨text', hex, hpair, hcounterparty, hstored⟩ := hrow.resolved
  rw [hresolve] at hpair
  obtain ⟨shared, hshared, hpair⟩ := Option.map_eq_some_iff.1 hpair
  cases hpair
  refine ⟨shared, hshared, ?_⟩
  unfold ecdhOfOrder
  rcases hstored with hstored | hstored
  · rw [hstored, Option.bind_some, hops.fromHex_derive hshared]
  · simp only [hstored, Option.bind_none, hrow.tradeKeys, Option.bind_some, h.parseKeys hsides,
      hcounterparty, htext, deriveSharedKeys, hshared, Option.bind_eq_bind]

/-- The keys that a job loads from it. -/
theorem TradeParties.loadOrderChatKeys_row (hops : ops.Lawful) (h : TradeParties ops o buyer seller)
    (hsides : Sides buyer seller me other) (hrow : ChatOrderRow ops o me row) {db : Db}
    {orderId : Uuid} (hdb : db orderId = some row) {order : Order} {keys : OrderChatKeys}
    (hload : loadOrderChatKeys ops db orderId = .ok (order, keys)) :
    keys.tradeKeys = me ∧ ops.derive me other.publicKey = some keys.sharedKeys := by
  obtain ⟨hdb', htrade, hshared⟩ := loadOrderChatKeys_ok hload
  rw [hdb] at hdb'
  cases hdb'
  obtain ⟨shared, hderive, hrowShared⟩ := h.ecdhOfOrder_row hops hsides hrow
  rw [htrade] at hrowShared
  rw [hshared] at hrowShared
  cases hrowShared
  rw [hrow.tradeKeys, Option.bind_some, h.parseKeys hsides] at htrade
  exact ⟨(Option.some.inj htrade).symm, hderive⟩

end

/-! ## The way of a file -/

/-- A server that is configured is reached by `https`. -/
def IsHttps (server : Text) : Prop :=
  httpsScheme.isPrefixOf (normalizeBlossomServerBase server) = true

/-- What is documented of a Blossom server: what it has accepted, it hands out under its hash, in
whatever chunks, and announces its length if it announces one. -/
def Serves (upload : UploadEnv) (get : Text → Nat → Except Text HttpResponse) : Prop :=
  ∀ base auth blob status body,
    upload.put (base ++ "/upload".toList) auth blob = .ok (true, status, body) →
    ∀ timeout, ∃ res, get (base ++ '/' :: upload.sha256Hex blob) timeout = .ok res ∧
      res.success = true ∧
      (∀ len, res.contentLength.bind parseUsize = some len → len = blob.length) ∧
      ∃ chunks : List Blob, res.chunks = chunks.map .ok ∧ blob = chunks.flatten

section
variable {upload : UploadEnv} {server url : Text} {blob : Blob} {keys : Keys}

theorem isTrimmed_append {a b : Text} (ha : IsTrimmed a) (hb : IsTrimmed b) (s : Text) :
    IsTrimmed (a ++ (s ++ b)) where
  ne_nil := by simp [ha.ne_nil]
  head := by
    rw [List.head_append_of_ne_nil ha.ne_nil]
    exact ha.head
  last := by
    have hne : s ++ b ≠ [] := by simp [hb.ne_nil]
    rw [List.getLast_append_of_ne_nil _ hne, List.getLast_append_of_ne_nil _ hb.ne_nil]
    exact hb.last

/-- The URL of an upload is trimmed and is fetched as it is. -/
theorem uploaded_url (hsha : IsWord (upload.sha256Hex blob)) (hhttps : IsHttps server)
    (h : uploadBlob upload server blob keys = .ok url) :
    trim url = url ∧ blossomUrlToHttps url = .ok url := by
  obtain ⟨rfl, -⟩ := uploadBlob_ok h
  obtain ⟨rest, hrest⟩ := List.isPrefixOf_iff_prefix.1 hhttps
  have htrim : trim (normalizeBlossomServerBase server ++ '/' :: upload.sha256Hex blob) =
      normalizeBlossomServerBase server ++ '/' :: upload.sha256Hex blob := by
    have hscheme : IsTrimmed httpsScheme := ⟨by decide, rfl, rfl⟩
    have htrimmed := isTrimmed_append hscheme hsha.isTrimmed (rest ++ ['/'])
    rw [← hrest]
    simpa using htrimmed.trim_eq
  refine ⟨htrim, ?_⟩
  unfold blossomUrlToHttps
  dsimp only
  rw [htrim, ← hrest]
  have hnotBlossom : (httpsScheme ++ rest ++ '/' :: upload.sha256Hex blob).dropPrefix?
      blossomScheme = none := rfl
  have hprefix : httpsScheme.isPrefixOf (httpsScheme ++ rest ++ '/' :: upload.sha256Hex blob) =
      true := by
    rw [List.isPrefixOf_iff_prefix, List.append_assoc]
    exact List.prefix_append _ _
  rw [hnotBlossom]
  dsimp only
  rw [if_pos hprefix]

/-- What was uploaded is downloaded. -/
theorem fetchBlob_uploaded {get : Text → Nat → Except Text HttpResponse}
    (hserves : Serves upload get) (hsize : blob.length ≤ blossomMaxBlobSize)
    (h : uploadBlob upload server blob keys = .ok url) :
    fetchBlob get url 0 blossomMaxBlobSize = .ok blob := by
  obtain ⟨rfl, auth, status, body, hput⟩ := uploadBlob_ok h
  obtain ⟨res, hget, hsuccess, hlen, hwhole⟩ := hserves _ _ _ _ _ hput (fetchTimeout 0)
  exact fetchBlob_ok_iff.2 ⟨res, hget, hsuccess, fun len h => (hlen len h).trans_le hsize, hwhole,
    hsize⟩

end

section
variable (enc : OutboundEncodings) (ops : EnvelopeOps) (secretBytes : Keys → Blob)
  (cipher : BlobCipher)

/-- How the announcement of a job comes out: with the job, or with a retry of what the job had
uploaded. -/
inductive Announced (o : SmallOrder) (me : Keys) (env : SendEnv) (db : Db) (orderId : Uuid)
    (path : AttachmentPath) (servers : List Text) (event : ChatEvent)
    (message : ChatMessage UserChatSender) : Prop
  | sent {info : Text}
      (h : sendOrderChatAttachmentFromPath enc ops secretBytes cipher env db orderId path servers =
        .ok (.sent event message info))
  | retried {prepared : PreparedOrderChatAttachment} {error info : Text} {env' : SendEnv}
      {db' : Db} {row : Order}
      (h : sendOrderChatAttachmentFromPath enc ops secretBytes cipher env db orderId path servers =
        .ok (.uploadOkSendFailed prepared error))
      (hdb : db' orderId = some row) (hrow : ChatOrderRow ops o me row)
      (hretry : sendPreparedOrderChatAttachment ops env' db' prepared = .ok (event, message, info))

variable {enc ops secretBytes cipher} {o : SmallOrder} {buyer seller me other : Keys} {env : SendEnv}
  {db : Db} {orderId : Uuid} {path : AttachmentPath} {servers : List Text} {event : ChatEvent}
  {message : ChatMessage UserChatSender} {mine : Order}

/-- Either way the job's upload is over, and the event was sent with the two parties' keys. -/
theorem Announced.uploaded (hops : ops.Lawful) (henc : enc.Lawful)
    (h : TradeParties ops o buyer seller) (hsides : Sides buyer seller me other)
    (hdb : db orderId = some mine) (hmine : ChatOrderRow ops o me mine)
    (hannounced : Announced enc ops secretBytes cipher o me env db orderId path servers event
      message) :
    ∃ keys prepared data blob stamp now,
      Uploaded enc ops secretBytes cipher env db orderId path servers keys prepared data blob ∧
      ops.derive me other.publicKey = some keys.sharedKeys ∧
      sendChatMessageViaSharedKey ops stamp me keys.sharedKeys
        (String.ofList prepared.outbound.jsonBody) = .ok event ∧
      message = localMessageFromPrepared prepared now := by
  cases hannounced with
  | sent hsent =>
    obtain ⟨keys, prepared, hprepare, ⟨event, info, ha, hsend⟩ | ⟨e, ha⟩⟩ :=
      sendOrderChatAttachmentFromPath_ok hsent
    · cases ha
      obtain ⟨data, blob, huploaded⟩ := prepareOrderChatAttachment_ok henc hprepare
      obtain ⟨order, hload⟩ := huploaded.loaded
      obtain ⟨hme, hshared⟩ := h.loadOrderChatKeys_row hops hsides hmine hdb hload
      obtain ⟨i, -, -, hevent⟩ := sendPreparedWithRetries_ok hsend
      exact ⟨keys, prepared, data, blob, _, env.now, huploaded, hshared, hme ▸ hevent, rfl⟩
    · cases ha
  | @retried prepared error info env' db' row hfailed hdb' hrow hretry =>
    obtain ⟨keys, prepared', hprepare, ⟨_, _, ha, -⟩ | ⟨e, ha⟩⟩ :=
      sendOrderChatAttachmentFromPath_ok hfailed
    · cases ha
    cases ha
    obtain ⟨data, blob, huploaded⟩ := prepareOrderChatAttachment_ok henc hprepare
    obtain ⟨order, hload⟩ := huploaded.loaded
    obtain ⟨-, hshared⟩ := h.loadOrderChatKeys_row hops hsides hmine hdb hload
    -- the retry loads the keys again, from the row as it is then
    unfold sendPreparedOrderChatAttachment at hretry
    obtain ⟨⟨order', keys'⟩, hload', hretry⟩ := Except.ok_of_bind hretry
    obtain ⟨sent, hsend, hretry⟩ := Except.ok_of_bind hretry
    cases hretry
    rw [huploaded.orderId_eq] at hload'
    obtain ⟨hme, hshared'⟩ := h.loadOrderChatKeys_row hops hsides hrow hdb' hload'
    have hkeys : keys'.sharedKeys = keys.sharedKeys := by
      rw [hshared] at hshared'
      exact (Option.some.inj hshared').symm
    obtain ⟨i, -, -, hevent⟩ := sendPreparedWithRetries_ok (Except.ok_of_mapError hsend)
    rw [hme, hkeys] at hevent
    exact ⟨keys, prepared, data, blob, _, env'.now, huploaded, hshared, hevent, rfl⟩

/-- An attachment arrives. Where a party of an order announces a file, with the job that uploaded it
or later, the other party, who holds the same secret, reads the announcement as that party's, shows
the same line for it, and saves the file as it was read, under its name, with the key that its own
row of the order gives. -/
theorem attachment_delivered (hops : ops.Lawful) (hcipher : cipher.Lawful) (henc : enc.Lawful)
    (h : TradeParties ops o buyer seller) (hsides : Sides buyer seller me other)
    (hdb : db orderId = some mine) (hmine : ChatOrderRow ops o me mine) {theirs : Order}
    (htheirs : ChatOrderRow ops o other theirs)
    (hsha : ∀ blob, IsWord (env.upload.sha256Hex blob)) (hhttps : ∀ s ∈ servers, IsHttps s)
    (hannounced : Announced enc ops secretBytes cipher o me env db orderId path servers event
      message) :
    ∃ data filename body attachment sentAt id shared,
      path.read = .ok data ∧ path.fileName = some filename ∧
      ecdhOfOrder ops theirs.orderChatSharedKeyHex (theirs.tradeKeys.bind ops.parseKeys)
        theirs.counterpartyPubkey = some shared ∧
      (∀ allowedSigners acceptLegacy now, me.publicKey ∈ allowedSigners → sentAt ≤ now →
        unwrapChatEnvelope ops shared event allowedSigners acceptLegacy now =
          .ok ⟨me.publicKey, String.ofList body, sentAt, id⟩) ∧
      tryParseAttachmentMessage enc.toEncodings body = some (attachment, message.content) ∧
      message.attachment = some attachment ∧ attachment.filename = filename ∧
      ∀ (saveEnv : SaveEnv) (fileId : Text), Serves env.upload saveEnv.get →
        saveEnv.homeDir.isSome → saveEnv.createDirAll = .ok () →
        (∀ file, saveEnv.write file = .ok ()) →
        ∃ file, saveAttachmentToDisk cipher saveEnv fileId attachment.blossomUrl
            attachment.filename
            (attachment.decryptionKey.or (orderChatDecryptionKeyBytes ops secretBytes theirs)) =
              .ok file ∧
          file.bytes = data ∧ file.name = fileId ++ '_' :: sanitizeFilename filename := by
  obtain ⟨keys, prepared, data, blob, stamp, now, huploaded, hshared, hsend, rfl⟩ :=
    hannounced.uploaded hops henc h hsides hdb hmine
  obtain ⟨server, hserver, hupload⟩ := huploaded.uploaded
  obtain ⟨shared, hderive, htheirShared⟩ := h.ecdhOfOrder_row hops hsides.swap htheirs
  have hsame : shared = keys.sharedKeys := by
    rw [← h.derive_eq hops hsides, hshared] at hderive
    exact (Option.some.inj hderive).symm
  subst hsame
  obtain ⟨id, hopens⟩ := unwrap_of_send hops hsend
  have hannounces := huploaded.announces
  have hbody : trim (String.ofList prepared.outbound.jsonBody).toList =
      prepared.outbound.jsonBody := by
    rw [String.toList_ofList]
    exact hannounces.isLine.toIsTrimmed.trim_eq
  rw [hbody] at hopens
  obtain ⟨htrim, hhttpsUrl⟩ := uploaded_url (hsha blob) (hhttps server hserver) hupload
  have hdecrypt := (decryptBlob_encryptBlob hcipher huploaded.encrypted).1
  refine ⟨data, prepared.filename, prepared.outbound.jsonBody, prepared.outbound.attachment,
    stamp.now, id, keys.sharedKeys, huploaded.read, huploaded.fileName, htheirShared, hopens,
    hannounces.parsed, rfl, hannounces.filename,
    fun saveEnv fileId hserves hhome hcreate hwrite => ?_⟩
  have hfetch := fetchBlob_uploaded hserves huploaded.size hupload
  obtain ⟨home, hhome⟩ := Option.isSome_iff_exists.1 hhome
  have hkey : prepared.outbound.attachment.decryptionKey.or
      (orderChatDecryptionKeyBytes ops secretBytes theirs) =
        some (secretBytes keys.sharedKeys) := by
    rw [hannounces.key, Option.none_or, orderChatDecryptionKeyBytes, htheirShared, Option.map_some]
  refine ⟨⟨[home, ".mostrix".toList, "downloads".toList],
    fileId ++ '_' :: sanitizeFilename prepared.filename, data⟩, ?_, rfl, rfl⟩
  unfold saveAttachmentToDisk
  rw [hkey, hannounces.url, htrim, htrim, hhttpsUrl, hannounces.filename]
  simp only [bind, Except.bind, hfetch, openBlob, hdecrypt, hhome, hcreate, hwrite,
    Except.mapError, Option.isSome_some, if_true, pure, Except.pure]

end

/-! ## A document of the two -/

/-- The encodings of `Json` and `Wire`. -/
def jsonOutboundEncodings : OutboundEncodings where
  objectToString := fun fields => Json.writeMembers (fields.map fun f => (f.1, .string f.2))
  objectFromStr := fun t =>
    (Json.readMembers t).map fun fields key => (fields.lookup key).bind Json.Value.asStr
  base64Encode := Wire.base64Encode
  base64Decode := Wire.base64Decode
  objectToString_isLine := fun _ => Json.writeMembers_isLine _
  outboundToString := Json.writeMembers
  outboundToString_isLine := Json.writeMembers_isLine

theorem jsonOutboundEncodings_lawful : jsonOutboundEncodings.Lawful where
  objectFromStr_outboundToString := fun fields _ => by
    simp [jsonOutboundEncodings, Json.readMembers_writeMembers]
  outboundToString_head := fun _ => rfl

/-- A short document. -/
def notePath : AttachmentPath where
  fileName := some "note.pdf".toList
  display := "/home/b/note.pdf".toList
  read := .ok [0x25, 0x50, 0x44, 0x46, 0x2D, 0x31]

/-- Its blob. -/
def noteBlob : Blob :=
  List.replicate 12 7 ++ ([0x25, 0x50, 0x44, 0x46, 0x2D, 0x31] ++ List.replicate 16 0)

/-- Servers and relays that take it. -/
def noteEnv : SendEnv where
  upload :=
    { sha256Hex := fun _ => "abc".toList
      authHeader := fun _ _ => .ok "Nostr x".toList
      put := fun _ _ blob =>
        if blob = noteBlob then .ok (true, "200 OK".toList, []) else .error "refused".toList }
  nonce := ⟨List.replicate 12 7, rfl⟩
  attempts := fun _ => ⟨⟨1000000, 0⟩, .ok ()⟩
  now := 1000000

/-- The rows of the two parties; the seller's has no stored secret. -/
def buyerRow : Order :=
  { id := 1, isMine := true, tradeKeys := some "b", counterpartyPubkey := some "S",
    orderChatSharedKeyHex := some "bs" }

def sellerRow : Order :=
  { id := 1, isMine := false, tradeKeys := some "s", counterpartyPubkey := some "B" }

def pairDb : Db := fun id => if id = 1 then some buyerRow else none

theorem buyerRow_holds : ChatOrderRow pairOps pairOrder ⟨"b", "B"⟩ buyerRow :=
  ⟨rfl, "S", "bs", rfl, rfl, .inl rfl⟩

theorem sellerRow_holds : ChatOrderRow pairOps pairOrder ⟨"s", "S"⟩ sellerRow :=
  ⟨rfl, "B", "bs", rfl, rfl, .inr rfl⟩

/-- The steps of a job make up the job. -/
theorem sendFromPath_of_steps {enc : OutboundEncodings} {ops : EnvelopeOps}
    {secretBytes : Keys → Blob} {cipher : BlobCipher} {env : SendEnv} {db : Db} {orderId : Uuid}
    {path : AttachmentPath} {servers : List Text} {v : ValidatedAttachment} {order : Order}
    {keys : OrderChatKeys} {key blob : Blob} {url : Text} {out : OutboundAttachmentPayload}
    {event : ChatEvent} (hvalid : validateAttachmentFile path = .ok v)
    (hload : loadOrderChatKeys ops db orderId = .ok (order, keys))
    (hkey : attachmentKey ops secretBytes order = .ok key)
    (hblob : encryptBlob cipher env.nonce key v.data = .ok blob)
    (hsize : checkBlobSize blob = .ok ())
    (hupload : uploadBlobWithRetry env.upload servers blob keys.tradeKeys = .ok url)
    (hout : buildOutboundPayload enc v url blob = .ok out)
    (hevent : sendPreparedWithRetries ops env.attempts keys out.jsonBody = .ok event) :
    ∃ message info,
      sendOrderChatAttachmentFromPath enc ops secretBytes cipher env db orderId path servers =
        .ok (.sent event message info) := by
  unfold sendOrderChatAttachmentFromPath prepareOrderChatAttachment
  simp only [hvalid, hload, hkey, hblob, hsize, hupload, hout, hevent, bind, Except.bind]
  exact ⟨_, _, rfl⟩

/-- The job of the document is over with its message sent. -/
theorem note_sent :
    ∃ event message info, sendOrderChatAttachmentFromPath jsonOutboundEncodings pairOps
      (fun _ => List.replicate 32 7) taggingCipher noteEnv pairDb 1 notePath
      defaultBlossomServers = .ok (.sent event message info) := by
  have hvalid : validateAttachmentFile notePath = .ok
      ⟨[0x25, 0x50, 0x44, 0x46, 0x2D, 0x31], "note.pdf".toList, "application/pdf".toList, .document,
        0, 0⟩ := rfl
  have hload : loadOrderChatKeys pairOps pairDb 1 =
      .ok (buyerRow, ⟨⟨"b", "B"⟩, ⟨"bs", "BS"⟩⟩) := rfl
  have hkey : attachmentKey pairOps (fun _ => List.replicate 32 7) buyerRow =
      .ok (List.replicate 32 7) := rfl
  have hblob : encryptBlob taggingCipher noteEnv.nonce (List.replicate 32 7)
      [0x25, 0x50, 0x44, 0x46, 0x2D, 0x31] = .ok noteBlob := rfl
  have hsize : checkBlobSize noteBlob = .ok () := rfl
  have hupload : uploadBlobWithRetry noteEnv.upload defaultBlossomServers noteBlob ⟨"b", "B"⟩ =
      .ok "https://blossom.primal.net/abc".toList := rfl
  have hbuilt : (buildOutboundPayload jsonOutboundEncodings
      ⟨[0x25, 0x50, 0x44, 0x46, 0x2D, 0x31], "note.pdf".toList, "application/pdf".toList, .document,
        0, 0⟩ "https://blossom.primal.net/abc".toList noteBlob).isOk = true := by decide +kernel
  obtain ⟨out, hout⟩ := Except.isOk_iff.1 hbuilt
  have hannounces := buildOutboundPayload_ok jsonOutboundEncodings_lawful hout
  have hbody : ¬ String.ofList (trim (String.ofList out.jsonBody).toList) = "" := by
    rw [String.toList_ofList, hannounces.isLine.toIsTrimmed.trim_eq]
    intro hempty
    exact hannounces.isLine.toIsTrimmed.ne_nil (String.ofList_injective hempty)
  have hsend : ∃ event, sendPreparedWithRetries pairOps noteEnv.attempts
      ⟨⟨"b", "B"⟩, ⟨"bs", "BS"⟩⟩ out.jsonBody = .ok event := by
    unfold sendPreparedWithRetries chatSendRetryAttempts sendFromAttempt sendChatMessageViaSharedKey
    simp only [hbody, if_false]
    exact ⟨_, rfl⟩
  obtain ⟨event, hevent⟩ := hsend
  obtain ⟨message, info, hjob⟩ :=
    sendFromPath_of_steps hvalid hload hkey hblob hsize hupload hout hevent
  exact ⟨event, message, info, hjob⟩

/-- The seller saves the buyer's document. -/
theorem attachment_delivered_note :
    ∃ attachment : SaveableAttachment, ∀ saveEnv : SaveEnv, Serves noteEnv.upload saveEnv.get →
      saveEnv.homeDir.isSome → saveEnv.createDirAll = .ok () →
      (∀ file, saveEnv.write file = .ok ()) →
      ∃ file, saveAttachmentToDisk taggingCipher saveEnv "1".toList attachment.blossomUrl
          attachment.filename
          (attachment.decryptionKey.or
            (orderChatDecryptionKeyBytes pairOps (fun _ => List.replicate 32 7) sellerRow)) =
            .ok file ∧
        notePath.read = .ok file.bytes ∧ file.name = "1_note.pdf".toList := by
  obtain ⟨event, message, info, hjob⟩ := note_sent
  have hhttps : ∀ s ∈ defaultBlossomServers, IsHttps s := by
    unfold IsHttps
    decide
  have hword : IsWord "abc".toList :=
    ⟨by decide, fun c hc => by
      have hall : ("abc".toList.all fun c => !isWhitespace c) = true := rfl
      simpa using List.all_eq_true.1 hall c hc⟩
  obtain ⟨data, filename, body, attachment, sentAt, id, shared, hread, hname, -, -, -, -, -,
    hsave⟩ := attachment_delivered pairOps_lawful taggingCipher_lawful jsonOutboundEncodings_lawful
      pairOrder_parties .asBuyer rfl buyerRow_holds sellerRow_holds
      (fun _ => hword) hhttps (.sent hjob)
  cases hname
  refine ⟨attachment, fun saveEnv hserves hhome hcreate hwrite => ?_⟩
  obtain ⟨file, hfile, hbytes, hfileName⟩ := hsave saveEnv "1".toList hserves hhome hcreate hwrite
  exact ⟨file, hfile, hbytes ▸ hread, hfileName⟩

end Mostrix.Chat
