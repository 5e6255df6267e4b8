import Mostrix.Library.Chunks
import Mostrix.Library.Except
import Mostrix.Library.Text
import Mostrix.Protocol.Message

/-!
# Blobs on a Blossom server

`util/blossom.rs`: an attachment is encrypted, put on a Blossom server under its hash, and fetched
from there by whoever was told its URL. The URL and the file name come from the peer, and the blob
from a server that the peer chose.

`fetch_blob_bounded` says that a download holds no more than its bound at any time and succeeds
exactly with a whole body within it; `save_attachment_confined` that a file is written to the
downloads directory only, under a name that no file name can lead elsewhere or to another order's
file, and that where there is a key it holds what was encrypted with it.

HTTP, the cipher, the hash and the signature of the upload are parameters.
-/

namespace Mostrix.Chat

open Text Chunks

/-- Bytes of a file or a blob. -/
abbrev Blob := List UInt8

/-- `BLOSSOM_MAX_BLOB_SIZE`: 25 MB. -/
def blossomMaxBlobSize : Nat := 25 * 1024 * 1024

/-- `BLOSSOM_FETCH_TIMEOUT_SECS`. -/
def blossomFetchTimeoutSecs : Nat := 30

def blossomScheme : Text := "blossom://".toList

def httpsScheme : Text := "https://".toList

/-- The text of a number. -/
def numberText (n : Nat) : Text := (Nat.repr n).toList

/-- `blossom_url_to_https`. -/
def blossomUrlToHttps (url : Text) : Except Text Text :=
  let url := trim url
  match url.dropPrefix? blossomScheme with
  | some stripped => .ok (httpsScheme ++ stripped)
  | none =>
    if httpsScheme.isPrefixOf url then .ok url
    else .error ("Blossom URL must start with blossom:// or https://, got: ".toList ++ url)

/-! ## Downloading -/

/-- `str::parse::<usize>`. -/
def parseUsize (t : Text) : Option Nat :=
  let digits := match t with
    | '+' :: ds => ds
    | ds => ds
  if digits ≠ [] ∧ digits.all Char.isDigit then
    let n := digits.foldl (fun n d => 10 * n + (d.toNat - '0'.toNat)) 0
    if n < UInt64.size then some n else none
  else none

/-- A response to a GET: its status, the `Content-Length` if it is text, and its chunks. -/
structure HttpResponse where
  success : Bool
  status : Text
  contentLength : Option Text
  chunks : List (Except Text Blob)

/-- `fetch_blob`; `get` is what a URL answers within so many seconds. -/
def fetchBlob (get : Text → Nat → Except Text HttpResponse) (url : Text) (timeoutSecs maxBytes : Nat) :
    Except Text Blob :=
  let timeout := if timeoutSecs = 0 then blossomFetchTimeoutSecs else timeoutSecs
  match get url timeout with
  | .error e => .error ("Blossom fetch failed: ".toList ++ e)
  | .ok res =>
    if !res.success then .error ("Blossom fetch returned status: ".toList ++ res.status)
    else
      match (res.contentLength.bind parseUsize).filter (maxBytes < ·) with
      | some len =>
        .error ("Blossom blob too large: ".toList ++ numberText len ++ " bytes (max ".toList ++
          numberText maxBytes ++ ")".toList)
      | none =>
        match readChunks maxBytes [] res.chunks with
        | .ok body => .ok body
        | .error (.failed e) => .error ("Blossom read body failed: ".toList ++ e)
        | .error (.tooLarge downloaded) =>
          .error ("Blossom blob too large while streaming: ".toList ++ numberText downloaded ++
            " bytes (max ".toList ++ numberText maxBytes ++ ")".toList)

/-! ## Encrypting -/

/-- The cipher: `ChaCha20Poly1305`, for a key, a nonce and a text. -/
structure BlobCipher where
  encrypt : Blob → Blob → Blob → Option Blob
  decrypt : Blob → Blob → Blob → Option Blob

/-- What is documented of it: it undoes itself, and a tag of 16 bytes comes with the text. -/
structure BlobCipher.Lawful (cipher : BlobCipher) : Prop where
  decrypt_encrypt : ∀ {key nonce plaintext ciphertext : Blob},
    cipher.encrypt key nonce plaintext = some ciphertext →
    cipher.decrypt key nonce ciphertext = some plaintext
  length_encrypt : ∀ {key nonce plaintext ciphertext : Blob},
    cipher.encrypt key nonce plaintext = some ciphertext →
    ciphertext.length = plaintext.length + 16

variable (cipher : BlobCipher)

/-- `decrypt_blob`. -/
def decryptBlob (key blob : Blob) : Except Text Blob :=
  if key.length ≠ 32 then
    .error ("decrypt key must be 32 bytes, got ".toList ++ numberText key.length)
  else if blob.length < 12 + 16 then
    .error ("blob too short for nonce+tag (need at least 28 bytes, got ".toList ++
      numberText blob.length ++ ")".toList)
  else
    match cipher.decrypt key (blob.take 12) (blob.drop 12) with
    | none => .error "decrypt failed".toList
    | some plaintext => .ok plaintext

/-- A nonce, as `Nonce::generate` draws it. -/
structure BlobNonce where
  bytes : Blob
  length_eq : bytes.length = 12
deriving DecidableEq

/-- `encrypt_blob`, with the nonce it draws. -/
def encryptBlob (nonce : BlobNonce) (key plaintext : Blob) : Except Text Blob :=
  if key.length ≠ 32 then
    .error ("encrypt key must be 32 bytes, got ".toList ++ numberText key.length)
  else
    match cipher.encrypt key nonce.bytes plaintext with
    | none => .error "encrypt failed".toList
    | some ciphertext => .ok (nonce.bytes ++ ciphertext)

/-! ## Uploading -/

/-- `normalize_blossom_server_base`. -/
def normalizeBlossomServerBase (server : Text) : Text := (trim server).rdropWhile (· = '/')

/-- What an upload uses from outside. -/
structure UploadEnv where
  /-- `sha256_hex` -/
  sha256Hex : Blob → Text
  /-- `blossom_upload_auth_header`, for a hash and the keys that sign -/
  authHeader : Text → Keys → Except Text Text
  /-- a PUT to a URL with an authorization: whether the status is a success, the status and the
  body -/
  put : Text → Text → Blob → Except Text (Bool × Text × Text)

variable (env : UploadEnv)

/-- `upload_blob`. -/
def uploadBlob (serverBase : Text) (blob : Blob) (authKeys : Keys) : Except Text Text :=
  let base := normalizeBlossomServerBase serverBase
  if base = [] then .error "empty Blossom server URL".toList
  else
    let hashHex := env.sha256Hex blob
    match env.authHeader hashHex authKeys with
    | .error e => .error e
    | .ok auth =>
      match env.put (base ++ "/upload".toList) auth blob with
      | .error e => .error ("Blossom upload failed: ".toList ++ e)
      | .ok (success, status, body) =>
        if !success then
          .error ("Blossom upload returned ".toList ++ status ++ ": ".toList ++ body)
        else .ok (base ++ '/' :: hashHex)

/-- The loop of `upload_blob_with_retry`, with the last error. -/
def uploadToAny (blob : Blob) (authKeys : Keys) (lastErr : Text) : List Text → Except Text Text
  | [] => .error lastErr
  | server :: servers =>
    match uploadBlob env server blob authKeys with
    | .ok url => .ok url
    | .error e => uploadToAny blob authKeys e servers

/-- `upload_blob_with_retry`. -/
def uploadBlobWithRetry (servers : List Text) (blob : Blob) (authKeys : Keys) : Except Text Text :=
  if servers.isEmpty then .error "no Blossom servers configured".toList
  else uploadToAny env blob authKeys "no upload attempt".toList servers

/-! ## Saving -/

/-- A character that a file name keeps. -/
def isFilenameChar (c : Char) : Bool := c.isAlphanum || c = '.' || c = '_' || c = '-'

/-- `sanitize_filename`. -/
def sanitizeFilename (name : Text) : Text :=
  let s := name.map fun c => if isFilenameChar c then c else '_'
  if s = [] then "attachment".toList else s

/-- A file: the components of its directory, its name and its bytes. -/
structure SavedFile where
  dir : List Text
  name : Text
  bytes : Blob
deriving DecidableEq

/-- What saving uses from outside. -/
structure SaveEnv where
  get : Text → Nat → Except Text HttpResponse
  homeDir : Option Text
  createDirAll : Except Text Unit
  write : SavedFile → Except Text Unit

/-- The bytes of a blob that are saved: decrypted where there is a key. -/
def openBlob (decryptionKey : Option Blob) (blob : Blob) : Except Text Blob :=
  match decryptionKey with
  | some key => decryptBlob cipher key blob
  | none => .ok blob

/-- `save_attachment_to_disk`: the file that is written. -/
def saveAttachmentToDisk (env : SaveEnv) (disputeId blossomUrl filename : Text)
    (decryptionKey : Option Blob) : Except Text SavedFile := do
  let url ← blossomUrlToHttps (trim blossomUrl)
  let blob ← fetchBlob env.get url 0 blossomMaxBlobSize
  let bytes ← openBlob cipher decryptionKey blob
  let sanitized := sanitizeFilename filename
  let finalName := if decryptionKey.isSome then sanitized else sanitized ++ ".enc".toList
  match env.homeDir with
  | none => .error "No home directory".toList
  | some home =>
    let dir := [home, ".mostrix".toList, "downloads".toList]
    env.createDirAll.mapError ("Create downloads dir: ".toList ++ ·)
    let file : SavedFile := ⟨dir, disputeId ++ '_' :: finalName, bytes⟩
    (env.write file).mapError ("Write file: ".toList ++ ·)
    pure file

/-! ## What a download holds -/

/-- The seconds a download asks for. -/
def fetchTimeout (timeoutSecs : Nat) : Nat :=
  if timeoutSecs = 0 then blossomFetchTimeoutSecs else timeoutSecs

/-- A body that a response may have under a bound: whole, and announced with no more. -/
structure WholeBody (maxBytes : Nat) (res : HttpResponse) (body : Blob) : Prop where
  success : res.success = true
  announced : ∀ len, res.contentLength.bind parseUsize = some len → len ≤ maxBytes
  whole : ∃ chunks : List Blob, res.chunks = chunks.map .ok ∧ body = chunks.flatten
  bounded : body.length ≤ maxBytes

section
variable {get : Text → Nat → Except Text HttpResponse} {url : Text} {timeoutSecs maxBytes : Nat}

theorem fetchBlob_ok_iff {body : Blob} :
    fetchBlob get url timeoutSecs maxBytes = .ok body ↔
      ∃ res, get url (fetchTimeout timeoutSecs) = .ok res ∧ WholeBody maxBytes res body := by
  unfold fetchBlob fetchTimeout
  dsimp only
  cases hget : get url (if timeoutSecs = 0 then blossomFetchTimeoutSecs else timeoutSecs) with
  | error e => exact iff_of_false nofun nofun
  | ok res =>
    dsimp only
    have hres : (∃ r, (Except.ok res : Except Text HttpResponse) = .ok r ∧ WholeBody maxBytes r body) ↔
        WholeBody maxBytes res body :=
      ⟨fun ⟨r, hr, h⟩ => by cases hr; exact h, fun h => ⟨res, rfl, h⟩⟩
    rw [hres]
    cases hsuccess : res.success with
    | false => exact iff_of_false nofun fun h => by simpa [hsuccess] using h.success
    | true =>
      simp only [Bool.not_true, Bool.false_eq_true, if_false]
      cases hlen : (res.contentLength.bind parseUsize).filter (maxBytes < ·) with
      | some len =>
        obtain ⟨hparsed, hlarge⟩ := Option.filter_eq_some_iff.1 hlen
        refine iff_of_false nofun fun h => ?_
        have hsmall := h.announced len hparsed
        simp only [decide_eq_true_eq] at hlarge
        omega
      | none =>
        have hannounced : ∀ len, res.contentLength.bind parseUsize = some len → len ≤ maxBytes := by
          intro len hparsed
          rw [hparsed] at hlen
          simpa using hlen
        dsimp only
        cases hread : readChunks maxBytes [] res.chunks with
        | ok b =>
          obtain ⟨chunks, hchunks, hb, hbounded⟩ := (readChunks_ok_iff (Nat.zero_le _)).1 hread
          constructor
          · intro h
            cases h
            exact ⟨hsuccess, hannounced, ⟨chunks, hchunks, hb⟩, hbounded⟩
          · intro h
            have hwhole : readChunks maxBytes [] res.chunks = .ok body :=
              (readChunks_ok_iff (Nat.zero_le _)).2
                (h.whole.imp fun cs hcs => ⟨hcs.1, hcs.2, h.bounded⟩)
            rw [hread] at hwhole
            cases hwhole
            rfl
        | error fault =>
          refine iff_of_false (by cases fault <;> nofun) fun h => ?_
          have hwhole : readChunks maxBytes [] res.chunks = .ok body :=
            (readChunks_ok_iff (Nat.zero_le _)).2
              (h.whole.imp fun cs hcs => ⟨hcs.1, hcs.2, h.bounded⟩)
          rw [hread] at hwhole
          cases hwhole

/-- A download under a bound: it succeeds exactly with a whole body within the bound; whatever has
come at any time, no more than the bound is held; and where more comes, nothing after that is
looked at. -/
theorem fetch_blob_bounded (get : Text → Nat → Except Text HttpResponse) (url : Text)
    (timeoutSecs maxBytes : Nat) :
    (∀ body, fetchBlob get url timeoutSecs maxBytes = .ok body ↔
      ∃ res, get url (fetchTimeout timeoutSecs) = .ok res ∧ WholeBody maxBytes res body) ∧
    (∀ res n held, get url (fetchTimeout timeoutSecs) = .ok res →
      readChunks maxBytes [] (res.chunks.take n) = .ok held → held.length ≤ maxBytes) ∧
    ∀ (get' : Text → Nat → Except Text HttpResponse) (res : HttpResponse) (chunks : List Blob)
      (chunk : Blob) (rest rest' : List (Except Text Blob)),
      maxBytes < chunks.flatten.length + chunk.length →
      get url (fetchTimeout timeoutSecs) =
        .ok { res with chunks := chunks.map .ok ++ .ok chunk :: rest } →
      get' url (fetchTimeout timeoutSecs) =
        .ok { res with chunks := chunks.map .ok ++ .ok chunk :: rest' } →
      fetchBlob get url timeoutSecs maxBytes = fetchBlob get' url timeoutSecs maxBytes := by
  refine ⟨fun body => fetchBlob_ok_iff, fun res n held _ h => readChunks_take (Nat.zero_le _) h, ?_⟩
  intro get' res chunks chunk rest rest' hlarge hget hget'
  have hread : readChunks maxBytes [] (chunks.map .ok ++ .ok chunk :: rest) =
      readChunks maxBytes [] (chunks.map .ok ++ .ok chunk :: rest') :=
    readChunks_of_tooLarge (by simpa using hlarge) rest rest'
  unfold fetchTimeout at hget hget'
  unfold fetchBlob
  dsimp only
  rw [hget, hget']
  dsimp only
  rw [hread]

end

/-! ## What is decrypted -/

/-- A blob that was encrypted is decrypted with the same key; it has its nonce in front and is 28
bytes longer. -/
theorem decryptBlob_encryptBlob {cipher : BlobCipher} (hcipher : cipher.Lawful) {nonce : BlobNonce}
    {key plaintext blob : Blob} (h : encryptBlob cipher nonce key plaintext = .ok blob) :
    decryptBlob cipher key blob = .ok plaintext ∧ blob.length = plaintext.length + 28 ∧
      blob.take 12 = nonce.bytes := by
  unfold encryptBlob at h
  split at h
  · cases h
  next hkey =>
    split at h
    · cases h
    next ciphertext hencrypt =>
      cases h
      have hlength := hcipher.length_encrypt hencrypt
      have hnonce := nonce.length_eq
      have htake : (nonce.bytes ++ ciphertext).take 12 = nonce.bytes := by
        rw [← hnonce, List.take_left]
      have hdrop : (nonce.bytes ++ ciphertext).drop 12 = ciphertext := by
        rw [← hnonce, List.drop_left]
      have hblob : (nonce.bytes ++ ciphertext).length = plaintext.length + 28 := by
        rw [List.length_append]
        omega
      refine ⟨?_, hblob, htake⟩
      unfold decryptBlob
      rw [if_neg hkey, if_neg (by omega), htake, hdrop, hcipher.decrypt_encrypt hencrypt]

/-! ## Where a blob is put -/

/-- An upload that is accepted gives the URL of the blob's hash on one of the servers. -/
theorem uploadBlob_ok {env : UploadEnv} {server url : Text} {blob : Blob} {keys : Keys}
    (h : uploadBlob env server blob keys = .ok url) :
    url = normalizeBlossomServerBase server ++ '/' :: env.sha256Hex blob ∧
      ∃ auth status body, env.put (normalizeBlossomServerBase server ++ "/upload".toList) auth blob =
        .ok (true, status, body) := by
  unfold uploadBlob at h
  dsimp only at h
  split at h
  · cases h
  · split at h
    · cases h
    · split at h
      · cases h
      next success status body hput =>
        split at h
        · cases h
        next hsuccess =>
          cases h
          have htrue : success = true := by simpa using hsuccess
          exact ⟨rfl, _, status, body, htrue ▸ hput⟩

/-- The servers are tried in order up to the first that accepts. -/
theorem uploadToAny_ok_iff {env : UploadEnv} {servers : List Text} {url : Text} {blob : Blob}
    {keys : Keys} {lastErr : Text} :
    uploadToAny env blob keys lastErr servers = .ok url ↔
      ∃ refused server rest, servers = refused ++ server :: rest ∧
        (∀ s ∈ refused, ∃ e, uploadBlob env s blob keys = .error e) ∧
        uploadBlob env server blob keys = .ok url := by
  induction servers generalizing lastErr with
  | nil =>
    refine iff_of_false nofun ?_
    rintro ⟨refused, server, rest, h, -⟩
    simp at h
  | cons first servers ih =>
    unfold uploadToAny
    cases hfirst : uploadBlob env first blob keys with
    | ok url' =>
      constructor
      · intro h
        cases h
        exact ⟨[], first, servers, rfl, nofun, hfirst⟩
      · rintro ⟨refused, server, rest, hservers, hrefused, hok⟩
        cases refused with
        | nil =>
          cases hservers
          rw [hok] at hfirst
          cases hfirst
          rfl
        | cons s refused =>
          cases hservers
          obtain ⟨e, he⟩ := hrefused first (.head _)
          rw [hfirst] at he
          cases he
    | error e =>
      dsimp only
      rw [ih]
      constructor
      · rintro ⟨refused, server, rest, rfl, hrefused, hok⟩
        refine ⟨first :: refused, server, rest, rfl, ?_, hok⟩
        exact List.forall_mem_cons.2 ⟨⟨e, hfirst⟩, hrefused⟩
      · rintro ⟨refused, server, rest, hservers, hrefused, hok⟩
        cases refused with
        | nil =>
          cases hservers
          rw [hok] at hfirst
          cases hfirst
        | cons s refused =>
          cases hservers
          exact ⟨refused, server, rest, rfl, (List.forall_mem_cons.1 hrefused).2, hok⟩

/-! ## Where a file is saved -/

/-- One component of a path. -/
structure IsComponent (name : Text) : Prop where
  ne_nil : name ≠ []
  noSlash : '/' ∉ name
  notSelf : name ≠ ['.']
  notParent : name ≠ ['.', '.']

theorem isFilenameChar_sanitizeFilename (name : Text) :
    ∀ c ∈ sanitizeFilename name, isFilenameChar c = true := by
  unfold sanitizeFilename
  dsimp only
  split
  · intro c hc
    have hall : "attachment".toList.all isFilenameChar = true := by decide
    exact List.all_eq_true.1 hall c hc
  · intro c hc
    obtain ⟨d, -, rfl⟩ := List.mem_map.1 hc
    split
    next h => exact h
    next => rfl

/-- What a successful save has done. -/
theorem saveAttachmentToDisk_ok {cipher : BlobCipher} {env : SaveEnv}
    {id blossomUrl filename : Text} {key : Option Blob} {file : SavedFile}
    (h : saveAttachmentToDisk cipher env id blossomUrl filename key = .ok file) :
    ∃ url blob home safe, blossomUrlToHttps (trim blossomUrl) = .ok url ∧
      fetchBlob env.get url 0 blossomMaxBlobSize = .ok blob ∧ env.homeDir = some home ∧
      file.dir = [home, ".mostrix".toList, "downloads".toList] ∧
      file.name = id ++ '_' :: safe ∧ (∀ c ∈ safe, isFilenameChar c = true) ∧
      openBlob cipher key blob = .ok file.bytes := by
  have hsafe := isFilenameChar_sanitizeFilename filename
  unfold saveAttachmentToDisk at h
  obtain ⟨url, hurl, h⟩ := Except.ok_of_bind h
  obtain ⟨blob, hblob, h⟩ := Except.ok_of_bind h
  obtain ⟨bytes, hbytes, h⟩ := Except.ok_of_bind h
  dsimp only at h
  split at h
  · cases h
  next home hhome =>
    obtain ⟨-, -, h⟩ := Except.ok_of_bind h
    obtain ⟨-, -, h⟩ := Except.ok_of_bind h
    cases h
    refine ⟨url, blob, home, _, hurl, hblob, hhome, rfl, rfl, ?_, hbytes⟩
    cases key with
    | some key => exact hsafe
    | none =>
      intro c hc
      rcases List.mem_append.1 hc with hc | hc
      · exact hsafe c hc
      · have hall : ".enc".toList.all isFilenameChar = true := by decide
        exact List.all_eq_true.1 hall c hc

/-- A file is saved in the downloads directory, whatever file name the peer has sent: its name is
one component, and no name of another order's or dispute's file, whose id is as long. It is what
was downloaded, and where there is a key, only what decrypts with it. -/
theorem save_attachment_confined (cipher : BlobCipher) (env : SaveEnv)
    (id blossomUrl filename : Text) (key : Option Blob) (file : SavedFile)
    (h : saveAttachmentToDisk cipher env id blossomUrl filename key = .ok file) :
    (∃ home, env.homeDir = some home ∧
      file.dir = [home, ".mostrix".toList, "downloads".toList]) ∧
    ('/' ∉ id → IsComponent file.name) ∧
    (∃ url blob, blossomUrlToHttps (trim blossomUrl) = .ok url ∧
      fetchBlob env.get url 0 blossomMaxBlobSize = .ok blob ∧
      openBlob cipher key blob = .ok file.bytes) ∧
    ∀ env' id' blossomUrl' filename' key' file', id'.length = id.length →
      saveAttachmentToDisk cipher env' id' blossomUrl' filename' key' = .ok file' →
      file'.name = file.name → id' = id := by
  obtain ⟨url, blob, home, safe, hurl, hblob, hhome, hdir, hname, hsafe, hbytes⟩ :=
    saveAttachmentToDisk_ok h
  refine ⟨⟨home, hhome, hdir⟩, fun hslash => ?_, ⟨url, blob, hurl, hblob, hbytes⟩,
    fun env' id' blossomUrl' filename' key' file' hlength h' hsame => ?_⟩
  · have hunderscore : '_' ∈ file.name := by simp [hname]
    refine ⟨List.ne_nil_of_mem hunderscore, ?_, ?_, ?_⟩
    · rw [hname]
      intro hmem
      rcases List.mem_append.1 hmem with hmem | hmem
      · exact hslash hmem
      · rcases List.mem_cons.1 hmem with hmem | hmem
        · cases hmem
        · exact absurd (hsafe '/' hmem) (by decide)
    · intro hself
      rw [hself] at hunderscore
      simp at hunderscore
    · intro hparent
      rw [hparent] at hunderscore
      simp at hunderscore
  · obtain ⟨-, -, -, safe', -, -, -, -, hname', -⟩ := saveAttachmentToDisk_ok h'
    rw [hname, hname'] at hsame
    exact (List.append_inj hsame hlength).1

/-- A cipher that only adds a tag. -/
def taggingCipher : BlobCipher where
  encrypt := fun _ _ plaintext => some (plaintext ++ List.replicate 16 0)
  decrypt := fun _ _ ciphertext =>
    if ciphertext.drop (ciphertext.length - 16) = List.replicate 16 0 then
      some (ciphertext.take (ciphertext.length - 16))
    else none

theorem taggingCipher_lawful : taggingCipher.Lawful where
  decrypt_encrypt := by
    intro key nonce plaintext ciphertext h
    cases h
    simp [taggingCipher]
  length_encrypt := by
    intro key nonce plaintext ciphertext h
    cases h
    simp

/-- A server that answers every URL with one blob, and a disk that takes every file. -/
def blobEnv (blob : Blob) : SaveEnv where
  get := fun _ _ => .ok ⟨true, "200 OK".toList, some (numberText blob.length), [.ok blob]⟩
  homeDir := some "/home/user".toList
  createDirAll := .ok ()
  write := fun _ => .ok ()

/-- A file name that would climb out of the directory. -/
theorem save_attachment_confined_climbing :
    IsComponent "7_.._.._.bashrc.enc".toList :=
  (save_attachment_confined taggingCipher (blobEnv [1, 2, 3]) "7".toList "blossom://b/x".toList
    "../../.bashrc".toList none
    ⟨["/home/user".toList, ".mostrix".toList, "downloads".toList], "7_.._.._.bashrc.enc".toList,
      [1, 2, 3]⟩ rfl).2.1 (by decide)

end Mostrix.Chat
