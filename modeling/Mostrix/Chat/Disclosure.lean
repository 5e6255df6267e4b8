import Mostrix.Chat.History
import Mostrix.Chat.DisputeChat

/-!
# A disclosed conversation

A party of an order can disclose its chat to a solver: `K_conv`, which reads, and the public half of
`K_sign` (`conversation_disclosure_from_order`). The solver's Observer tab fetches the conversation
with it (`fetch_observer_chat`) and shows the lines whose signers it knows, which are the admin and
the trade keys of the disputes it took (`observer_known_signer_roles`).

`observer_reads_conversation` says that the observer sees the disclosed conversation as its parties
do, as far as the signers are known, each line under its signer's role. Only where `K_sign` is not
asked for, a signed message that someone else wrapped is shown as well.
-/

namespace Mostrix.Chat

open Text

variable (ops : EnvelopeOps)

/-! ## Disclosing -/

/-- `conversation_disclosure_from_ecdh`. -/
def conversationDisclosureFromEcdh (ecdhKeys : Keys) : Option (String × PublicKey) := do
  let (conv, sign) ← ops.chatKeys ecdhKeys
  some (conv.secretHex, sign.publicKey)

/-- The secret of an order's chat: the stored one, and else the one the trade keys give. -/
def ecdhOfOrder (orderChatSharedKeyHex : Option String) (tradeKeys : Option Keys)
    (counterpartyPubkey : Option String) : Option Keys :=
  match orderChatSharedKeyHex.bind ops.fromHex with
  | some ecdh => some ecdh
  | none => do
    let trade ← tradeKeys
    let pk ← counterpartyPubkey.bind ops.parsePubkey
    deriveSharedKeys ops (some trade) (some pk)

/-- `conversation_disclosure_from_order`. -/
def conversationDisclosureFromOrder (orderChatSharedKeyHex : Option String)
    (tradeKeys : Option Keys) (counterpartyPubkey : Option String) : Option (String × PublicKey) := do
  let ecdh ← ecdhOfOrder ops orderChatSharedKeyHex tradeKeys counterpartyPubkey
  conversationDisclosureFromEcdh ops ecdh

/-! ## Whose role is known -/

/-- `roles.entry(pk).or_insert(role)`, for a key that may be missing. -/
def orInsertRole (roles : List (PublicKey × ChatSender)) (pk : Option PublicKey)
    (role : ChatSender) : List (PublicKey × ChatSender) :=
  KeyedList.extend (·.1) roles (pk.toList.map (·, role))

/-- `observer_known_signer_roles`: the map as its entries. -/
def observerKnownSignerRoles (adminPubkey : Option PublicKey) (disputes : List DisputeRow) :
    List (PublicKey × ChatSender) :=
  disputes.foldl
    (fun roles dispute =>
      let roles := orInsertRole roles (dispute.buyerPubkey.bind ops.parsePubkey) .buyer
      orInsertRole roles (dispute.sellerPubkey.bind ops.parsePubkey) .seller)
    (adminPubkey.toList.map (·, ChatSender.admin))

/-- `known_roles.get`. -/
def roleOf (roles : List (PublicKey × ChatSender)) (pk : PublicKey) : Option ChatSender :=
  (KeyedList.entry (·.1) roles pk).map (·.2)

/-- Whose role is known: the admin's, and of the keys of the disputes the first one's. -/
def observerRole (adminPubkey : Option PublicKey) (disputes : List DisputeRow) (pk : PublicKey) :
    Option ChatSender :=
  if adminPubkey = some pk then some .admin
  else disputes.findSome? fun d =>
    (disputeChatRoleForInnerSigner pk (d.buyerPubkey.bind ops.parsePubkey)
      (d.sellerPubkey.bind ops.parsePubkey)).map (·.1)

/-! ## Fetching -/

/-- `observer_kind14_filter`. -/
def observerKind14Filter (convPubkey : PublicKey) (signPubkey : Option PublicKey) (since : Nat) :
    ChatFilter :=
  match signPubkey with
  | some author => kind14Filter author since
  | none => { kind := privateDirectMessage, pTags := [convPubkey], since }

/-- `unwrap_observer_chat_event`. -/
def unwrapObserverChatEvent (conv : Keys) (signPubkey : Option PublicKey) (event : ChatEvent)
    (allowedSigners : List PublicKey) (now : Int) : Except String DecodedChatMessage :=
  if allowedSigners.isEmpty then
    .error "chat unwrap requires a non-empty inner-signer allow-list"
  else if event.kind = giftWrap then
    .error ("Observer K_conv cannot unwrap legacy GiftWrap " ++
      "(disclose K_conv from a kind-14 chat)")
  else
    match ops.unwrap conv (signPubkey.getD event.pubkey) allowedSigners event now with
    | none => .error "Failed to unwrap observer chat event"
    | some msg => .ok msg

/-- The line of a message under a role. -/
def observerLine (format : AttachmentFormat) (sender : ChatSender) (msg : DecodedChatMessage) :
    DisputeChatMessage :=
  let (content, attachment) := disputeLineOf format msg.content
  { sender, content, timestamp := msg.timestamp, targetParty := none, attachment }

/-- The body of the loop of `fetch_observer_chat`: what it pushes for an event. -/
def observerRow (format : AttachmentFormat) (conv : Keys) (signPubkey : Option PublicKey)
    (knownRoles : List (PublicKey × ChatSender)) (openedAt : Int) (event : ChatEvent) :
    Option DisputeChatMessage :=
  match unwrapObserverChatEvent ops conv signPubkey event (knownRoles.map (·.1)) openedAt with
  | .error _ => none
  | .ok msg => (roleOf knownRoles msg.sender).map (observerLine format · msg)

/-- `messages.sort_by_key(|m| m.timestamp)`. -/
def sortRows (rows : List DisputeChatMessage) : List DisputeChatMessage :=
  rows.mergeSort fun a b => a.timestamp ≤ b.timestamp

/-- `fetch_observer_chat`; `fetch` is what the relays answer. -/
def fetchObserverChat (format : AttachmentFormat)
    (fetch : ChatFilter → Except String (List ChatEvent)) (convKeyHex : String)
    (signPubkey : Option PublicKey) (knownRoles : List (PublicKey × ChatSender))
    (localNow openedAt : Int) : Except String (List DisputeChatMessage) :=
  if knownRoles.isEmpty then
    .error ("Cannot verify observer chat signers without admin keys or taken-dispute " ++
      "party pubkeys")
  else
    match ops.fromHex convKeyHex with
    | none => .error "Invalid K_conv hex"
    | some conv =>
      let since := (max (localNow - lookbackSecs) 0).toNat
      match fetch (observerKind14Filter conv.publicKey signPubkey since) with
      | .error e => .error ("Failed to fetch observer chat events: " ++ e)
      | .ok events =>
        .ok <| sortRows <|
          events.filterMap (observerRow ops format conv signPubkey knownRoles openedAt)

variable {ops}

/-! ## The roles -/

/-- A role is inserted for a key that has none. -/
theorem roleOf_orInsertRole (roles : List (PublicKey × ChatSender)) (pk : Option PublicKey)
    (role : ChatSender) (pk' : PublicKey) :
    roleOf (orInsertRole roles pk role) pk' =
      (roleOf roles pk').or (if pk = some pk' then some role else none) := by
  unfold roleOf orInsertRole
  rw [KeyedList.entry_extend, Option.map_or]
  congr 1
  cases pk with
  | none => rfl
  | some pk =>
    by_cases h : pk = pk' <;> simp [KeyedList.entry, h]

/-- What the map says. -/
theorem roleOf_observerKnownSignerRoles (adminPubkey : Option PublicKey)
    (disputes : List DisputeRow) (pk : PublicKey) :
    roleOf (observerKnownSignerRoles ops adminPubkey disputes) pk =
      observerRole ops adminPubkey disputes pk := by
  -- along the disputes: a role that is there stays, and else the dispute's own is put
  have hfold : ∀ roles : List (PublicKey × ChatSender),
      roleOf (disputes.foldl (fun roles dispute =>
        orInsertRole (orInsertRole roles (dispute.buyerPubkey.bind ops.parsePubkey) .buyer)
          (dispute.sellerPubkey.bind ops.parsePubkey) .seller) roles) pk =
      (roleOf roles pk).or (disputes.findSome? fun d =>
        (disputeChatRoleForInnerSigner pk (d.buyerPubkey.bind ops.parsePubkey)
          (d.sellerPubkey.bind ops.parsePubkey)).map (·.1)) := by
    induction disputes with
    | nil => exact fun roles => (Option.or_none).symm
    | cons d disputes ih =>
      intro roles
      rw [List.foldl_cons, ih, roleOf_orInsertRole, roleOf_orInsertRole, List.findSome?_cons,
        Option.or_assoc, Option.or_assoc]
      congr 1
      unfold disputeChatRoleForInnerSigner
      by_cases hbuyer : d.buyerPubkey.bind ops.parsePubkey = some pk
      · simp [hbuyer]
      · by_cases hseller : d.sellerPubkey.bind ops.parsePubkey = some pk <;> simp [hbuyer, hseller]
  refine (hfold _).trans ?_
  unfold observerRole
  cases adminPubkey with
  | none => simp [roleOf, KeyedList.entry]
  | some admin => by_cases h : admin = pk <;> simp [roleOf, KeyedList.entry, h]

/-- The allow-list of a fetch names those whose role is known. -/
theorem mem_keys_iff {roles : List (PublicKey × ChatSender)} {pk : PublicKey} :
    pk ∈ roles.map (·.1) ↔ ∃ role, roleOf roles pk = some role := by
  constructor
  · intro h
    obtain ⟨entry, hmem, rfl⟩ := List.mem_map.1 h
    obtain ⟨found, hfound⟩ : ∃ found, KeyedList.entry (·.1) roles entry.1 = some found :=
      Option.isSome_iff_exists.1 (List.find?_isSome.2 ⟨entry, hmem, by simp⟩)
    exact ⟨found.2, by simp [roleOf, hfound]⟩
  · rintro ⟨role, h⟩
    obtain ⟨entry, hentry, -⟩ := Option.map_eq_some_iff.1 h
    obtain ⟨hmem, hkey⟩ := KeyedList.entry_spec hentry
    exact List.mem_map.2 ⟨entry, hmem, hkey⟩

/-! ## The conversation -/

theorem sortRows_perm (rows : List DisputeChatMessage) : (sortRows rows).Perm rows :=
  List.mergeSort_perm ..

theorem sortRows_sorted (rows : List DisputeChatMessage) :
    (sortRows rows).Pairwise fun a b => a.timestamp ≤ b.timestamp :=
  mergeSort_sorted (·.timestamp) rows

/-- What an observer owes who holds `K_conv` of a conversation and asks for an author or not, for
the events that are answered. -/
structure ReadsConversation (ops : EnvelopeOps) (format : AttachmentFormat) (shared sign : Keys)
    (signPubkey : Option PublicKey) (role : PublicKey → Option ChatSender) (openedAt : Int)
    (events : List ChatEvent) (rows : List DisputeChatMessage) : Prop where
  sorted : rows.Pairwise fun a b => a.timestamp ≤ b.timestamp
  /-- No line but one of an event, under the role of its signer. A party that allows the signer
  reads it there too, if `K_sign` signed the event. -/
  read : ∃ row : ChatEvent → Option DisputeChatMessage, rows.Perm (events.filterMap row) ∧
    ∀ e r, row e = some r → ∃ msg, role msg.sender = some r.sender ∧
      r = observerLine format r.sender msg ∧
      ((signPubkey.isSome ∨ e.pubkey = sign.publicKey) → ∀ allowed acceptLegacy,
        msg.sender ∈ allowed →
        unwrapChatEnvelope ops shared e allowed acceptLegacy openedAt = .ok msg)
  /-- What a party reads of the envelopes in use, the observer reads, if it knows the signer. -/
  complete : ∀ e ∈ events, e.kind ≠ giftWrap → ∀ allowed acceptLegacy msg,
    unwrapChatEnvelope ops shared e allowed acceptLegacy openedAt = .ok msg →
    ∀ sender, role msg.sender = some sender → observerLine format sender msg ∈ rows

section
variable {format : AttachmentFormat} {shared conv sign : Keys} {signPubkey : Option PublicKey}
  {roles : List (PublicKey × ChatSender)} {openedAt : Int} {e : ChatEvent}

/-- A row of an event is one of a message that `K_conv` opens it to. -/
theorem observerRow_eq_some {r : DisputeChatMessage}
    (h : observerRow ops format conv signPubkey roles openedAt e = some r) :
    ∃ msg, e.kind ≠ giftWrap ∧ roleOf roles msg.sender = some r.sender ∧
      r = observerLine format r.sender msg ∧
      ops.unwrap conv (signPubkey.getD e.pubkey) (roles.map (·.1)) e openedAt = some msg := by
  unfold observerRow at h
  split at h
  · cases h
  next msg hopen =>
    obtain ⟨sender, hrole, hline⟩ := Option.map_eq_some_iff.1 h
    subst hline
    unfold unwrapObserverChatEvent at hopen
    split at hopen
    · cases hopen
    split at hopen
    · cases hopen
    next hkind =>
      split at hopen
      · cases hopen
      next hunwrap =>
        cases hopen
        exact ⟨msg, hkind, hrole, rfl, hunwrap⟩

/-- What a party opens has a row, if its signer is known. -/
theorem observerRow_of_party (hops : ops.Lawful) (hkeys : ops.chatKeys shared = some (conv, sign))
    (hsign : signPubkey = none ∨ signPubkey = some sign.publicKey) (hkind : e.kind ≠ giftWrap)
    {allowed : List PublicKey} {acceptLegacy : Bool} {msg : DecodedChatMessage}
    (h : unwrapChatEnvelope ops shared e allowed acceptLegacy openedAt = .ok msg)
    {sender : ChatSender} (hrole : roleOf roles msg.sender = some sender) :
    observerRow ops format conv signPubkey roles openedAt e =
      some (observerLine format sender msg) := by
  have hunwrap : ops.unwrap conv sign.publicKey allowed e openedAt = some msg := by
    unfold unwrapChatEnvelope at h
    split at h
    · cases h
    · rw [hkeys] at h
      dsimp only at h
      split at h
      · cases h
      next hunwrap =>
        cases h
        exact hunwrap
  have hmem : msg.sender ∈ roles.map (·.1) := mem_keys_iff.2 ⟨sender, hrole⟩
  have hexpected : signPubkey.getD e.pubkey = sign.publicKey := by
    rcases hsign with rfl | rfl
    · exact hops.author_eq hunwrap
    · rfl
  have hopen : unwrapObserverChatEvent ops conv signPubkey e (roles.map (·.1)) openedAt =
      .ok msg := by
    unfold unwrapObserverChatEvent
    rw [if_neg (by simpa using List.ne_nil_of_mem hmem), if_neg hkind, hexpected,
      hops.unwrap_allowed hunwrap hmem]
  rw [observerRow, hopen]
  exact congrArg (Option.map (observerLine format · msg)) hrole

/-- A row is what a party opens, if `K_sign` signed the event. -/
theorem party_of_unwrap (hops : ops.Lawful) (hkeys : ops.chatKeys shared = some (conv, sign))
    (hsign : signPubkey = none ∨ signPubkey = some sign.publicKey) (hkind : e.kind ≠ giftWrap)
    {allowed : List PublicKey} {msg : DecodedChatMessage}
    (h : ops.unwrap conv (signPubkey.getD e.pubkey) (roles.map (·.1)) e openedAt = some msg)
    (hauthor : signPubkey.isSome ∨ e.pubkey = sign.publicKey) (acceptLegacy : Bool)
    (hmem : msg.sender ∈ allowed) :
    unwrapChatEnvelope ops shared e allowed acceptLegacy openedAt = .ok msg := by
  have hexpected : signPubkey.getD e.pubkey = sign.publicKey := by
    rcases hsign with rfl | rfl
    · simpa using hauthor
    · rfl
  rw [hexpected] at h
  unfold unwrapChatEnvelope
  rw [if_neg (by simpa using List.ne_nil_of_mem hmem), if_neg hkind, hkeys]
  dsimp only
  rw [hops.unwrap_allowed h hmem]

end

/-- No signer is known exactly where none has a role. -/
theorem knownSignerRoles_isEmpty_iff {adminPubkey : Option PublicKey} {disputes : List DisputeRow} :
    (observerKnownSignerRoles ops adminPubkey disputes).isEmpty = true ↔
      ∀ pk, observerRole ops adminPubkey disputes pk = none := by
  rw [List.isEmpty_iff]
  constructor
  · intro hempty pk
    rw [← roleOf_observerKnownSignerRoles, hempty]
    rfl
  · intro hall
    rw [← List.map_eq_nil_iff (f := (·.1)), List.eq_nil_iff_forall_not_mem]
    intro pk hmem
    obtain ⟨role, hrole⟩ := mem_keys_iff.1 hmem
    rw [roleOf_observerKnownSignerRoles, hall] at hrole
    cases hrole

/-- The observer of a disclosed conversation: the fetch fails only where no signer could be known or
the relays do not answer, and else shows what `ReadsConversation` says, with the roles of the admin
and of the disputes it took. -/
theorem observer_reads_conversation (hops : ops.Lawful) (format : AttachmentFormat)
    (fetch : ChatFilter → Except String (List ChatEvent)) {orderChatSharedKeyHex : Option String}
    {tradeKeys : Option Keys} {counterpartyPubkey : Option String} {convHex : String}
    {disclosedSign : PublicKey}
    (hdisclosed : conversationDisclosureFromOrder ops orderChatSharedKeyHex tradeKeys
      counterpartyPubkey = some (convHex, disclosedSign))
    {signPubkey : Option PublicKey} (hsign : signPubkey = none ∨ signPubkey = some disclosedSign)
    (adminPubkey : Option PublicKey) (disputes : List DisputeRow) (localNow openedAt : Int) :
    ∃ shared conv sign, ops.chatKeys shared = some (conv, sign) ∧
      ecdhOfOrder ops orderChatSharedKeyHex tradeKeys counterpartyPubkey = some shared ∧
      let filter := observerKind14Filter conv.publicKey signPubkey
        (max (localNow - lookbackSecs) 0).toNat
      let result := fetchObserverChat ops format fetch convHex signPubkey
        (observerKnownSignerRoles ops adminPubkey disputes) localNow openedAt
      ((∃ e, result = .error e) ↔
        (∀ pk, observerRole ops adminPubkey disputes pk = none) ∨ ∃ e, fetch filter = .error e) ∧
      ∀ events rows, fetch filter = .ok events → result = .ok rows →
        ReadsConversation ops format shared sign signPubkey (observerRole ops adminPubkey disputes)
          openedAt events rows := by
  obtain ⟨shared, hshared, hpair⟩ := Option.bind_eq_some_iff.1 hdisclosed
  obtain ⟨⟨conv, sign⟩, hkeys, hpair⟩ := Option.bind_eq_some_iff.1 hpair
  cases hpair
  have hconv : ops.fromHex conv.secretHex = some conv := hops.fromHex_conv hkeys
  have hroles : ∀ pk, roleOf (observerKnownSignerRoles ops adminPubkey disputes) pk =
      observerRole ops adminPubkey disputes pk :=
    roleOf_observerKnownSignerRoles adminPubkey disputes
  refine ⟨shared, conv, sign, hkeys, hshared, ?_, fun events rows hevents hrows => ?_⟩
  · unfold fetchObserverChat
    split
    next hempty => exact iff_of_true ⟨_, rfl⟩ (.inl (knownSignerRoles_isEmpty_iff.1 hempty))
    next hknown =>
      rw [hconv]
      dsimp only
      cases hfetch : fetch (observerKind14Filter conv.publicKey signPubkey
          (max (localNow - lookbackSecs) 0).toNat) with
      | error err => exact iff_of_true ⟨_, rfl⟩ (.inr ⟨err, rfl⟩)
      | ok events => simpa using fun hall => hknown (knownSignerRoles_isEmpty_iff.2 hall)
  · unfold fetchObserverChat at hrows
    split at hrows
    · cases hrows
    rw [hconv] at hrows
    dsimp only at hrows
    rw [hevents] at hrows
    cases hrows
    refine ⟨sortRows_sorted _, ⟨_, sortRows_perm _, fun e r hrow => ?_⟩,
      fun e he hkind allowed acceptLegacy msg hopen sender hrole => ?_⟩
    · obtain ⟨msg, hkind, hrole, hline, hunwrap⟩ := observerRow_eq_some hrow
      rw [hroles] at hrole
      exact ⟨msg, hrole, hline, fun hauthor allowed acceptLegacy hmem =>
        party_of_unwrap hops hkeys hsign hkind hunwrap hauthor acceptLegacy hmem⟩
    · rw [← hroles] at hrole
      exact (sortRows_perm _).mem_iff.2 (List.mem_filterMap.2
        ⟨e, he, observerRow_of_party hops hkeys hsign hkind hopen hrole⟩)

/-- The seller discloses, and the admin reads the greeting as the buyer's. -/
theorem observer_reads_pair :
    ∃ shared conv sign, pairOps.chatKeys shared = some (conv, sign) ∧
      ∀ events rows, events = [greeting] →
        fetchObserverChat pairOps plainFormat greetingFetch "conv" none
          (observerKnownSignerRoles pairOps (some "A") [⟨1, true, some "B", some "S"⟩]) 1000100
          1000100 = .ok rows →
        ReadsConversation pairOps plainFormat shared sign none
          (observerRole pairOps (some "A") [⟨1, true, some "B", some "S"⟩]) 1000100 events rows := by
  have hdisclosed : conversationDisclosureFromOrder pairOps (some "bs") none none =
      some ("conv", "SIGN") := rfl
  obtain ⟨shared, conv, sign, hkeys, -, -, hreads⟩ :=
    observer_reads_conversation pairOps_lawful plainFormat greetingFetch hdisclosed (.inl rfl)
      (some "A") [⟨1, true, some "B", some "S"⟩] 1000100 1000100
  exact ⟨shared, conv, sign, hkeys, fun events rows hevents hrows =>
    hreads events rows (hevents ▸ rfl) hrows⟩

end Mostrix.Chat
