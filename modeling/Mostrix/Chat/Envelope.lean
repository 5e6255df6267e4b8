import Mostrix.Library.KeyedList
import Mostrix.Library.Text
import Mostrix.Chat.LiveSubs
import Mostrix.Orders.Store

/-!
# The envelope of a shared-key chat

`util/chat_utils.rs`: the two parties of a trade, and the admin with each party of a dispute, talk
under a secret both sides derive. A message is signed by its author inside, sealed under `K_conv`
and signed by `K_sign` outside; the older envelope is a gift wrap. History is read from the relays
under both envelopes, merged by event id, opened, and sorted by the time inside. Who may have signed
inside is an allow-list, which is never empty.

The keys and the envelopes themselves are `nostr_sdk`'s and `mostro_core`'s: `EnvelopeOps` has their
functions, and `EnvelopeOps.Lawful` what is documented of them.
-/

namespace Mostrix.Chat

open Text

/-! ## The crypto -/

/-- The clock, and what an encryption draws at random. -/
structure Stamp where
  now : Int
  random : Nat
deriving DecidableEq, Repr

/-- The functions of `nostr_sdk` and `mostro_core::chat` that the chats use. -/
structure EnvelopeOps where
  /-- `Keys::parse` and `SecretKey::from_str` -/
  parseKeys : String → Option Keys
  /-- `PublicKey::parse` -/
  parsePubkey : String → Option PublicKey
  /-- `SharedKey::derive` -/
  derive : Keys → PublicKey → Option Keys
  /-- `SharedKey::from_hex` -/
  fromHex : String → Option Keys
  /-- `SharedKey::chat_keys`: `K_conv` and `K_sign` -/
  chatKeys : Keys → Option (Keys × Keys)
  /-- `wrap_chat_message` of a sender under `K_conv` and `K_sign` -/
  wrap : Stamp → Keys → Keys → Keys → String → Option ChatEvent
  /-- `unwrap_chat_message` under `K_conv`, for an outer author and an allow-list -/
  unwrap : Keys → PublicKey → List PublicKey → ChatEvent → Int → Option DecodedChatMessage
  /-- `unwrap_giftwrap_chat_message` -/
  unwrapGiftwrap : Keys → ChatEvent → Option DecodedChatMessage

/-- What is documented of them. -/
structure EnvelopeOps.Lawful (ops : EnvelopeOps) : Prop where
  /-- Diffie-Hellman: two key pairs derive one secret. -/
  derive_comm : ∀ {a b : Keys}, ops.parseKeys a.secretHex = some a →
    ops.parseKeys b.secretHex = some b → ops.derive a b.publicKey = ops.derive b a.publicKey
  /-- A derived secret is rebuilt from its hex. -/
  fromHex_derive : ∀ {a : Keys} {pk : PublicKey} {shared : Keys}, ops.derive a pk = some shared →
    ops.fromHex shared.secretHex = some shared
  /-- So is `K_conv`. -/
  fromHex_conv : ∀ {shared conv sign : Keys}, ops.chatKeys shared = some (conv, sign) →
    ops.fromHex conv.secretHex = some conv
  /-- A wrapped message is a kind 14 of `K_sign`, and opens from then on for whoever allows its
  author. -/
  unwrap_wrap : ∀ {stamp : Stamp} {sender conv sign : Keys} {content : String} {e : ChatEvent},
    ops.wrap stamp sender conv sign content = some e →
    e.kind = privateDirectMessage ∧ e.pubkey = sign.publicKey ∧
      ∃ id, ∀ allowed now, sender.publicKey ∈ allowed → stamp.now ≤ now →
        ops.unwrap conv sign.publicKey allowed e now =
          some ⟨sender.publicKey, content, stamp.now, id⟩
  /-- Nobody but an allowed signer is let through, -/
  sender_mem : ∀ {conv : Keys} {author : PublicKey} {allowed : List PublicKey} {e : ChatEvent}
    {now : Int} {m : DecodedChatMessage}, ops.unwrap conv author allowed e now = some m →
    m.sender ∈ allowed
  /-- and what is read does not depend on who else is. -/
  unwrap_allowed : ∀ {conv : Keys} {author : PublicKey} {allowed allowed' : List PublicKey}
    {e : ChatEvent} {now : Int} {m : DecodedChatMessage},
    ops.unwrap conv author allowed e now = some m → m.sender ∈ allowed' →
    ops.unwrap conv author allowed' e now = some m
  /-- The author of an opened event is the expected one. -/
  author_eq : ∀ {conv : Keys} {author : PublicKey} {allowed : List PublicKey} {e : ChatEvent}
    {now : Int} {m : DecodedChatMessage}, ops.unwrap conv author allowed e now = some m →
    e.pubkey = author

variable (ops : EnvelopeOps)

/-- The operations an order row needs of them. -/
def EnvelopeOps.chatOps : ChatOps where
  parsePubkey := ops.parsePubkey
  sharedHex := fun keys pubkey => (ops.derive keys pubkey).map (·.secretHex)

/-! ## Keys and allow-lists -/

/-- `derive_shared_keys`. -/
def deriveSharedKeys (adminKeys : Option Keys) (counterpartyPubkey : Option PublicKey) :
    Option Keys := do
  let admin ← adminKeys
  let pubkey ← counterpartyPubkey
  ops.derive admin pubkey

/-- `order_chat_allowed_signers`. -/
def orderChatAllowedSigners (localTradePubkey : PublicKey) (counterpartyPubkey : Option String) :
    Option (List PublicKey) := do
  let counterparty ← counterpartyPubkey.bind ops.parsePubkey
  if counterparty = localTradePubkey then none else some [localTradePubkey, counterparty]

/-- `dispute_chat_allowed_signers`. -/
def disputeChatAllowedSigners (adminPubkey : Option PublicKey) (partyPubkey : Option String) :
    Option (List PublicKey) := do
  let party ← partyPubkey.bind ops.parsePubkey
  match adminPubkey with
  | some admin => some (if admin ≠ party then [party, admin] else [party])
  | none => some [party]

/-- An allow-list of a dispute's channel holds the party, and else only the admin. -/
theorem mem_disputeChatAllowedSigners {adminPubkey : Option PublicKey} {partyPubkey : Option String}
    {allowed : List PublicKey} (h : disputeChatAllowedSigners ops adminPubkey partyPubkey =
      some allowed) (pk : PublicKey) :
    pk ∈ allowed ↔ partyPubkey.bind ops.parsePubkey = some pk ∨ adminPubkey = some pk := by
  obtain ⟨party, hparty, hrest⟩ := Option.bind_eq_some_iff.1 h
  rw [hparty]
  cases adminPubkey with
  | none =>
    cases hrest
    simp [eq_comm]
  | some admin =>
    dsimp only at hrest
    split at hrest
    next hne =>
      cases hrest
      simp [eq_comm]
    next heq =>
      cases hrest
      have : admin = party := not_not.1 heq
      subst this
      simp [eq_comm]

/-- Who is let through an order's chat. -/
theorem orderChatAllowedSigners_iff {localPk : PublicKey} {text : Option String}
    {allowed : List PublicKey} :
    orderChatAllowedSigners ops localPk text = some allowed ↔
      ∃ pubkey, text.bind ops.parsePubkey = some pubkey ∧ pubkey ≠ localPk ∧
        allowed = [localPk, pubkey] := by
  unfold orderChatAllowedSigners
  rw [Option.bind_eq_bind, Option.bind_eq_some_iff]
  refine exists_congr fun pubkey => and_congr_right fun _ => ?_
  by_cases hne : pubkey = localPk
  · simp [hne]
  · simp [hne, eq_comm]

/-! ## Sending and opening -/

/-- `send_user_order_chat_message_via_shared_key` and `send_admin_chat_message_via_shared_key`, up
to the event that is published. -/
def sendChatMessageViaSharedKey (stamp : Stamp) (sender sharedKeys : Keys) (content : String) :
    Except String ChatEvent :=
  let content := String.ofList (trim content.toList)
  if content = "" then .error "Cannot send empty admin chat message"
  else
    match ops.chatKeys sharedKeys with
    | none => .error "Failed to derive K_conv / K_sign from shared key"
    | some (conv, sign) =>
      match ops.wrap stamp sender conv sign content with
      | none => .error "Failed to wrap admin chat message"
      | some event => .ok event

/-- `unwrap_chat_envelope`. -/
def unwrapChatEnvelope (sharedKeys : Keys) (event : ChatEvent) (allowedSigners : List PublicKey)
    (acceptLegacy : Bool) (now : Int) : Except String DecodedChatMessage :=
  if allowedSigners.isEmpty then
    .error "chat unwrap requires a non-empty inner-signer allow-list"
  else if event.kind = giftWrap then
    if !acceptLegacy then .error "legacy GiftWrap chat envelopes are no longer accepted"
    else
      match ops.unwrapGiftwrap sharedKeys event with
      | none => .error "Failed to unwrap chat gift wrap"
      | some msg =>
        if msg.sender ∉ allowedSigners then
          .error "inner gift-wrap signer is not a party to this conversation"
        else .ok msg
  else
    match ops.chatKeys sharedKeys with
    | none => .error "Failed to derive K_conv / K_sign from shared key"
    | some (conv, sign) =>
      match ops.unwrap conv sign.publicKey allowedSigners event now with
      | none => .error "Failed to unwrap chat event"
      | some msg => .ok msg

/-- `unwrap_giftwrap_with_shared_key`. -/
def unwrapGiftwrapWithSharedKey (sharedKeys : Keys) (event : ChatEvent)
    (allowedSigners : List PublicKey) (now : Int) : Except String DecodedChatMessage :=
  unwrapChatEnvelope ops sharedKeys event allowedSigners chatAcceptLegacyGiftwrap now

section
variable {ops} (hops : ops.Lawful)
include hops

/-- Under either envelope, what is opened was signed by an allowed signer. -/
theorem sender_mem_of_unwrap {sharedKeys : Keys} {event : ChatEvent}
    {allowedSigners : List PublicKey} {acceptLegacy : Bool} {now : Int} {m : DecodedChatMessage}
    (h : unwrapChatEnvelope ops sharedKeys event allowedSigners acceptLegacy now = .ok m) :
    m.sender ∈ allowedSigners := by
  unfold unwrapChatEnvelope at h
  split at h
  · cases h
  split at h
  · split at h
    · cases h
    · split at h
      · cases h
      · split at h
        · cases h
        next hmem =>
          cases h
          exact not_not.1 hmem
  · split at h
    · cases h
    · split at h
      · cases h
      next hunwrap =>
        cases h
        exact hops.sender_mem hunwrap

/-- A message that was sent opens as what it was, for whoever holds the secret and allows its
author. -/
theorem unwrap_of_send {stamp : Stamp} {sender sharedKeys : Keys} {content : String}
    {event : ChatEvent}
    (h : sendChatMessageViaSharedKey ops stamp sender sharedKeys content = .ok event) :
    ∃ id, ∀ allowedSigners acceptLegacy now, sender.publicKey ∈ allowedSigners → stamp.now ≤ now →
      unwrapChatEnvelope ops sharedKeys event allowedSigners acceptLegacy now =
        .ok ⟨sender.publicKey, String.ofList (trim content.toList), stamp.now, id⟩ := by
  unfold sendChatMessageViaSharedKey at h
  dsimp only at h
  split at h
  · cases h
  split at h
  · cases h
  next conv sign hkeys =>
    split at h
    · cases h
    next e hwrap =>
      cases h
      obtain ⟨hkind, -, id, hid⟩ := hops.unwrap_wrap hwrap
      refine ⟨id, fun allowedSigners acceptLegacy now hmem hnow => ?_⟩
      have hne : allowedSigners.isEmpty = false := by
        rw [List.isEmpty_eq_false_iff]
        exact List.ne_nil_of_mem hmem
      have hnotGift : ¬ event.kind = giftWrap := by
        rw [hkind]
        decide
      unfold unwrapChatEnvelope
      simp only [hne, Bool.false_eq_true, if_false, hnotGift, hkeys, hid allowedSigners now hmem hnow]

end

/-! ## Reading from the relays -/

/-- A filter of the relays' events. -/
structure ChatFilter where
  kind : Nat
  authors : List PublicKey := []
  pTags : List PublicKey := []
  since : Nat
  limit : Nat := 100
deriving DecidableEq, Repr

/-- A cast from `i64` to `u64`. -/
def asU64 (n : Int) : Nat := (n % 2 ^ 64).toNat

/-- Seven days in seconds. -/
def lookbackSecs : Int := 7 * 24 * 60 * 60

/-- The time that history is read from. -/
def hydrateSince (since : Option Int) (localNow : Int) : Int :=
  match since with
  | some ts => max (clampChatSinceCursor ts localNow) (localNow - lookbackSecs)
  | none => localNow - lookbackSecs

/-- `chat_filter`, from a time on. -/
def kind14Filter (author : PublicKey) (since : Nat) : ChatFilter where
  kind := privateDirectMessage
  authors := [author]
  since := since

/-- `legacy_giftwrap_hydrate_filter`. -/
def legacyGiftwrapHydrateFilter (ecdhPubkey : PublicKey) (lookbackFloor : Int)
    (acceptLegacy : Bool) : Option ChatFilter :=
  if !acceptLegacy then none
  else some { kind := giftWrap, pTags := [ecdhPubkey], since := (max lookbackFloor 0).toNat }

/-- `merge_dual_read_events`. -/
def mergeDualReadEvents (kind14 legacy : Except String (List ChatEvent)) :
    Except String (List ChatEvent) :=
  match kind14, legacy with
  | .ok a, .ok b => .ok (KeyedList.extend (·.id) a b)
  | .ok a, .error _ => .ok a
  | .error _, .ok b => .ok b
  | .error e14, .error eLegacy =>
    .error ("Failed to fetch chat events (kind-14: " ++ e14 ++ "; giftwrap: " ++ eLegacy ++ ")")

/-- `sort_by_key` on the times. -/
def sortByTimestamp (messages : List DecodedChatMessage) : List DecodedChatMessage :=
  messages.mergeSort fun a b => a.timestamp ≤ b.timestamp

/-- The events `fetch_chat_messages_for_shared_key` reads; `fetch` is what the relays answer. -/
def fetchChatEvents (fetch : ChatFilter → Except String (List ChatEvent)) (sharedKeys sign : Keys)
    (since : Option Int) (localNow : Int) : Except String (List ChatEvent) :=
  let kind14 := fetch (kind14Filter sign.publicKey (asU64 (hydrateSince since localNow)))
  match legacyGiftwrapHydrateFilter sharedKeys.publicKey (localNow - lookbackSecs)
    chatAcceptLegacyGiftwrap with
  | some filter => mergeDualReadEvents kind14 (fetch filter)
  | none => kind14.mapError ("Failed to fetch chat events: " ++ ·)

/-- `fetch_chat_messages_for_shared_key`; `openedAt` is the clock when the events are opened. -/
def fetchChatMessagesForSharedKey (fetch : ChatFilter → Except String (List ChatEvent))
    (sharedKeys : Keys) (allowedSigners : List PublicKey) (since : Option Int)
    (localNow openedAt : Int) : Except String (List DecodedChatMessage) :=
  match ops.chatKeys sharedKeys with
  | none => .error "Failed to derive K_conv / K_sign from shared key"
  | some (_, sign) =>
    match fetchChatEvents fetch sharedKeys sign since localNow with
    | .error e => .error e
    | .ok events =>
      .ok <| sortByTimestamp <| events.filterMap fun wrapped =>
        (unwrapGiftwrapWithSharedKey ops sharedKeys wrapped allowedSigners openedAt).toOption

end Mostrix.Chat
