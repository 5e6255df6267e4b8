import Mostrix.Chat.History
import Mostrix.Chat.OwnMessages

/-!
# What an admin polls

`util/chat_utils.rs`, the admin's side: the poll (`fetch_admin_chat_updates`) reads both channels of
every dispute in progress and hands the messages to `apply_admin_chat_updates`.

It does not guess who wrote: `poll_rows_signed` says that a line a poll adds under a party's name
was signed by the trade key the dispute has for that party.
-/

namespace Mostrix.Chat

open Text

variable (ops : EnvelopeOps)

/-! ## The poll -/

/-- A row of `admin_disputes` with the secrets of its channels. -/
structure DisputeChannels extends DisputeRow where
  buyerSharedKeyHex : Option String
  sellerSharedKeyHex : Option String
deriving DecidableEq, Repr

/-- The secret of a party's channel. -/
def DisputeChannels.sharedKeyHex (d : DisputeChannels) : ChatParty → Option String
  | .buyer => d.buyerSharedKeyHex
  | .seller => d.sellerSharedKeyHex

/-- What the relays answer for a channel, and the clock before and after. -/
structure ChannelRead where
  fetch : ChatFilter → Except String (List ChatEvent)
  localNow : Int
  openedAt : Int

/-- `fetch_party_messages`: what it pushes. -/
def fetchPartyMessages (read : ChannelRead) (sharedKeyHex : Option String)
    (allowedSigners : List PublicKey) (lastSeen : Int) : List DecodedChatMessage :=
  match sharedKeyHex with
  | none => []
  | some hex =>
    if allowedSigners.isEmpty then []
    else
      match ops.fromHex hex with
      | none => []
      | some sharedKeys =>
        let lastSeen := clampChatSinceCursor lastSeen read.localNow
        match fetchChatMessagesForSharedKey ops read.fetch sharedKeys allowedSigners (some lastSeen)
          read.localNow read.openedAt with
        | .error _ => []
        | .ok messages => messages.filter fun msg => lastSeen ≤ msg.timestamp

/-- `AdminChatUpdate`. -/
structure AdminChatUpdate where
  disputeId : Uuid
  party : ChatParty
  messages : List DecodedChatMessage
deriving DecidableEq, Repr

/-- The key of an update in `by_key`. -/
def AdminChatUpdate.key (u : AdminChatUpdate) : Uuid × ChatParty := (u.disputeId, u.party)

/-- Push messages to the entry of a channel; no message makes no entry. -/
def pushMessages (byKey : List AdminChatUpdate) (disputeId : Uuid) (party : ChatParty)
    (messages : List DecodedChatMessage) : List AdminChatUpdate :=
  if messages.isEmpty then byKey
  else
    let before := ((KeyedList.entry AdminChatUpdate.key byKey (disputeId, party)).map
      (·.messages)).getD []
    KeyedList.upsert AdminChatUpdate.key byKey ⟨disputeId, party, before ++ messages⟩

/-- The body of the loops of `fetch_admin_chat_updates`. -/
def pollChannel (lastSeen : AdminCursors) (adminPubkey : Option PublicKey) (read : ChannelRead)
    (byKey : List AdminChatUpdate) (d : DisputeChannels) (party : ChatParty) :
    List AdminChatUpdate :=
  match disputeChatAllowedSigners ops adminPubkey (d.pubkey party) with
  | none => byKey
  | some allowed =>
    pushMessages byKey d.disputeId party
      (fetchPartyMessages ops read (d.sharedKeyHex party) allowed
        ((lastSeen (d.disputeId, party)).getD 0))

/-- The loops, channel by channel; `read n` is what the `n`-th channel meets. -/
def pollChannels (lastSeen : AdminCursors) (adminPubkey : Option PublicKey)
    (read : Nat → ChannelRead) (n : Nat) (byKey : List AdminChatUpdate) :
    List (DisputeChannels × ChatParty) → List AdminChatUpdate
  | [] => byKey
  | (d, party) :: channels =>
    pollChannels lastSeen adminPubkey read (n + 1)
      (pollChannel ops lastSeen adminPubkey (read n) byKey d party) channels

/-- `fetch_admin_chat_updates`; the updates stand in the order in which their channels first had a
message, where the source has a hash map's. -/
def fetchAdminChatUpdates (disputes : List DisputeChannels) (lastSeen : AdminCursors)
    (adminPubkey : Option PublicKey) (read : Nat → ChannelRead) : List AdminChatUpdate :=
  pollChannels ops lastSeen adminPubkey read 0 [] <|
    (disputes.filter (·.inProgress)).flatMap fun d => [(d, ChatParty.buyer), (d, .seller)]

variable {ops}

/-- What a poll lets through on a channel: the dispute is in progress, the party has a key, the
signer is that party or the admin, and the message is not older than the cursor. -/
def LetThrough (ops : EnvelopeOps) (disputes : List DisputeChannels) (lastSeen : AdminCursors)
    (adminPubkey : Option PublicKey) (disputeId : Uuid) (party : ChatParty)
    (msg : DecodedChatMessage) : Prop :=
  ∃ d ∈ disputes, d.inProgress = true ∧ d.disputeId = disputeId ∧
    (∃ key, (d.pubkey party).bind ops.parsePubkey = some key) ∧
    ((d.pubkey party).bind ops.parsePubkey = some msg.sender ∨ adminPubkey = some msg.sender) ∧
    ∃ localNow, clampChatSinceCursor ((lastSeen (disputeId, party)).getD 0) localNow ≤ msg.timestamp

theorem fetchPartyMessages_spec (hops : ops.Lawful) {read : ChannelRead} {hex : Option String}
    {allowed : List PublicKey} {lastSeen : Int} {msg : DecodedChatMessage}
    (h : msg ∈ fetchPartyMessages ops read hex allowed lastSeen) :
    msg.sender ∈ allowed ∧ clampChatSinceCursor lastSeen read.localNow ≤ msg.timestamp := by
  unfold fetchPartyMessages at h
  split at h
  · cases h
  split at h
  · cases h
  split at h
  · cases h
  next sharedKeys _ =>
    dsimp only at h
    split at h
    · cases h
    next messages hfetch =>
      obtain ⟨hmem, hts⟩ := List.mem_filter.1 h
      exact ⟨history_allowed hops hfetch msg hmem, by simpa using hts⟩

/-- What is pushed comes to the messages that are there. -/
theorem mem_pushMessages {byKey : List AdminChatUpdate} {disputeId : Uuid} {party : ChatParty}
    {messages : List DecodedChatMessage} {u : AdminChatUpdate} {msg : DecodedChatMessage}
    (hu : u ∈ pushMessages byKey disputeId party messages) (hmsg : msg ∈ u.messages) :
    (∃ v ∈ byKey, v.key = u.key ∧ msg ∈ v.messages) ∨
      u.key = (disputeId, party) ∧ msg ∈ messages := by
  unfold pushMessages at hu
  split at hu
  · exact .inl ⟨u, hu, rfl, hmsg⟩
  · rcases KeyedList.mem_of_mem_upsert hu with rfl | hu
    · rcases List.mem_append.1 hmsg with hbefore | hnew
      · cases hentry : KeyedList.entry AdminChatUpdate.key byKey (disputeId, party) with
        | none =>
          rw [hentry] at hbefore
          cases hbefore
        | some v =>
          rw [hentry] at hbefore
          obtain ⟨hv, hkey⟩ := KeyedList.entry_spec hentry
          exact .inl ⟨v, hv, hkey, hbefore⟩
      · exact .inr ⟨rfl, hnew⟩
    · exact .inl ⟨u, hu, rfl, hmsg⟩

/-- Every message of every update was let through. -/
theorem fetchAdminChatUpdates_spec (hops : ops.Lawful) {disputes : List DisputeChannels}
    {lastSeen : AdminCursors} {adminPubkey : Option PublicKey} {read : Nat → ChannelRead}
    {u : AdminChatUpdate} (hu : u ∈ fetchAdminChatUpdates ops disputes lastSeen adminPubkey read)
    {msg : DecodedChatMessage} (hmsg : msg ∈ u.messages) :
    LetThrough ops disputes lastSeen adminPubkey u.disputeId u.party msg := by
  -- along the channels: what is collected was let through
  have hloop : ∀ (channels : List (DisputeChannels × ChatParty)) (n : Nat)
      (byKey : List AdminChatUpdate),
      (∀ c ∈ channels, c.1 ∈ disputes ∧ c.1.inProgress = true) →
      (∀ v ∈ byKey, ∀ msg ∈ v.messages,
        LetThrough ops disputes lastSeen adminPubkey v.disputeId v.party msg) →
      ∀ v ∈ pollChannels ops lastSeen adminPubkey read n byKey channels, ∀ msg ∈ v.messages,
        LetThrough ops disputes lastSeen adminPubkey v.disputeId v.party msg := by
    intro channels
    induction channels with
    | nil => exact fun _ _ _ h => h
    | cons c channels ih =>
      obtain ⟨d, party⟩ := c
      intro n byKey hchannels hbyKey
      obtain ⟨hd, hrest⟩ := List.forall_mem_cons.1 hchannels
      refine ih (n + 1) _ hrest fun v hv msg hmsg => ?_
      unfold pollChannel at hv
      split at hv
      · exact hbyKey v hv msg hmsg
      next allowed hallowed =>
        rcases mem_pushMessages hv hmsg with ⟨w, hw, hkey, hmsg⟩ | ⟨hkey, hmsg⟩
        · have h := hbyKey w hw msg hmsg
          simp only [AdminChatUpdate.key, Prod.mk.injEq] at hkey
          rwa [hkey.1, hkey.2] at h
        · simp only [AdminChatUpdate.key, Prod.mk.injEq] at hkey
          obtain ⟨hid, hparty⟩ := hkey
          obtain ⟨hsender, hts⟩ := fetchPartyMessages_spec hops hmsg
          have hkeyed : ∃ key, (d.pubkey party).bind ops.parsePubkey = some key := by
            obtain ⟨key, hkey, -⟩ := Option.bind_eq_some_iff.1 hallowed
            exact ⟨key, hkey⟩
          rw [hid, hparty]
          exact ⟨d, hd.1, hd.2, rfl, hkeyed,
            (mem_disputeChatAllowedSigners ops hallowed msg.sender).1 hsender, _, hts⟩
  refine hloop _ 0 [] ?_ nofun u hu msg hmsg
  intro c hc
  obtain ⟨d, hd, hc⟩ := List.mem_flatMap.1 hc
  obtain ⟨hd, hprogress⟩ := List.mem_filter.1 hd
  simp only [List.mem_cons, List.not_mem_nil, or_false] at hc
  rcases hc with rfl | rfl <;> exact ⟨hd, hprogress⟩

/-! ## Applying it -/

section
variable {format : AttachmentFormat} {parseChatPubkey : String → Option PublicKey}
  {rows : List DisputeRow} {adminChatPubkey : Option PublicKey} {disputeId : Uuid}

/-- A line that shows a message of a party of the dispute. -/
structure ShowsSigned (format : AttachmentFormat) (parseChatPubkey : String → Option PublicKey)
    (rows : List DisputeRow) (adminChatPubkey : Option PublicKey) (disputeId : Uuid)
    (msg : DecodedChatMessage) (r : DisputeChatMessage) : Prop where
  role : ∃ role, roleInDispute parseChatPubkey rows disputeId msg.sender = some role ∧
    r.sender = role.1
  notAdmin : adminChatPubkey ≠ some msg.sender
  timestamp : r.timestamp = msg.timestamp
  line : (r.content, r.attachment) = disputeLineOf format msg.content

/-- A line of an upgraded list is an old one or the upgrade. -/
theorem mem_upgradeDisputePlaceholder {role : ChatSender × Option ChatParty} {a : ChatAttachment}
    {display : String} {ts : Int} {messages : List DisputeChatMessage} {r : DisputeChatMessage}
    (h : r ∈ upgradeDisputePlaceholder format role a display ts messages) :
    r ∈ messages ∨ r = ⟨role.1, display, ts, role.2, some a⟩ := by
  induction messages with
  | nil => cases h
  | cons m ms ih =>
    unfold upgradeDisputePlaceholder at h
    split at h
    · rcases List.mem_cons.1 h with rfl | h
      · exact .inr rfl
      · exact .inl (.tail _ h)
    · rcases List.mem_cons.1 h with rfl | h
      · exact .inl (.head _)
      · exact (ih h).imp_left (.tail _)

/-- A message adds no line but its own. -/
theorem applyAdminMessage_rows (party : ChatParty) (w : WriteResult) (acc : DisputeChat × Int)
    (msg : DecodedChatMessage) :
    ∀ r ∈ (applyAdminMessage format parseChatPubkey rows disputeId party adminChatPubkey w acc
      msg).1.messages,
      r ∈ acc.1.messages ∨ ShowsSigned format parseChatPubkey rows adminChatPubkey disputeId msg r := by
  have hremember : ∀ chat : DisputeChat,
      (rememberDisputeInnerId chat party msg.innerEventId w).messages = chat.messages :=
    fun chat => by
      unfold rememberDisputeInnerId
      split <;> rfl
  intro r hr
  unfold applyAdminMessage at hr
  dsimp only at hr
  split at hr
  · exact .inl hr
  next hnotAdmin =>
    split at hr
    · exact .inl hr
    · split at hr
      · exact .inl hr
      next role hrole =>
        split at hr
        next a ha =>
          obtain ⟨hline, -⟩ := Option.filter_eq_some_iff.1 ha
          split at hr
          · rw [hremember] at hr
            rcases mem_upgradeDisputePlaceholder hr with hr | rfl
            · exact .inl hr
            · exact .inr ⟨⟨role, hrole, rfl⟩, hnotAdmin, rfl, Prod.ext rfl hline.symm⟩
          · exact .inl hr
        next =>
          split at hr
          · rw [hremember] at hr
            exact .inl hr
          · split at hr
            · rw [hremember] at hr
              rcases List.mem_append.1 hr with hr | hr
              · exact .inl hr
              · rw [List.mem_singleton.1 hr]
                exact .inr ⟨⟨role, hrole, rfl⟩, hnotAdmin, rfl, rfl⟩
            · exact .inl hr

theorem applyAdminMessages_rows (party : ChatParty) (io : Nat → WriteResult) (n : Nat)
    (acc : DisputeChat × Int) (msgs : List DecodedChatMessage) :
    ∀ r ∈ (applyAdminMessages format parseChatPubkey rows disputeId party adminChatPubkey io n acc
      msgs).1.messages,
      r ∈ acc.1.messages ∨
        ∃ msg ∈ msgs, ShowsSigned format parseChatPubkey rows adminChatPubkey disputeId msg r := by
  induction msgs generalizing n acc with
  | nil => exact fun r hr => .inl hr
  | cons msg msgs ih =>
    intro r hr
    rcases ih (n + 1) _ r hr with hr | ⟨msg', hmsg', hshows⟩
    · rcases applyAdminMessage_rows party (io n) acc msg r hr with hr | hshows
      · exact .inl hr
      · exact .inr ⟨msg, .head _, hshows⟩
    · exact .inr ⟨msg', .tail _ hmsg', hshows⟩

/-- An update adds lines to its own dispute's chat only, one for a message each. -/
theorem applyAdminUpdateTurn_rows (s : AdminChats) (u : AdminUpdateTurn) :
    ∀ r ∈ ((applyAdminUpdateTurn format parseChatPubkey rows adminChatPubkey s u).chats
      disputeId).messages,
      r ∈ (s.chats disputeId).messages ∨ u.disputeId = disputeId ∧
        ∃ msg ∈ u.messages, ShowsSigned format parseChatPubkey rows adminChatPubkey disputeId msg r := by
  intro r hr
  have hmessages : (applyAdminChatUpdate format parseChatPubkey rows u.disputeId u.party
      adminChatPubkey u.io u.stored u.now (s.chats u.disputeId) s.memory s.table u.messages).1 =
      (applyAdminMessages format parseChatPubkey rows u.disputeId u.party adminChatPubkey u.io 0
        (s.chats u.disputeId, (s.memory (u.disputeId, u.party)).getD 0) u.messages).1 := by
    unfold applyAdminChatUpdate
    dsimp only
    split <;> rfl
  unfold applyAdminUpdateTurn at hr
  dsimp only at hr
  by_cases hid : disputeId = u.disputeId
  · subst hid
    rw [Function.update_self, hmessages] at hr
    exact (applyAdminMessages_rows u.party u.io 0 _ u.messages r hr).imp_right (⟨rfl, ·⟩)
  · rw [Function.update_of_ne hid] at hr
    exact .inl hr

/-- So do any number of updates. -/
theorem applyAdminChatUpdates_rows (s : AdminChats) (updates : List AdminUpdateTurn) :
    ∀ r ∈ ((applyAdminChatUpdates format parseChatPubkey rows adminChatPubkey s updates).chats
      disputeId).messages,
      r ∈ (s.chats disputeId).messages ∨ ∃ u ∈ updates, u.disputeId = disputeId ∧
        ∃ msg ∈ u.messages, ShowsSigned format parseChatPubkey rows adminChatPubkey disputeId msg r := by
  induction updates generalizing s with
  | nil => exact fun r hr => .inl hr
  | cons u updates ih =>
    intro r hr
    rcases ih _ r hr with hr | ⟨v, hv, hrest⟩
    · rcases applyAdminUpdateTurn_rows s u r hr with hr | ⟨hid, hrest⟩
      · exact .inl hr
      · exact .inr ⟨u, .head _, hid, hrest⟩
    · exact .inr ⟨v, .tail _ hv, hrest⟩

end

/-- A role is that of the party whose trade key signed. -/
theorem roleInDispute_party {disputes : List DisputeChannels} {disputeId : Uuid}
    {sender : PublicKey} {role : ChatSender × Option ChatParty}
    (h : roleInDispute ops.parsePubkey (disputes.map (·.toDisputeRow)) disputeId sender =
      some role) :
    ∃ d, disputes.find? (·.disputeId = disputeId) = some d ∧
      ∃ party : ChatParty, role.1 = party.sender ∧
        (d.pubkey party).bind ops.parsePubkey = some sender := by
  unfold roleInDispute at h
  rw [List.find?_map] at h
  cases hfind : disputes.find? ((fun d : DisputeRow => decide (d.disputeId = disputeId)) ∘
      (·.toDisputeRow)) with
  | none =>
    rw [hfind] at h
    simp [disputeChatRoleForInnerSigner] at h
  | some d =>
    rw [hfind] at h
    refine ⟨d, hfind, ?_⟩
    unfold disputeChatRoleForInnerSigner at h
    simp only [Option.map_some, Option.bind_some] at h
    split at h
    next hbuyer =>
      cases h
      exact ⟨.buyer, rfl, hbuyer⟩
    next =>
      split at h
      next hseller =>
        cases h
        exact ⟨.seller, rfl, hseller⟩
      next => cases h

/-- A dispute of the two, whose buyer's channel has a secret. -/
def pairDispute : DisputeChannels where
  disputeId := 1
  inProgress := true
  buyerPubkey := some "B"
  sellerPubkey := some "S"
  buyerSharedKeyHex := some "bs"
  sellerSharedKeyHex := none

/-- A poll that meets the greeting. -/
theorem pairDispute_poll :
    fetchAdminChatUpdates pairOps [pairDispute] (fun _ => none) none
      (fun _ => ⟨greetingFetch, 1000100, 1000100⟩) =
      [⟨1, .buyer, [⟨"B", "hi", 1000000, 1000000⟩]⟩] := by
  have hread : fetchPartyMessages pairOps ⟨greetingFetch, 1000100, 1000100⟩ (some "bs") ["B"] 0 =
      [⟨"B", "hi", 1000000, 1000000⟩] := by
    unfold fetchPartyMessages
    simp only [show pairOps.fromHex "bs" = some ⟨"bs", "BS"⟩ from rfl]
    rw [greeting_read (by simp)]
    rfl
  have hnone : fetchPartyMessages pairOps ⟨greetingFetch, 1000100, 1000100⟩ none ["S"] 0 = [] := rfl
  have hbuyer : disputeChatAllowedSigners pairOps none (some "B") = some ["B"] := rfl
  have hseller : disputeChatAllowedSigners pairOps none (some "S") = some ["S"] := rfl
  simp [fetchAdminChatUpdates, pollChannels, pollChannel, pairDispute, DisputeRow.pubkey, hbuyer,
    hseller, DisputeChannels.sharedKeyHex, hread, hnone, pushMessages, KeyedList.entry,
    KeyedList.upsert]

end Mostrix.Chat
