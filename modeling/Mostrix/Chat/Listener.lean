import Mostrix.Chat.Transcript

/-!
# The chat listener

`util/chat_listener.rs` and `util/chat_security.rs`: one background task tracks the shared-key
chats, hydrates a newly tracked one from the relays' history and routes live events, and hands what
it accepts to the UI over a bounded channel that drops when it is full. Before a message is emitted
its outer id is noted in a bounded set and its inner id in the chat's set.

The system of this module is the listener, the channel and the UI's chats. A `ChatAction` is one
turn of one of them, or a restart; a run is any interleaving. What the relays deliver, whether the
token bucket lets an event through (`allowed`) and what the file system does are inputs of the
turns.
-/

namespace Mostrix.Chat

/-- A relay event, as far as the listener looks at it. -/
structure ChatEvent where
  id : EventId
  kind : Nat
  pubkey : PublicKey
  pTags : List PublicKey := []
  content : String
deriving DecidableEq, Repr

/-- `ChatTarget`: a tracked chat. -/
structure ChatTarget where
  keyId : ChatKeyId
  /-- `shared_keys.public_key()` -/
  chatPubkey : PublicKey
  signPubkey : PublicKey
  localTradePubkey : Option PublicKey
  allowedSigners : List PublicKey
deriving DecidableEq, Repr

/-- The crypto of a chat, which is in dependencies: the public keys of a shared secret
(`keys_from_shared_hex` and `chat_keys_from_ecdh`), and the message an event holds for a target
(`unwrap_giftwrap_with_shared_key`). -/
structure ChatCrypto where
  chatKeys : String → Option (PublicKey × PublicKey)
  unwrap : ChatTarget → ChatEvent → Option DecodedChatMessage
  /-- An inner id is the hash of the inner event, which the message is read from. -/
  unwrap_inj : ∀ {t e m t' e' m'}, unwrap t e = some m → unwrap t' e' = some m' →
    m.innerEventId = m'.innerEventId → m = m'

/-- `OrderChatUpdate`. -/
structure OrderChatUpdate where
  keyId : ChatKeyId
  localTradePubkey : PublicKey
  messages : List DecodedChatMessage
deriving DecidableEq, Repr

/-- `PendingHydration`. -/
structure PendingHydration where
  targetPubkey : PublicKey
  since : Option Int
deriving DecidableEq, Repr

/-- The listener, the channel to the UI and the UI's chats. -/
structure ChatState where
  targets : List ChatTarget
  /-- The hydrations the listener still has to do for its last burst of commands. -/
  pending : List PendingHydration
  /-- `OuterIdLru`, oldest first. -/
  seenOuter : List EventId
  seenInner : Table ChatKeyId (List EventId)
  queue : List OrderChatUpdate
  chats : ChatKeyId → UserChat

/-- A first start. -/
def ChatState.init : ChatState where
  targets := []
  pending := []
  seenOuter := []
  seenInner := Table.empty
  queue := []
  chats := fun _ => {}

/-- `CHAT_SEEN_OUTER_CAP`. -/
def chatSeenOuterCap : Nat := 4096

/-- `CHAT_UPDATE_CAPACITY`. -/
def chatUpdateCapacity : Nat := 128

/-- `Kind::GiftWrap`. -/
def giftWrap : Nat := 1059

/-- `Kind::PrivateDirectMessage`. -/
def privateDirectMessage : Nat := 14

/-! ## Sets of seen ids -/

/-- `OuterIdLru::insert`: the new set, when the id had not been seen. -/
def outerInsert (seen : List EventId) (id : EventId) : Option (List EventId) :=
  if id ∈ seen then none
  else
    let seen := seen ++ [id]
    some (seen.drop (seen.length - chatSeenOuterCap))

/-- `inner.insert` on the chat's set, for one message after another: those that were new. -/
def innerInsert (seen : List EventId) : List DecodedChatMessage → List EventId × List DecodedChatMessage
  | [] => (seen, [])
  | m :: ms =>
    if m.innerEventId ∈ seen then innerInsert seen ms
    else
      let (seen', fresh) := innerInsert (m.innerEventId :: seen) ms
      (seen', m :: fresh)

/-! ## Commands -/

/-- `ChatRouterCmd`. -/
inductive ChatRouterCmd
  | trackChatKey (keyId : ChatKeyId) (sharedKeyHex : String) (localTradePubkey : Option PublicKey)
      (allowedSigners : List PublicKey) (since : Option Int)
  | untrackChatKey (keyId : ChatKeyId)
deriving DecidableEq, Repr

/-- `apply_chat_router_cmd` and what the listener does with its outcome. -/
def applyChatRouterCmd (crypto : ChatCrypto) (now : Int) (s : ChatState) :
    ChatRouterCmd → ChatState
  | .trackChatKey keyId sharedKeyHex localTradePubkey allowedSigners since =>
    if allowedSigners.isEmpty then s
    else
      match crypto.chatKeys sharedKeyHex with
      | none => s
      | some (chatPubkey, signPubkey) =>
        if s.targets.any fun t => t.chatPubkey = chatPubkey ∧ t.keyId = keyId then s
        else
          let target : ChatTarget := { keyId, chatPubkey, signPubkey, localTradePubkey, allowedSigners }
          { s with
            targets := target :: s.targets.filter (·.chatPubkey ≠ chatPubkey)
            pending := s.pending ++
              [{ targetPubkey := chatPubkey, since := since.map (clampChatSinceCursor · now) }]
            seenInner :=
              match s.seenInner keyId with
              | some _ => s.seenInner
              | none => s.seenInner.put keyId (s.chats keyId).innerIds }
  | .untrackChatKey keyId =>
    if s.targets.any (·.keyId = keyId) then
      { s with
        targets := s.targets.filter (·.keyId ≠ keyId)
        seenInner := s.seenInner.erase keyId }
    else s

/-! ## Emitting -/

/-- `emit_messages` and `try_emit_chat_update`: an update with no message, for a chat without a
local key, or that finds the channel full is not sent. -/
def emitMessages (s : ChatState) (target : ChatTarget) (messages : List DecodedChatMessage) :
    ChatState :=
  if messages.isEmpty then s
  else
    match target.localTradePubkey with
    | none => s
    | some localTradePubkey =>
      if s.queue.length < chatUpdateCapacity then
        { s with queue := s.queue ++ [{ keyId := target.keyId, localTradePubkey, messages }] }
      else s

/-- Note the inner ids of messages and emit the new ones. -/
def acceptMessages (s : ChatState) (target : ChatTarget) (messages : List DecodedChatMessage) :
    ChatState :=
  let (seen, fresh) := innerInsert ((s.seenInner target.keyId).getD []) messages
  emitMessages { s with seenInner := s.seenInner.put target.keyId seen } target fresh

/-- `fetch_chat_messages_for_shared_key` on the events the relays returned: those the target opens,
oldest first. -/
def fetchChatMessages (crypto : ChatCrypto) (target : ChatTarget) (events : List ChatEvent) :
    List DecodedChatMessage :=
  (events.filterMap (crypto.unwrap target)).mergeSort fun a b => a.timestamp ≤ b.timestamp

/-- `hydrate_history` for the first pending target; a failed fetch gives `none`. -/
def hydrateHistory (crypto : ChatCrypto) (s : ChatState) (fetched : Option (List ChatEvent)) :
    ChatState :=
  match s.pending with
  | [] => s
  | p :: rest =>
    let s := { s with pending := rest }
    match s.targets.find? (·.chatPubkey = p.targetPubkey), fetched with
    | some target, some events =>
      acceptMessages s target
        ((fetchChatMessages crypto target events).filter fun m => p.since.getD 0 ≤ m.timestamp)
    | _, _ => s

/-- `resolve_chat_target`: gift wraps by their first `p` tag, kind 14 by its author. -/
def resolveChatTarget (targets : List ChatTarget) (event : ChatEvent) : Option ChatTarget :=
  if event.kind = giftWrap then
    event.pTags.head?.bind fun p => targets.find? (·.chatPubkey = p)
  else if event.kind = privateDirectMessage then
    targets.find? (·.signPubkey = event.pubkey)
  else none

/-- A live event. -/
def liveEvent (crypto : ChatCrypto) (s : ChatState) (event : ChatEvent) (allowed : Bool) :
    ChatState :=
  match resolveChatTarget s.targets event with
  | none => s
  | some target =>
    match outerInsert s.seenOuter event.id with
    | none => s
    | some seenOuter =>
      let s := { s with seenOuter }
      if !allowed then s
      else
        match crypto.unwrap target event with
        | none => s
        | some msg => acceptMessages s target [msg]

/-! ## The system -/

/-- One turn. -/
inductive ChatAction
  /-- The listener drains its commands, at a clock time. -/
  | commands (cmds : List ChatRouterCmd) (now : Int)
  /-- It hydrates the next pending chat. -/
  | hydrate (fetched : Option (List ChatEvent))
  /-- It takes a live event. -/
  | live (event : ChatEvent) (allowed : Bool)
  /-- The UI takes an update off the channel. -/
  | drain (io : Nat → WriteResult) (now : Int)
  /-- The user writes to a chat; a line that cannot be saved is not sent. -/
  | send (keyId : ChatKeyId) (content : String) (now : Int) (saved : Bool)
  /-- The listener is restarted on a reconnect. -/
  | respawn
  /-- The client is restarted. -/
  | restart (now : Int)

/-- A listener that has not started. -/
def ChatState.resetListener (s : ChatState) : ChatState :=
  { s with targets := [], pending := [], seenOuter := [], seenInner := Table.empty }

/-- The step function. The listener takes commands and live events only when it is not hydrating. -/
def next (crypto : ChatCrypto) (format : AttachmentFormat) (s : ChatState) : ChatAction → ChatState
  | .commands cmds now =>
    if s.pending.isEmpty then cmds.foldl (applyChatRouterCmd crypto now) s else s
  | .hydrate fetched => hydrateHistory crypto s fetched
  | .live event allowed => if s.pending.isEmpty then liveEvent crypto s event allowed else s
  | .drain io now =>
    match s.queue with
    | [] => s
    | u :: rest =>
      { s with
        queue := rest
        chats := Function.update s.chats u.keyId
          (applyUserOrderChatUpdate format u.keyId u.localTradePubkey io now (s.chats u.keyId)
            u.messages) }
  | .send keyId content now saved =>
    if saved then
      { s with
        chats := Function.update s.chats keyId
          { s.chats keyId with
            messages := (s.chats keyId).messages ++ [{ sender := .you, content, timestamp := now }] } }
    else s
  | .respawn => s.resetListener
  | .restart now =>
    { s.resetListener with
      queue := []
      chats := fun k =>
        { s.chats k with lastSeen := startupLastSeen ((s.chats k).messages.map (·.timestamp)) now } }

end Mostrix.Chat
