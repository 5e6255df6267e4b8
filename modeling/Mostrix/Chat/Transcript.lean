import Mostrix.Library.Table
import Mostrix.Protocol.Message

/-!
# A chat's transcript

`ui/helpers/startup.rs` and `ui/helpers/chat_storage.rs`, the side of a user's chats that is on
disk and on screen: an order chat with the counterparty and, per order, a dispute chat with the
solver. A chat has its transcript, the inner event ids recorded as accepted, and the cursor up to
which it was seen. `applyUserOrderChatUpdate` merges what the listener emitted; every write can
fail, and a failed one leaves the message out.

The transcript file and the UI's copy of it are one list: the copy is loaded from the file, and what
is added to it is what was written. How a message is laid out in the file is left out, except that
a time the file's date format does not hold is not read back (`reloads`).
-/

namespace Mostrix.Chat

/-- The id of an event, the hash of its content. -/
abbrev EventId := Nat

/-- `ChatKeyId` of a user's chats: a channel of an order. -/
inductive ChatKeyId
  | order (orderId : Uuid)
  | userDispute (orderId : Uuid)
deriving DecidableEq, Repr

/-- `DecodedChatMessage`. -/
structure DecodedChatMessage where
  sender : PublicKey
  content : String
  timestamp : Int
  innerEventId : EventId
deriving DecidableEq, Repr

/-- `ChatAttachment`, as far as the transcript logic reads it. -/
structure ChatAttachment where
  blossomUrl : String
  filename : String
deriving DecidableEq, Repr

/-- `UserChatSender`. -/
inductive UserChatSender
  | you
  | peer
deriving DecidableEq, Repr

/-- `UserOrderChatMessage`: a line of the transcript. -/
structure UserOrderChatMessage where
  sender : UserChatSender
  content : String
  timestamp : Int
  attachment : Option ChatAttachment := none
deriving DecidableEq, Repr

/-- The text formats of `ui/helpers/attachments.rs`, which the transcript logic only calls: the
attachment a content encodes with the line shown for it, and whether a line is the placeholder an
older version wrote for a file. -/
structure AttachmentFormat where
  tryParseAttachmentMessage : String → Option (ChatAttachment × String)
  legacyPlaceholderMatchesFilename : String → String → Bool

/-- Texts that encode no attachment, for concrete runs. -/
def plainFormat : AttachmentFormat where
  tryParseAttachmentMessage := fun _ => none
  legacyPlaceholderMatchesFilename := fun _ _ => false

/-- A chat on disk and on screen. -/
structure UserChat where
  messages : List UserOrderChatMessage := []
  /-- The durable inner ids. -/
  innerIds : List EventId := []
  lastSeen : Option Int := none
deriving DecidableEq, Repr

/-- What the file system does to the writes for one message. -/
structure WriteResult where
  /-- `save_…_chat_message` or `rewrite_order_chat_messages` -/
  saved : Bool
  /-- `remember_…_inner_id` -/
  remembered : Bool
deriving DecidableEq, Repr

/-- `clamp_chat_since_cursor`. -/
def clampChatSinceCursor (acceptedTs localNow : Int) : Int := min acceptedTs localNow

/-! ## Merging an update -/

section merge

variable (format : AttachmentFormat)

/-- The line shown for a content and its attachment; the solver's channel carries text only. -/
def lineOf (key : ChatKeyId) (content : String) : String × Option ChatAttachment :=
  match key with
  | .order _ =>
    match format.tryParseAttachmentMessage content with
    | some (attachment, display) => (display, some attachment)
    | none => (content, none)
  | .userDispute _ => (content, none)

/-- A line is the placeholder of an attachment that arrived at the same second. -/
def isPlaceholderOf (attachment : ChatAttachment) (ts : Int) (m : UserOrderChatMessage) : Bool :=
  m.timestamp = ts ∧ m.attachment = none ∧
    format.legacyPlaceholderMatchesFilename m.content attachment.filename

/-- A line of the peer that already shows a message. -/
def isDuplicate (line : String × Option ChatAttachment) (ts : Int) (m : UserOrderChatMessage) :
    Bool :=
  m.sender = .peer ∧ m.timestamp = ts ∧
    (m.content = line.1 ∨
      line.2.any fun a =>
        m.attachment.any (·.blossomUrl = a.blossomUrl) ||
          format.legacyPlaceholderMatchesFilename m.content a.filename)

/-- Replace the first line that is the attachment's placeholder. -/
def upgradePlaceholder (attachment : ChatAttachment) (display : String) (ts : Int) :
    List UserOrderChatMessage → List UserOrderChatMessage
  | [] => []
  | m :: ms =>
    if isPlaceholderOf format attachment ts m then
      { sender := m.sender, content := display, timestamp := ts, attachment := some attachment } :: ms
    else m :: upgradePlaceholder attachment display ts ms

/-- `remember_…_inner_id`: recorded unless the append fails. -/
def rememberInnerId (chat : UserChat) (id : EventId) (w : WriteResult) : UserChat :=
  if w.remembered then { chat with innerIds := id :: chat.innerIds } else chat

@[simp] theorem rememberInnerId_messages (chat : UserChat) (id : EventId) (w : WriteResult) :
    (rememberInnerId chat id w).messages = chat.messages := by
  unfold rememberInnerId
  split <;> rfl

/-- The body of the loop of `apply_user_order_chat_updates`: one message, with the newest accepted
time so far. -/
def applyMessage (key : ChatKeyId) (localTradePubkey : PublicKey) (w : WriteResult)
    (acc : UserChat × Int) (msg : DecodedChatMessage) : UserChat × Int :=
  let (chat, maxTs) := acc
  let ts := msg.timestamp
  if msg.sender = localTradePubkey then (chat, max maxTs ts)
  else if msg.innerEventId ∈ chat.innerIds then (chat, max maxTs ts)
  else
    let line := lineOf format key msg.content
    match line.2.filter fun a => chat.messages.any (isPlaceholderOf format a ts) with
    | some a =>
      if w.saved then
        (rememberInnerId { chat with messages := upgradePlaceholder format a line.1 ts chat.messages }
          msg.innerEventId w, max maxTs ts)
      else (chat, maxTs)
    | none =>
      if chat.messages.any (isDuplicate format line ts) then
        (rememberInnerId chat msg.innerEventId w, max maxTs ts)
      else if w.saved then
        (rememberInnerId
          { chat with
            messages := chat.messages ++
              [{ sender := .peer, content := line.1, timestamp := ts, attachment := line.2 }] }
          msg.innerEventId w, max maxTs ts)
      else (chat, maxTs)

/-- The loop over an update's messages; `io n` is what happens to the writes for the `n`-th. -/
def applyMessages (key : ChatKeyId) (localTradePubkey : PublicKey) (io : Nat → WriteResult)
    (n : Nat) (acc : UserChat × Int) : List DecodedChatMessage → UserChat × Int
  | [] => acc
  | msg :: msgs =>
    applyMessages key localTradePubkey io (n + 1)
      (applyMessage format key localTradePubkey (io n) acc msg) msgs

/-- `apply_user_order_chat_updates` on one update: the cursor is the newest accepted time, clamped
to the clock. -/
def applyUserOrderChatUpdate (key : ChatKeyId) (localTradePubkey : PublicKey)
    (io : Nat → WriteResult) (now : Int) (chat : UserChat) (msgs : List DecodedChatMessage) :
    UserChat :=
  let (chat, maxTs) :=
    applyMessages format key localTradePubkey io 0 (chat, chat.lastSeen.getD 0) msgs
  { chat with lastSeen := some (clampChatSinceCursor maxTs now) }

end merge

/-! ## The cursor read back from the file -/

/-- The times a transcript's date format holds (`chrono`'s years -262143 to 262142); a line with any
other is written without a date and not read back. -/
def reloads (ts : Int) : Bool := -8334601228800 ≤ ts ∧ ts ≤ 8210266876799

/-- `load_order_chat_from_file`, the times of its lines: none when no line is readable. -/
def loadTimestamps (timestamps : List Int) : Option (List Int) :=
  let read := timestamps.filter reloads
  if read.isEmpty then none else some read

/-- `order_chat_since_from_file` and `user_dispute_chat_since_from_file`. -/
def chatSinceFromFile (timestamps : List Int) (now : Int) : Option Int :=
  ((loadTimestamps timestamps).bind (·.max?)).map (clampChatSinceCursor · now)

/-- `load_user_order_chats_at_startup`, the cursor it stores for a chat. -/
def startupLastSeen (timestamps : List Int) (now : Int) : Option Int :=
  (loadTimestamps timestamps).map fun ts => clampChatSinceCursor (ts.max?.getD 0) now

/-- `track_startup_chats`, the `since` it passes for an order chat. -/
def startupSince (timestamps : List Int) (now : Int) : Option Int :=
  (startupLastSeen timestamps now).map (clampChatSinceCursor · now)

end Mostrix.Chat
