import Mostrix.Chat.Cursor

/-!
# The admin's dispute chats

`ui/helpers/startup.rs`, the admin's side: one transcript per dispute with two channels, the
buyer's and the seller's, and a cursor per channel that is kept in memory and in the columns of
`admin_disputes`. `applyAdminChatUpdate` merges what the listener emitted for one channel. Unlike
`applyUserOrderChatUpdate` it compares the cursor once more before it writes it, and it writes it to
the table without looking at what is there.
-/

namespace Mostrix.Chat

/-- `DisputeChatMessage`: a line of a dispute's transcript. -/
structure DisputeChatMessage where
  sender : ChatSender
  content : String
  timestamp : Int
  targetParty : Option ChatParty := none
  attachment : Option ChatAttachment := none
deriving DecidableEq, Repr

/-- A row of `admin_disputes` as `AdminDispute::get_all` loads it, without its cursor columns. -/
structure DisputeRow where
  disputeId : Uuid
  inProgress : Bool
  buyerPubkey : Option String
  sellerPubkey : Option String
deriving DecidableEq, Repr

/-- The trade key of a party. -/
def DisputeRow.pubkey (d : DisputeRow) : ChatParty → Option String
  | .buyer => d.buyerPubkey
  | .seller => d.sellerPubkey

/-- A dispute's chats on disk and on screen. -/
structure DisputeChat where
  messages : List DisputeChatMessage := []
  /-- The durable inner ids of each channel. -/
  innerIds : ChatParty → List EventId := fun _ => []

/-- `dispute_chat_role_for_inner_signer`. -/
def disputeChatRoleForInnerSigner (sender : PublicKey) (buyer seller : Option PublicKey) :
    Option (ChatSender × Option ChatParty) :=
  if buyer = some sender then some (.buyer, none)
  else if seller = some sender then some (.seller, none)
  else none

section merge

variable (format : AttachmentFormat) (parseChatPubkey : String → Option PublicKey)

/-- The role of a signer in a dispute, by the row loaded for it. -/
def roleInDispute (disputes : List DisputeRow) (disputeId : Uuid) (sender : PublicKey) :
    Option (ChatSender × Option ChatParty) :=
  let dispute := disputes.find? (·.disputeId = disputeId)
  disputeChatRoleForInnerSigner sender
    ((dispute.bind (·.buyerPubkey)).bind parseChatPubkey)
    ((dispute.bind (·.sellerPubkey)).bind parseChatPubkey)

/-- The line shown for a content and its attachment. -/
def disputeLineOf (content : String) : String × Option ChatAttachment :=
  match format.tryParseAttachmentMessage content with
  | some (attachment, display) => (display, some attachment)
  | none => (content, none)

/-- A line is the placeholder of an attachment of the same role that arrived at the same second. -/
def isDisputePlaceholderOf (role : ChatSender × Option ChatParty) (attachment : ChatAttachment)
    (ts : Int) (m : DisputeChatMessage) : Bool :=
  m.timestamp = ts ∧ m.sender = role.1 ∧ m.targetParty = role.2 ∧ m.attachment = none ∧
    format.legacyPlaceholderMatchesFilename m.content attachment.filename

/-- A line of the sender that already shows a message. -/
def isDisputeDuplicate (sender : ChatSender) (line : String × Option ChatAttachment) (ts : Int)
    (m : DisputeChatMessage) : Bool :=
  m.timestamp = ts ∧ m.sender = sender ∧
    (m.content = line.1 ∨
      line.2.any fun a =>
        m.attachment.any (·.blossomUrl = a.blossomUrl) ||
          format.legacyPlaceholderMatchesFilename m.content a.filename)

/-- Replace the first line that is the attachment's placeholder. -/
def upgradeDisputePlaceholder (role : ChatSender × Option ChatParty) (attachment : ChatAttachment)
    (display : String) (ts : Int) : List DisputeChatMessage → List DisputeChatMessage
  | [] => []
  | m :: ms =>
    if isDisputePlaceholderOf format role attachment ts m then
      { sender := role.1, content := display, timestamp := ts, targetParty := role.2,
        attachment := some attachment } :: ms
    else m :: upgradeDisputePlaceholder role attachment display ts ms

/-- `remember_dispute_chat_inner_id`: recorded unless the append fails. -/
def rememberDisputeInnerId (chat : DisputeChat) (party : ChatParty) (id : EventId)
    (w : WriteResult) : DisputeChat :=
  if w.remembered then
    { chat with innerIds := Function.update chat.innerIds party (id :: chat.innerIds party) }
  else chat

/-- The body of the loop of `apply_admin_chat_updates`: one message, with the newest accepted time
so far. A message of neither party is dropped, but its time counts. -/
def applyAdminMessage (disputes : List DisputeRow) (disputeId : Uuid) (party : ChatParty)
    (adminChatPubkey : Option PublicKey) (w : WriteResult) (acc : DisputeChat × Int)
    (msg : DecodedChatMessage) : DisputeChat × Int :=
  let (chat, maxTs) := acc
  let ts := msg.timestamp
  if adminChatPubkey = some msg.sender then (chat, max maxTs ts)
  else if msg.innerEventId ∈ chat.innerIds party then (chat, max maxTs ts)
  else
    match roleInDispute parseChatPubkey disputes disputeId msg.sender with
    | none => (chat, max maxTs ts)
    | some role =>
      let line := disputeLineOf format msg.content
      match line.2.filter fun a => chat.messages.any (isDisputePlaceholderOf format role a ts) with
      | some a =>
        if w.saved then
          (rememberDisputeInnerId
            { chat with
              messages := upgradeDisputePlaceholder format role a line.1 ts chat.messages }
            party msg.innerEventId w, max maxTs ts)
        else (chat, maxTs)
      | none =>
        if chat.messages.any (isDisputeDuplicate format role.1 line ts) then
          (rememberDisputeInnerId chat party msg.innerEventId w, max maxTs ts)
        else if w.saved then
          (rememberDisputeInnerId
            { chat with
              messages := chat.messages ++
                [{ sender := role.1, content := line.1, timestamp := ts, targetParty := role.2,
                   attachment := line.2 }] }
            party msg.innerEventId w, max maxTs ts)
        else (chat, maxTs)

/-- The loop over an update's messages; `io n` is what happens to the writes for the `n`-th. -/
def applyAdminMessages (disputes : List DisputeRow) (disputeId : Uuid) (party : ChatParty)
    (adminChatPubkey : Option PublicKey) (io : Nat → WriteResult) (n : Nat)
    (acc : DisputeChat × Int) : List DecodedChatMessage → DisputeChat × Int
  | [] => acc
  | msg :: msgs =>
    applyAdminMessages disputes disputeId party adminChatPubkey io (n + 1)
      (applyAdminMessage format parseChatPubkey disputes disputeId party adminChatPubkey (io n) acc
        msg) msgs

/-- Raise a cursor to a time: both are clamped to the clock and the later one is kept, unless it is
not after the epoch. `update_last_seen_timestamp` does this per side, and `apply_admin_chat_updates`
at its end. -/
def raiseLastSeen (lastSeen : Option Int) (ts now : Int) : Option Int :=
  let existing := (lastSeen.map (clampChatSinceCursor · now)).getD 0
  let new := max existing (clampChatSinceCursor ts now)
  if new > 0 then some new else lastSeen

/-- The channels' cursors, by dispute and party. -/
abbrev AdminCursors := Table (Uuid × ChatParty) Int

/-- `apply_admin_chat_updates` on one update: the chat, the cursors in memory and those in the
table, where the write can fail. -/
def applyAdminChatUpdate (disputes : List DisputeRow) (disputeId : Uuid) (party : ChatParty)
    (adminChatPubkey : Option PublicKey) (io : Nat → WriteResult) (stored : Bool) (now : Int)
    (chat : DisputeChat) (memory table : AdminCursors) (msgs : List DecodedChatMessage) :
    DisputeChat × AdminCursors × AdminCursors :=
  let lastSeen := memory (disputeId, party)
  let (chat, maxTs) :=
    applyAdminMessages format parseChatPubkey disputes disputeId party adminChatPubkey io 0
      (chat, lastSeen.getD 0) msgs
  let existing := (lastSeen.map (clampChatSinceCursor · now)).getD 0
  let newLastSeen := max existing (clampChatSinceCursor maxTs now)
  if newLastSeen > 0 then
    (chat, memory.put (disputeId, party) newLastSeen,
      if stored then table.put (disputeId, party) newLastSeen else table)
  else (chat, memory, table)

end merge

/-! ## The cursors at startup -/

/-- `seed_admin_chat_last_seen` for a party of a row: the table's cursor, clamped, replaces the one
in memory. -/
def seedParty (table : AdminCursors) (now : Int) (d : DisputeRow) (memory : AdminCursors)
    (party : ChatParty) : AdminCursors :=
  if (d.pubkey party).isSome then
    Function.update memory (d.disputeId, party)
      ((table (d.disputeId, party)).map (clampChatSinceCursor · now))
  else memory

/-- `seed_admin_chat_last_seen`. -/
def seedAdminChatLastSeen (table : AdminCursors) (now : Int) (memory : AdminCursors)
    (disputes : List DisputeRow) : AdminCursors :=
  disputes.foldl (fun memory d => [.buyer, .seller].foldl (seedParty table now d) memory) memory

/-- `update_last_seen_timestamp` for a party of a row whose transcript was read. -/
def recoverParty (read : List DisputeChatMessage) (now : Int) (d : DisputeRow)
    (memory : AdminCursors) (party : ChatParty) : AdminCursors :=
  Function.update memory (d.disputeId, party)
    (raiseLastSeen (memory (d.disputeId, party))
      (maxPartyTimestamp (read.map fun m => (m.sender, m.timestamp)) party) now)

/-- The body of the loop of `recover_admin_chat_from_files`; `files` is `load_chat_from_file`. -/
def recoverDispute (files : Uuid → Option (List DisputeChatMessage)) (now : Int)
    (acc : (Uuid → DisputeChat) × AdminCursors) (d : DisputeRow) :
    (Uuid → DisputeChat) × AdminCursors :=
  if d.inProgress then
    match files d.disputeId with
    | none => acc
    | some read =>
      (Function.update acc.1 d.disputeId { acc.1 d.disputeId with messages := read },
        [.buyer, .seller].foldl (recoverParty read now d) acc.2)
  else acc

/-- `recover_admin_chat_from_files`. -/
def recoverAdminChatFromFiles (files : Uuid → Option (List DisputeChatMessage)) (now : Int)
    (chats : Uuid → DisputeChat) (memory : AdminCursors) (disputes : List DisputeRow) :
    (Uuid → DisputeChat) × AdminCursors :=
  disputes.foldl (recoverDispute files now) (chats, memory)

end Mostrix.Chat
