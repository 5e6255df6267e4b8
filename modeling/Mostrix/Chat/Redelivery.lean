import Mostrix.Chat.RoundTrip

/-!
# A message that is delivered again

`apply_user_order_chat_updates` of `ui/helpers/startup.rs`, on the chat in memory and on the text of
its transcript: `Transcript` has the same merging with the file as a list of messages, and
`StoredChat.toUserChat_applyUserOrderChatUpdate` says that this one does the same to the rows.

A message whose inner id was not recorded is recognised by the rows alone. After a reload these are
what the file reads back: the body is the content wrapped at 80 columns, its lines are joined by
newlines, and its ends are trimmed. The message is compared with that as it is, so a content that
the wrapping changes gets a second row; and its block is compared with the file's last one only, so
it gets a second block too once another message was saved. `redelivery_adds_nothing_iff` says when
nothing is added, and `saved_text_adds_nothing_iff` what that is for a text.
-/

namespace Mostrix.Chat

open Text

/-- A user's chat: the text of its transcript file, and what the UI has of it. -/
structure StoredChat where
  file : Option Text := none
  messages : List (ChatMessage UserChatSender) := []
  /-- The durable inner ids. -/
  innerIds : List EventId := []
  lastSeen : Option Int := none

namespace StoredChat

/-! ## Merging an update -/

section merge
variable (formats : Formats)

/-- The content and the attachment of a row; the solver's channel carries text only. -/
def lineOf (key : ChatKeyId) (content : Text) : Text × Option SaveableAttachment :=
  match key with
  | .order _ =>
    match tryParseAttachmentMessage formats.encodings content with
    | some (attachment, display) => (display, some attachment)
    | none => (content, none)
  | .userDispute _ => (content, none)

/-- A row is the placeholder of an attachment that arrived at the same second. -/
def isPlaceholderOf (attachment : SaveableAttachment) (ts : Int)
    (m : ChatMessage UserChatSender) : Bool :=
  m.timestamp = ts ∧ m.attachment = none ∧
    legacyPlaceholderMatchesFilename m.content attachment.filename

/-- A row of the peer that already shows a message. -/
def isDuplicate (line : Text × Option SaveableAttachment) (ts : Int)
    (m : ChatMessage UserChatSender) : Bool :=
  m.sender = .peer ∧ m.timestamp = ts ∧
    (m.content = line.1 ∨
      line.2.any fun a =>
        m.attachment.any (·.blossomUrl = a.blossomUrl) ||
          legacyPlaceholderMatchesFilename m.content a.filename)

/-- Replace the first row that is the attachment's placeholder. -/
def upgradePlaceholder (attachment : SaveableAttachment) (display : Text) (ts : Int) :
    List (ChatMessage UserChatSender) → List (ChatMessage UserChatSender)
  | [] => []
  | m :: ms =>
    if isPlaceholderOf attachment ts m then
      { sender := m.sender, content := display, timestamp := ts,
        attachment := some attachment } :: ms
    else m :: upgradePlaceholder attachment display ts ms

/-- The text of messages that are written one behind the other, as `rewrite_order_chat_messages`
writes them. -/
def writtenText (messages : List (ChatMessage UserChatSender)) : Text :=
  messages.flatMap (formatTranscriptBlock formats userLabels)

/-- `remember_…_inner_id`: recorded unless the append fails. -/
def rememberInnerId (chat : StoredChat) (id : EventId) (w : WriteResult) : StoredChat :=
  if w.remembered then { chat with innerIds := id :: chat.innerIds } else chat

/-- The row of a message of the peer. -/
def peerRow (key : ChatKeyId) (msg : DecodedChatMessage) : ChatMessage UserChatSender :=
  let line := lineOf formats key msg.content.toList
  { sender := .peer, content := line.1, timestamp := msg.timestamp, attachment := line.2 }

/-- The body of the loop of `apply_user_order_chat_updates`: one message, with the newest accepted
time so far. -/
def applyMessage (key : ChatKeyId) (localTradePubkey : PublicKey) (w : WriteResult)
    (acc : StoredChat × Int) (msg : DecodedChatMessage) : StoredChat × Int :=
  let (chat, maxTs) := acc
  let ts := msg.timestamp
  if msg.sender = localTradePubkey then (chat, max maxTs ts)
  else if msg.innerEventId ∈ chat.innerIds then (chat, max maxTs ts)
  else
    let line := lineOf formats key msg.content.toList
    match line.2.filter fun a => chat.messages.any (isPlaceholderOf a ts) with
    | some a =>
      if w.saved then
        let messages := upgradePlaceholder a line.1 ts chat.messages
        (rememberInnerId { chat with messages, file := some (writtenText formats messages) }
          msg.innerEventId w, max maxTs ts)
      else (chat, maxTs)
    | none =>
      if chat.messages.any (isDuplicate line ts) then
        (rememberInnerId chat msg.innerEventId w, max maxTs ts)
      else if w.saved then
        let row := peerRow formats key msg
        (rememberInnerId
          { chat with
            file := saveChatMessage formats userLabels chat.file row
            messages := chat.messages ++ [row] }
          msg.innerEventId w, max maxTs ts)
      else (chat, maxTs)

/-- The loop over an update's messages; `io n` is what happens to the writes for the `n`-th. -/
def applyMessages (key : ChatKeyId) (localTradePubkey : PublicKey) (io : Nat → WriteResult)
    (n : Nat) (acc : StoredChat × Int) : List DecodedChatMessage → StoredChat × Int
  | [] => acc
  | msg :: msgs =>
    applyMessages key localTradePubkey io (n + 1)
      (applyMessage formats key localTradePubkey (io n) acc msg) msgs

/-- `apply_user_order_chat_updates` on one update. -/
def applyUserOrderChatUpdate (key : ChatKeyId) (localTradePubkey : PublicKey)
    (io : Nat → WriteResult) (now : Int) (chat : StoredChat) (msgs : List DecodedChatMessage) :
    StoredChat :=
  let (chat, maxTs) :=
    applyMessages formats key localTradePubkey io 0 (chat, chat.lastSeen.getD 0) msgs
  { chat with lastSeen := some (clampChatSinceCursor maxTs now) }

/-- `load_user_order_chats_at_startup` for a chat whose file and recorded ids these are. -/
def reload (file : Option Text) (innerIds : List EventId) (now : Int) : StoredChat :=
  let loaded := loadChatFromFile formats userLabels file
  { file, innerIds
    messages := loaded.getD []
    lastSeen := loaded.map fun messages =>
      clampChatSinceCursor ((messages.map (·.timestamp)).max?.getD 0) now }

end merge

/-! ## The rows are merged as in `Transcript` -/

section toUserChat
variable (formats : Formats)

/-- What `Transcript` keeps of an attachment. -/
def chatAttachment (a : SaveableAttachment) : ChatAttachment where
  blossomUrl := String.ofList a.blossomUrl
  filename := String.ofList a.filename

/-- What `Transcript` keeps of a row. -/
def userRow (m : ChatMessage UserChatSender) : UserOrderChatMessage where
  sender := m.sender
  content := String.ofList m.content
  timestamp := m.timestamp
  attachment := m.attachment.map chatAttachment

/-- The attachments' text formats as `Transcript` takes them. -/
def attachmentFormat : AttachmentFormat where
  tryParseAttachmentMessage content :=
    (tryParseAttachmentMessage formats.encodings content.toList).map fun (attachment, display) =>
      (chatAttachment attachment, String.ofList display)
  legacyPlaceholderMatchesFilename content filename :=
    legacyPlaceholderMatchesFilename content.toList filename.toList

/-- A chat without the text of its file. -/
def toUserChat (chat : StoredChat) : UserChat where
  messages := chat.messages.map userRow
  innerIds := chat.innerIds
  lastSeen := chat.lastSeen

theorem ofList_inj {s t : Text} : String.ofList s = String.ofList t ↔ s = t := by
  refine ⟨fun h => ?_, congrArg String.ofList⟩
  have hlist := congrArg String.toList h
  rwa [String.toList_ofList, String.toList_ofList] at hlist

theorem lineOf_attachmentFormat (key : ChatKeyId) (content : String) :
    Chat.lineOf (attachmentFormat formats) key content =
      let line := lineOf formats key content.toList
      (String.ofList line.1, line.2.map chatAttachment) := by
  cases key with
  | order id =>
    unfold Chat.lineOf lineOf
    dsimp only [attachmentFormat]
    cases tryParseAttachmentMessage formats.encodings content.toList with
    | none => exact Prod.ext (String.ofList_toList).symm rfl
    | some parsed => rfl
  | userDispute id => exact Prod.ext (String.ofList_toList).symm rfl

theorem isPlaceholderOf_userRow (a : SaveableAttachment) (ts : Int)
    (m : ChatMessage UserChatSender) :
    Chat.isPlaceholderOf (attachmentFormat formats) (chatAttachment a) ts (userRow m) =
      isPlaceholderOf a ts m := by
  simp [Chat.isPlaceholderOf, isPlaceholderOf, userRow, attachmentFormat, chatAttachment]

theorem isDuplicate_userRow (line : Text × Option SaveableAttachment) (ts : Int)
    (m : ChatMessage UserChatSender) :
    Chat.isDuplicate (attachmentFormat formats) (String.ofList line.1, line.2.map chatAttachment)
      ts (userRow m) = isDuplicate line ts m := by
  simp [Chat.isDuplicate, isDuplicate, userRow, attachmentFormat, chatAttachment, ofList_inj,
    Option.any_map]

theorem upgradePlaceholder_userRow (a : SaveableAttachment) (display : Text) (ts : Int)
    (messages : List (ChatMessage UserChatSender)) :
    Chat.upgradePlaceholder (attachmentFormat formats) (chatAttachment a) (String.ofList display)
      ts (messages.map userRow) = (upgradePlaceholder a display ts messages).map userRow := by
  induction messages with
  | nil => rfl
  | cons m ms ih =>
    rw [List.map_cons, Chat.upgradePlaceholder, upgradePlaceholder, isPlaceholderOf_userRow, ih]
    split <;> rfl

theorem any_isDuplicate_userRow (line : Text × Option SaveableAttachment) (ts : Int)
    (messages : List (ChatMessage UserChatSender)) :
    (messages.map userRow).any (Chat.isDuplicate (attachmentFormat formats)
      (String.ofList line.1, line.2.map chatAttachment) ts) =
      messages.any (isDuplicate line ts) := by
  rw [List.any_map]
  exact congrArg messages.any (funext fun m => isDuplicate_userRow formats line ts m)

theorem filter_isPlaceholderOf_userRow (attachment : Option SaveableAttachment) (ts : Int)
    (messages : List (ChatMessage UserChatSender)) :
    ((attachment.map chatAttachment).filter fun a =>
        (messages.map userRow).any (Chat.isPlaceholderOf (attachmentFormat formats) a ts)) =
      (attachment.filter fun a => messages.any (isPlaceholderOf a ts)).map chatAttachment := by
  rw [Option.filter_map]
  refine congrArg (fun p => (attachment.filter p).map chatAttachment) (funext fun a => ?_)
  rw [Function.comp_apply, List.any_map]
  exact congrArg messages.any (funext fun m => isPlaceholderOf_userRow formats a ts m)

/-- One message. -/
theorem applyMessage_toUserChat (key : ChatKeyId) (localTradePubkey : PublicKey)
    (w : WriteResult) (chat : StoredChat) (maxTs : Int) (msg : DecodedChatMessage) :
    Chat.applyMessage (attachmentFormat formats) key localTradePubkey w (chat.toUserChat, maxTs)
      msg =
      let next := applyMessage formats key localTradePubkey w (chat, maxTs) msg
      (next.1.toUserChat, next.2) := by
  unfold Chat.applyMessage applyMessage
  dsimp only [toUserChat]
  rw [lineOf_attachmentFormat]
  dsimp only
  rw [filter_isPlaceholderOf_userRow, any_isDuplicate_userRow]
  by_cases hown : msg.sender = localTradePubkey
  · simp only [if_pos hown]
  simp only [if_neg hown]
  by_cases hknown : msg.innerEventId ∈ chat.innerIds
  · simp only [if_pos hknown]
  simp only [if_neg hknown]
  cases (lineOf formats key msg.content.toList).2.filter
      fun a => chat.messages.any (isPlaceholderOf a msg.timestamp) with
  | some a =>
    dsimp only [Option.map_some]
    cases w.saved with
    | false => rfl
    | true =>
      simp only [if_true, upgradePlaceholder_userRow, Chat.rememberInnerId, rememberInnerId]
      cases w.remembered <;> rfl
  | none =>
    dsimp only [Option.map_none]
    split
    · simp only [Chat.rememberInnerId, rememberInnerId]
      cases w.remembered <;> rfl
    · cases w.saved with
      | false => rfl
      | true =>
        simp only [if_true, Chat.rememberInnerId, rememberInnerId, peerRow]
        cases w.remembered with
        | false => simp [userRow]
        | true => simp [userRow]

/-- **The two models agree**: an update does the same to the rows with the text of the file and
without it. -/
theorem toUserChat_applyUserOrderChatUpdate (key : ChatKeyId) (localTradePubkey : PublicKey)
    (io : Nat → WriteResult) (now : Int) (chat : StoredChat) (msgs : List DecodedChatMessage) :
    (applyUserOrderChatUpdate formats key localTradePubkey io now chat msgs).toUserChat =
      Chat.applyUserOrderChatUpdate (attachmentFormat formats) key localTradePubkey io now
        chat.toUserChat msgs := by
  have hloop : ∀ (n : Nat) (chat : StoredChat) (maxTs : Int),
      let next := applyMessages formats key localTradePubkey io n (chat, maxTs) msgs
      Chat.applyMessages (attachmentFormat formats) key localTradePubkey io n
        (chat.toUserChat, maxTs) msgs = (next.1.toUserChat, next.2) := by
    induction msgs with
    | nil => exact fun _ _ _ => rfl
    | cons msg msgs ih =>
      intro n chat maxTs
      dsimp only
      rw [Chat.applyMessages, applyMessage_toUserChat]
      exact ih (n + 1) _ _
  unfold applyUserOrderChatUpdate Chat.applyUserOrderChatUpdate
  dsimp only
  rw [show chat.toUserChat.lastSeen = chat.lastSeen from rfl, hloop]
  rfl

end toUserChat

/-! ## The rows of a reloaded chat -/

section reload
variable (formats : Formats)

/-- The messages of a written file whose blocks are read: those with a time the clock knows, unless
a newline that a blank message left in front swallows them. -/
def readBlocks : Bool → List (ChatMessage UserChatSender) → List (ChatMessage UserChatSender)
  | _, [] => []
  | carried, m :: ms =>
    (if carried = false ∧ (formats.clock.format m.timestamp).isSome then [m] else []) ++
      readBlocks (swallowsNext m) ms

/-- The row that a message's block is read as. -/
def shownRow (m : ChatMessage UserChatSender) : ChatMessage UserChatSender :=
  MessageBlock.message formats (messageBlock formats userLabels m)

/-- What the blocks of a written file are read as. -/
def writtenBlocks :
    Bool → List (ChatMessage UserChatSender) → List (Option (MessageBlock UserChatSender))
  | _, [] => []
  | carried, m :: ms =>
    (if carried then none else storedBlock formats userLabels m) ::
      writtenBlocks (swallowsNext m) ms

theorem readBlocks_cons (carried : Bool) (m : ChatMessage UserChatSender)
    (ms : List (ChatMessage UserChatSender)) :
    readBlocks formats carried (m :: ms) =
      (if carried = false ∧ (formats.clock.format m.timestamp).isSome then [m] else []) ++
        readBlocks formats (swallowsNext m) ms := rfl

theorem writtenBlocks_cons (carried : Bool) (m : ChatMessage UserChatSender)
    (ms : List (ChatMessage UserChatSender)) :
    writtenBlocks formats carried (m :: ms) =
      (if carried then none else storedBlock formats userLabels m) ::
        writtenBlocks formats (swallowsNext m) ms := rfl

theorem length_writtenBlocks (carried : Bool) (written : List (ChatMessage UserChatSender)) :
    (writtenBlocks formats carried written).length = written.length := by
  induction written generalizing carried with
  | nil => rfl
  | cons m ms ih => rw [writtenBlocks_cons, List.length_cons, List.length_cons, ih]

theorem length_readBlocks_le (carried : Bool) (written : List (ChatMessage UserChatSender)) :
    (readBlocks formats carried written).length ≤ written.length := by
  induction written generalizing carried with
  | nil => exact Nat.le_refl 0
  | cons m ms ih =>
    rw [readBlocks_cons, List.length_append, List.length_cons, Nat.add_comm]
    refine Nat.add_le_add (ih _) ?_
    split
    · exact Nat.le_refl 1
    · exact Nat.zero_le 1

theorem reduceOption_writtenBlocks (carried : Bool)
    (written : List (ChatMessage UserChatSender)) :
    (writtenBlocks formats carried written).reduceOption =
      (readBlocks formats carried written).map (messageBlock formats userLabels) := by
  induction written generalizing carried with
  | nil => rfl
  | cons m ms ih =>
    rw [writtenBlocks_cons, readBlocks_cons, List.map_append, ← ih]
    unfold storedBlock
    cases carried with
    | true => simp [List.reduceOption_cons_of_none]
    | false =>
      by_cases htime : (formats.clock.format m.timestamp).isSome = true
      · simp [htime, List.reduceOption_cons_of_some]
      · simp [htime, List.reduceOption_cons_of_none]

/-- A file holds what was written to it behind what it held. -/
theorem holds_writtenText {file : Option Text}
    {blocks : List (Option (MessageBlock UserChatSender))} {carried : Bool}
    (h : TranscriptHolds formats userLabels file blocks carried)
    (written : List (ChatMessage UserChatSender)) :
    ∃ carried', TranscriptHolds formats userLabels
      (some (file.getD [] ++ writtenText formats written))
      (blocks ++ writtenBlocks formats carried written) carried' := by
  induction written generalizing file blocks carried with
  | nil =>
    refine ⟨carried, ?_⟩
    show TranscriptHolds formats userLabels (some (file.getD [] ++ [])) (blocks ++ []) carried
    rw [List.append_nil, List.append_nil]
    exact h
  | cons m ms ih =>
    obtain ⟨carried', hms⟩ := ih (h.append m)
    refine ⟨carried', ?_⟩
    rw [writtenText, List.flatMap_cons, writtenBlocks_cons, ← List.append_assoc]
    rw [List.append_assoc, List.singleton_append] at hms
    exact hms

/-- What a written file holds. -/
theorem exists_holds_writtenText (written : List (ChatMessage UserChatSender)) :
    ∃ carried, TranscriptHolds formats userLabels (some (writtenText formats written))
      (writtenBlocks formats false written) carried :=
  holds_writtenText formats (transcriptHolds_none formats userLabels) written

/-- A written file has a block for each message. -/
theorem length_transcriptBlocks (written : List (ChatMessage UserChatSender)) :
    (transcriptBlocks (writtenText formats written)).length = written.length := by
  obtain ⟨carried, h⟩ := exists_holds_writtenText formats written
  have hlength := congrArg List.length h.blocks_eq
  rwa [List.length_map, length_writtenBlocks] at hlength

/-- The rows of a reloaded chat. -/
theorem messages_reload (written : List (ChatMessage UserChatSender)) (innerIds : List EventId)
    (now : Int) :
    (reload formats (some (writtenText formats written)) innerIds now).messages =
      (readBlocks formats false written).map (shownRow formats) := by
  obtain ⟨carried, h⟩ := exists_holds_writtenText formats written
  show (loadChatFromFile formats userLabels _).getD [] = _
  rw [h.load, reduceOption_writtenBlocks, List.map_map]
  rfl

end reload

/-! ## A message that is delivered again -/

section
variable (formats : Formats)

/-- Nothing is added to a chat: no row in memory, and no block in the file. -/
structure AddsNothing (before after : StoredChat) : Prop where
  rows : after.messages.length ≤ before.messages.length
  blocks : (transcriptBlocks (after.file.getD [])).length ≤
    (transcriptBlocks (before.file.getD [])).length

/-- A row is taken for a message: for the placeholder of its attachment, or for the message. -/
def TakenFor (line : Text × Option SaveableAttachment) (ts : Int)
    (row : ChatMessage UserChatSender) : Prop :=
  (∃ a ∈ line.2, isPlaceholderOf a ts row = true) ∨ isDuplicate line ts row = true

variable {formats}

theorem length_upgradePlaceholder (a : SaveableAttachment) (display : Text) (ts : Int)
    (messages : List (ChatMessage UserChatSender)) :
    (upgradePlaceholder a display ts messages).length = messages.length := by
  induction messages with
  | nil => rfl
  | cons m ms ih =>
    rw [upgradePlaceholder]
    split
    · rfl
    · rw [List.length_cons, List.length_cons, ih]

theorem rememberInnerId_messages (chat : StoredChat) (id : EventId) (w : WriteResult) :
    (rememberInnerId chat id w).messages = chat.messages := by
  unfold rememberInnerId
  split <;> rfl

theorem rememberInnerId_file (chat : StoredChat) (id : EventId) (w : WriteResult) :
    (rememberInnerId chat id w).file = chat.file := by
  unfold rememberInnerId
  split <;> rfl

theorem AddsNothing.of_eq {before after : StoredChat} (hmessages : after.messages = before.messages)
    (hfile : after.file = before.file) : AddsNothing before after := by
  refine ⟨?_, ?_⟩
  · rw [hmessages]
  · rw [hfile]

/-- The two ways of taking a row for a message, as the loop tries them. -/
theorem exists_takenFor_iff {line : Text × Option SaveableAttachment} {ts : Int}
    {messages : List (ChatMessage UserChatSender)} :
    (∃ row ∈ messages, TakenFor line ts row) ↔
      (line.2.filter fun a => messages.any (isPlaceholderOf a ts)) ≠ none ∨
        messages.any (isDuplicate line ts) = true := by
  rw [Option.ne_none_iff_exists']
  simp only [Option.filter_eq_some_iff, List.any_eq_true, TakenFor]
  constructor
  · rintro ⟨row, hrow, ⟨a, ha, hplace⟩ | hdup⟩
    · exact .inl ⟨a, ha, row, hrow, hplace⟩
    · exact .inr ⟨row, hrow, hdup⟩
  · rintro (⟨a, ha, row, hrow, hplace⟩ | ⟨row, hrow, hdup⟩)
    · exact ⟨row, hrow, .inl ⟨a, ha, hplace⟩⟩
    · exact ⟨row, hrow, .inr hdup⟩

/-- A row that is taken for a message keeps it from being added. -/
theorem AddsNothing.of_takenFor {key : ChatKeyId} (localTradePubkey : PublicKey)
    (w : WriteResult) {chat : StoredChat} (maxTs : Int) {msg : DecodedChatMessage}
    (hrows : chat.messages.length ≤ (transcriptBlocks (chat.file.getD [])).length)
    (h : ∃ row ∈ chat.messages,
      TakenFor (lineOf formats key msg.content.toList) msg.timestamp row) :
    AddsNothing chat (applyMessage formats key localTradePubkey w (chat, maxTs) msg).1 := by
  have hremember := fun chat => of_eq (rememberInnerId_messages chat msg.innerEventId w)
    (rememberInnerId_file chat msg.innerEventId w)
  unfold applyMessage
  dsimp only
  split
  · exact of_eq rfl rfl
  split
  · exact of_eq rfl rfl
  split
  · next a _ =>
    split
    · -- the placeholder is replaced, and the file is written again with as many blocks as rows
      refine ⟨?_, ?_⟩
      · rw [rememberInnerId_messages, length_upgradePlaceholder]
      · rw [rememberInnerId_file]
        dsimp only [Option.getD_some]
        rw [length_transcriptBlocks, length_upgradePlaceholder]
        exact hrows
    · exact of_eq rfl rfl
  · next hplace =>
    rcases exists_takenFor_iff.1 h with hsome | hdup
    · exact absurd hplace hsome
    · rw [if_pos hdup]
      exact hremember chat

/-- A message of the peer that no row is taken for is added as a row. -/
theorem messages_applyMessage_of_not {key : ChatKeyId} {localTradePubkey : PublicKey}
    {w : WriteResult} {chat : StoredChat} (maxTs : Int) {msg : DecodedChatMessage}
    (hsender : msg.sender ≠ localTradePubkey) (hid : msg.innerEventId ∉ chat.innerIds)
    (hsaved : w.saved = true)
    (h : ¬ ∃ row ∈ chat.messages,
      TakenFor (lineOf formats key msg.content.toList) msg.timestamp row) :
    (applyMessage formats key localTradePubkey w (chat, maxTs) msg).1.messages =
      chat.messages ++ [peerRow formats key msg] := by
  rw [exists_takenFor_iff, not_or, not_not] at h
  unfold applyMessage
  dsimp only
  rw [if_neg hsender, if_neg hid, h.1]
  dsimp only
  rw [if_neg h.2, if_pos hsaved, rememberInnerId_messages]

/-- The echo of a message of the user's own adds nothing. -/
theorem AddsNothing.of_own {key : ChatKeyId} {localTradePubkey : PublicKey} (w : WriteResult)
    (chat : StoredChat) (maxTs : Int) {msg : DecodedChatMessage}
    (h : msg.sender = localTradePubkey) :
    AddsNothing chat (applyMessage formats key localTradePubkey w (chat, maxTs) msg).1 := by
  unfold applyMessage
  dsimp only
  rw [if_pos h]
  exact of_eq rfl rfl

/-- An update of one message adds what the message adds. -/
theorem addsNothing_singleton_iff {key : ChatKeyId} {localTradePubkey : PublicKey}
    {io : Nat → WriteResult} {now : Int} {chat : StoredChat} {msg : DecodedChatMessage} :
    AddsNothing chat (applyUserOrderChatUpdate formats key localTradePubkey io now chat [msg]) ↔
      AddsNothing chat
        (applyMessage formats key localTradePubkey (io 0) (chat, chat.lastSeen.getD 0) msg).1 :=
  ⟨fun h => ⟨h.rows, h.blocks⟩, fun h => ⟨h.rows, h.blocks⟩⟩

/-- In a chat with a block for each row, a message that was not recorded adds nothing, whatever
happens to the writes, exactly when it is the user's own or some row is taken for it. -/
theorem addsNothing_iff {key : ChatKeyId} {localTradePubkey : PublicKey} {now : Int}
    {chat : StoredChat} {msg : DecodedChatMessage}
    (hrows : chat.messages.length ≤ (transcriptBlocks (chat.file.getD [])).length)
    (hid : msg.innerEventId ∉ chat.innerIds) :
    (∀ io, AddsNothing chat
      (applyUserOrderChatUpdate formats key localTradePubkey io now chat [msg])) ↔
      msg.sender = localTradePubkey ∨
        ∃ row ∈ chat.messages,
          TakenFor (lineOf formats key msg.content.toList) msg.timestamp row := by
  simp only [addsNothing_singleton_iff]
  refine ⟨fun h => ?_, fun h io => ?_⟩
  · by_contra hnot
    obtain ⟨hsender, hrow⟩ := not_or.1 hnot
    have hle := (h fun _ => ⟨true, true⟩).rows
    rw [messages_applyMessage_of_not _ hsender hid rfl hrow, List.length_append] at hle
    exact Nat.not_succ_le_self _ hle
  · rcases h with hown | hrow
    · exact .of_own _ chat _ hown
    · exact .of_takenFor _ _ _ hrows hrow

/-- A reloaded chat has a block for each row. -/
theorem rows_le_blocks_reload (formats : Formats) (written : List (ChatMessage UserChatSender))
    (innerIds : List EventId) (now : Int) :
    let chat := reload formats (some (writtenText formats written)) innerIds now
    chat.messages.length ≤ (transcriptBlocks (chat.file.getD [])).length := by
  intro chat
  rw [messages_reload, List.length_map]
  show _ ≤ (transcriptBlocks (writtenText formats written)).length
  rw [length_transcriptBlocks]
  exact length_readBlocks_le formats false written

end

/-- **A message that is delivered again** after a reload, and whose inner id was not recorded, adds
no row and no block whatever happens to the writes exactly when it is an echo of the user's own, or
some block of the transcript is read back as a row that is taken for it. -/
theorem redelivery_adds_nothing_iff (formats : Formats) (key : ChatKeyId)
    (localTradePubkey : PublicKey) (reloadedAt now : Int)
    (written : List (ChatMessage UserChatSender)) {innerIds : List EventId}
    {msg : DecodedChatMessage} (hid : msg.innerEventId ∉ innerIds) :
    let chat := reload formats (some (writtenText formats written)) innerIds reloadedAt
    (∀ io, AddsNothing chat
      (applyUserOrderChatUpdate formats key localTradePubkey io now chat [msg])) ↔
      msg.sender = localTradePubkey ∨
        ∃ m ∈ readBlocks formats false written,
          TakenFor (lineOf formats key msg.content.toList) msg.timestamp (shownRow formats m) := by
  intro chat
  rw [addsNothing_iff (rows_le_blocks_reload formats written innerIds reloadedAt) hid,
    messages_reload]
  simp only [List.mem_map, exists_exists_and_eq_and]

/-! ### A text -/

section
variable {formats : Formats}

/-- A text is read back as it was sent: its wrapped lines are the text itself, or an attachment that
is shown as the text. -/
def KeptAsIs (formats : Formats) (content : Text) : Prop :=
  let body := trim (joinLines (wrapTextToLines formats.width 80 content))
  match tryParseAttachmentMessage formats.encodings body with
  | some (_, display) => display = content
  | none => body = content

/-- The lines of a text are the text when it is empty, or when wrapping it changes nothing. -/
theorem trim_wrapped_eq_iff (content : Text) :
    trim (joinLines (wrapTextToLines formats.width 80 content)) = content ↔
      content = [] ∨
        ¬ IsBlank content ∧ joinLines (wrapTextToLines formats.width 80 content) = content := by
  by_cases hblank : IsBlank content
  · rw [wrapTextToLines_of_isBlank hblank]
    have hbody : joinLines [content] = content := by simp [joinLines]
    rw [hbody, trim_eq_nil_iff.2 hblank]
    simp [hblank, eq_comm]
  · obtain ⟨ls, hwrap, hne, hlines, -⟩ := wrapped_words formats.width 80 (by decide) hblank
    have hcontent : content ≠ [] := by
      rintro rfl
      exact hblank fun c hc => absurd hc List.not_mem_nil
    rw [hwrap, (isTrimmed_joinLines hne hlines).trim_eq]
    simp [hblank, hcontent]

theorem shownRow_content_iff (m : ChatMessage UserChatSender) (htext : m.attachment = none) :
    (shownRow formats m).content = m.content ↔ KeptAsIs formats m.content := by
  have hbody : transcriptBody formats m =
      joinLines (wrapTextToLines formats.width 80 m.content) := by
    unfold transcriptBody
    rw [htext]
  unfold shownRow MessageBlock.message messageFieldsFromTranscriptContent messageBlock KeptAsIs
  rw [hbody]
  dsimp only
  cases tryParseAttachmentMessage formats.encodings
      (trim (joinLines (wrapTextToLines formats.width 80 m.content))) with
  | none => rfl
  | some parsed => rfl

/-- A content that is no attachment is shown as it is. -/
theorem lineOf_of_text {key : ChatKeyId} {content : Text}
    (h : (lineOf formats key content).2 = none) : lineOf formats key content = (content, none) := by
  unfold lineOf at h ⊢
  cases key with
  | order id =>
    dsimp only at h ⊢
    cases hparse : tryParseAttachmentMessage formats.encodings content with
    | none => rfl
    | some parsed =>
      rw [hparse] at h
      cases h
  | userDispute id => rfl

/-- A row is taken for a text when it is the peer's, of the same second, and shows the text. -/
theorem takenFor_text_iff {content : Text} {ts : Int} {row : ChatMessage UserChatSender} :
    TakenFor (content, none) ts row ↔
      row.sender = .peer ∧ row.timestamp = ts ∧ row.content = content := by
  simp [TakenFor, isDuplicate]

/-- Whether the newline that messages leave in front of the next block swallows it. -/
def carriedBehind (carried : Bool) (written : List (ChatMessage UserChatSender)) : Bool :=
  (written.getLast?.map swallowsNext).getD carried

theorem readBlocks_append (carried : Bool) (before ms : List (ChatMessage UserChatSender)) :
    readBlocks formats carried (before ++ ms) =
      readBlocks formats carried before ++
        readBlocks formats (carriedBehind carried before) ms := by
  induction before generalizing carried with
  | nil => rfl
  | cons m before ih =>
    have hbehind : carriedBehind carried (m :: before) =
        carriedBehind (swallowsNext m) before := by
      unfold carriedBehind
      cases before with
      | nil => rfl
      | cons m' before => rw [List.getLast?_cons_cons]; simp [List.getLast?_cons]
    rw [List.cons_append, readBlocks_cons, readBlocks_cons, ih, hbehind, List.append_assoc]

theorem readBlocks_subset (carried : Bool) (written : List (ChatMessage UserChatSender)) :
    readBlocks formats carried written ⊆ written := by
  induction written generalizing carried with
  | nil => exact List.Subset.refl []
  | cons m ms ih =>
    rw [readBlocks_cons]
    refine List.append_subset.2 ⟨?_, List.Subset.trans (ih _) (List.subset_cons_self m ms)⟩
    split
    · exact List.cons_subset.2 ⟨List.mem_cons_self, List.nil_subset _⟩
    · exact List.nil_subset _

end

/-- The block of a message, the only one of its second, is read back when its time is known and no
blank message leaves a newline in front of it. -/
theorem mem_readBlocks_iff (formats : Formats) {before after : List (ChatMessage UserChatSender)}
    {m : ChatMessage UserChatSender}
    (halone : ∀ m' ∈ before ++ after, m'.timestamp ≠ m.timestamp) :
    m ∈ readBlocks formats false (before ++ m :: after) ↔
      (formats.clock.format m.timestamp).isSome = true ∧
        ∀ m' ∈ before.getLast?, swallowsNext m' = false := by
  have hbefore : m ∉ readBlocks formats false before := fun h =>
    halone m (List.mem_append_left _ (readBlocks_subset _ _ h)) rfl
  have hafter : m ∉ readBlocks formats (swallowsNext m) after := fun h =>
    halone m (List.mem_append_right _ (readBlocks_subset _ _ h)) rfl
  have hcarried : carriedBehind false before = false ↔
      ∀ m' ∈ before.getLast?, swallowsNext m' = false := by
    unfold carriedBehind
    cases before.getLast? with
    | none => simp
    | some m' => simp
  rw [readBlocks_append, readBlocks_cons, List.mem_append, List.mem_append, or_iff_right hbefore,
    or_iff_left hafter, ← hcarried]
  split
  · next h => simp [h.2, h.1]
  · next h => simpa [and_comm] using h

/-- A saved text, the only message of its second, adds nothing when it is delivered again exactly
when its block is read back, and as the text it is. -/
theorem saved_text_adds_nothing_iff (formats : Formats) (key : ChatKeyId)
    {localTradePubkey : PublicKey} (reloadedAt now : Int)
    {before after : List (ChatMessage UserChatSender)} {innerIds : List EventId}
    {msg : DecodedChatMessage} (hid : msg.innerEventId ∉ innerIds)
    (hsender : msg.sender ≠ localTradePubkey)
    (htext : (lineOf formats key msg.content.toList).2 = none)
    (halone : ∀ m ∈ before ++ after, m.timestamp ≠ msg.timestamp) :
    let written := before ++ peerRow formats key msg :: after
    let chat := reload formats (some (writtenText formats written)) innerIds reloadedAt
    (∀ io, AddsNothing chat
      (applyUserOrderChatUpdate formats key localTradePubkey io now chat [msg])) ↔
      ((formats.clock.format msg.timestamp).isSome = true ∧
        ∀ m ∈ before.getLast?, swallowsNext m = false) ∧
        KeptAsIs formats msg.content.toList := by
  intro written chat
  have hline := lineOf_of_text htext
  have hrow : peerRow formats key msg =
      { sender := .peer, content := msg.content.toList, timestamp := msg.timestamp } := by
    unfold peerRow
    rw [hline]
  have hread : peerRow formats key msg ∈ readBlocks formats false written ↔
      (formats.clock.format msg.timestamp).isSome = true ∧
        ∀ m ∈ before.getLast?, swallowsNext m = false :=
    mem_readBlocks_iff formats halone
  have hkept : (shownRow formats (peerRow formats key msg)).content = msg.content.toList ↔
      KeptAsIs formats msg.content.toList := by
    rw [hrow]
    exact shownRow_content_iff _ rfl
  rw [addsNothing_iff (rows_le_blocks_reload formats written innerIds reloadedAt) hid,
    or_iff_right hsender, messages_reload, hline, ← hread, ← hkept]
  simp only [List.mem_map, exists_exists_and_eq_and, takenFor_text_iff]
  constructor
  · rintro ⟨m, hm, -, hts, hcontent⟩
    -- no other message has the second
    obtain rfl : m = peerRow formats key msg := by
      rcases List.mem_append.1 (readBlocks_subset _ _ hm) with hmem | hmem
      · exact absurd hts (halone m (List.mem_append_left _ hmem))
      · rcases List.mem_cons.1 hmem with rfl | hmem
        · rfl
        · exact absurd hts (halone m (List.mem_append_right _ hmem))
    exact ⟨hm, hcontent⟩
  · rintro ⟨hm, hcontent⟩
    exact ⟨_, hm, rfl, rfl, hcontent⟩

/-! ### Fixed inputs -/

/-- A message of the counterparty, and an answer. -/
def textAndAnswer (content : Text) : List (ChatMessage UserChatSender) :=
  [{ sender := .peer, content, timestamp := 0 },
    { sender := .you, content := "ok".toList, timestamp := 1 }]

/-- The message as it is delivered. -/
def delivered (content : String) : DecodedChatMessage where
  sender := "peer"
  content := content
  timestamp := 0
  innerEventId := 5

theorem redelivery_adds_nothing_hi :
    let chat := reload plainFormats (some (writtenText plainFormats (textAndAnswer "hi".toList)))
      [] 2
    ∀ io, AddsNothing chat
      (applyUserOrderChatUpdate plainFormats (.order 1) "me" io 3 chat [delivered "hi"]) := by
  refine (redelivery_adds_nothing_iff plainFormats (.order 1) "me" 2 3 _
    (List.not_mem_nil)).2 (.inr ⟨_, .head _, .inr ?_⟩)
  decide +kernel

/-- A message of two lines is in the transcript, is loaded from it as one line, and is added a
second time to the rows and to the file. -/
theorem two_lines_added_again :
    let chat := reload plainFormats (some (writtenText plainFormats (textAndAnswer "a\nb".toList)))
      [] 2
    let after := applyUserOrderChatUpdate plainFormats (.order 1) "me" (fun _ => ⟨true, true⟩) 3
      chat [delivered "a\nb"]
    peerRow plainFormats (.order 1) (delivered "a\nb") ∈ textAndAnswer "a\nb".toList ∧
      (delivered "a\nb").innerEventId ∉ chat.innerIds ∧
      (chat.messages.length, after.messages.length) = (2, 3) ∧
      ((transcriptBlocks (chat.file.getD [])).length,
        (transcriptBlocks (after.file.getD [])).length) = (2, 3) ∧
      ¬ AddsNothing chat after := by
  intro chat after
  have hrows : (chat.messages.length, after.messages.length) = (2, 3) := by decide +kernel
  have hblocks : ((transcriptBlocks (chat.file.getD [])).length,
      (transcriptBlocks (after.file.getD [])).length) = (2, 3) := by decide +kernel
  refine ⟨?_, List.not_mem_nil, hrows, hblocks, fun h => ?_⟩
  · have hline : lineOf plainFormats (.order 1) "a\nb".toList = ("a\nb".toList, none) := by
      decide +kernel
    unfold peerRow
    rw [show (delivered "a\nb").content = "a\nb" from rfl, hline]
    exact .head _
  · have hle := h.rows
    have hbefore := congrArg Prod.fst hrows
    have hafter := congrArg Prod.snd hrows
    dsimp only at hbefore hafter
    omega

end StoredChat

end Mostrix.Chat
