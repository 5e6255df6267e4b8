import Mostrix.Library.Run
import Mostrix.Chat.Listener

/-!
# No accepted message is lost

A message the listener accepts is noted in its seen sets before it is emitted, so a redelivery is
turned away from then on. That is sound while the message is on its way to the transcript, and it is
not when the emission was dropped or the write failed. `nothing_lost` is the run in which neither
happens and no restart loses a queued update: there the seen sets, the durable inner ids and the
cursor never pass a message that is not in the transcript, on its way to it, or our own echo.

The invariant `Kept` says that of every accepted message. A drain keeps it message by message
(`applyMessages_shows`), an emission by appending to the channel (`kept_of_emitted`).
-/

namespace Mostrix.Chat

/-! ## What the transcript shows -/

section transcript

variable {format : AttachmentFormat} {key : ChatKeyId}

/-- A line of the transcript shows a message: it has its time and its text or attachment, or an
attachment that took the place of that text. -/
def Shows (format : AttachmentFormat) (key : ChatKeyId) (e : UserOrderChatMessage)
    (m : DecodedChatMessage) : Prop :=
  e.timestamp = m.timestamp ∧
    (e.content = (lineOf format key m.content).1 ∨
      (∃ a b, (lineOf format key m.content).2 = some a ∧ e.attachment = some b ∧
        (b.blossomUrl = a.blossomUrl ∨
          format.legacyPlaceholderMatchesFilename e.content a.filename = true)) ∨
      ∃ b, e.attachment = some b ∧
        format.legacyPlaceholderMatchesFilename (lineOf format key m.content).1 b.filename = true)

/-- The chat's transcript shows a message. -/
def Shown (format : AttachmentFormat) (key : ChatKeyId) (chat : UserChat)
    (m : DecodedChatMessage) : Prop :=
  ∃ e ∈ chat.messages, Shows format key e m

/-- Recording an id adds that id at most. -/
theorem of_mem_rememberInnerId {chat : UserChat} {id id' : EventId} {w : WriteResult}
    (h : id' ∈ (rememberInnerId chat id w).innerIds) : id' = id ∨ id' ∈ chat.innerIds := by
  unfold rememberInnerId at h
  split at h
  · exact List.mem_cons.1 h
  · exact .inr h

/-- An upgrade keeps every line but a placeholder of the attachment, which it replaces. -/
theorem mem_upgradePlaceholder {a : ChatAttachment} {display : String} {ts : Int}
    {ms : List UserOrderChatMessage} {e : UserOrderChatMessage} (h : e ∈ ms) :
    e ∈ upgradePlaceholder format a display ts ms ∨
      isPlaceholderOf format a ts e = true ∧
        { sender := e.sender, content := display, timestamp := ts, attachment := some a } ∈
          upgradePlaceholder format a display ts ms := by
  induction ms with
  | nil => cases h
  | cons m ms ih =>
    unfold upgradePlaceholder
    rcases List.mem_cons.1 h with rfl | hmem
    · split
      · next hp => exact .inr ⟨hp, List.mem_cons_self⟩
      · exact .inl List.mem_cons_self
    · split
      · exact .inl (List.mem_cons_of_mem _ hmem)
      · rcases ih hmem with hkept | ⟨hp, hup⟩
        · exact .inl (List.mem_cons_of_mem _ hkept)
        · exact .inr ⟨hp, List.mem_cons_of_mem _ hup⟩

/-- Where a line is the attachment's placeholder, an upgrade leaves a line with the attachment. -/
theorem exists_upgraded {a : ChatAttachment} {display : String} {ts : Int}
    {ms : List UserOrderChatMessage} (h : ms.any (isPlaceholderOf format a ts) = true) :
    ∃ e ∈ upgradePlaceholder format a display ts ms, e.timestamp = ts ∧ e.content = display := by
  induction ms with
  | nil => cases h
  | cons m ms ih =>
    unfold upgradePlaceholder
    split
    · exact ⟨_, List.mem_cons_self, rfl, rfl⟩
    · next hp =>
      rw [List.any_cons, Bool.eq_false_iff.2 hp, Bool.false_or] at h
      obtain ⟨e, he, hts, hcontent⟩ := ih h
      exact ⟨e, List.mem_cons_of_mem _ he, hts, hcontent⟩

/-- A placeholder of an attachment has its second, no attachment and the matching text. -/
theorem isPlaceholderOf_iff {a : ChatAttachment} {ts : Int} {e : UserOrderChatMessage} :
    isPlaceholderOf format a ts e = true ↔ e.timestamp = ts ∧ e.attachment = none ∧
      format.legacyPlaceholderMatchesFilename e.content a.filename = true := by
  unfold isPlaceholderOf
  exact decide_eq_true_iff

/-- What a transcript shows before an upgrade it shows after it: the attachment took the place of
the text. -/
theorem shown_upgrade {a : ChatAttachment} {display : String} {ts : Int} {chat : UserChat}
    {m : DecodedChatMessage} (h : Shown format key chat m) :
    Shown format key
      { chat with messages := upgradePlaceholder format a display ts chat.messages } m := by
  obtain ⟨e, he, hts, hshows⟩ := h
  rcases mem_upgradePlaceholder he with hkept | ⟨hp, hup⟩
  · exact ⟨e, hkept, hts, hshows⟩
  · obtain ⟨hts', hnone, hlegacy⟩ := isPlaceholderOf_iff.1 hp
    refine ⟨_, hup, hts'.symm.trans hts, .inr (.inr ⟨a, rfl, ?_⟩)⟩
    rcases hshows with hcontent | ⟨a', b, -, hb, -⟩ | ⟨b, hb, -⟩
    · rw [← hcontent]
      exact hlegacy
    · rw [hnone] at hb
      cases hb
    · rw [hnone] at hb
      cases hb

/-- A duplicate line shows the message, unless it is the placeholder its attachment replaces. -/
theorem shows_of_isDuplicate {e : UserOrderChatMessage} {m : DecodedChatMessage}
    (h : isDuplicate format (lineOf format key m.content) m.timestamp e = true)
    (hno : ∀ a, (lineOf format key m.content).2 = some a →
      isPlaceholderOf format a m.timestamp e = false) : Shows format key e m := by
  unfold isDuplicate at h
  obtain ⟨-, hts, hdup⟩ := of_decide_eq_true h
  refine ⟨hts, ?_⟩
  rcases hdup with hcontent | hatt
  · exact .inl hcontent
  · obtain ⟨a, ha, hor⟩ := (Option.any_eq_true ..).1 hatt
    rcases Bool.or_eq_true_iff.1 hor with hurl | hlegacy
    · obtain ⟨b, hb, hba⟩ := (Option.any_eq_true ..).1 hurl
      exact .inr (.inl ⟨a, b, ha, hb, .inl (of_decide_eq_true hba)⟩)
    · cases hb : e.attachment with
      | none =>
        have hp := isPlaceholderOf_iff.2 ⟨hts, hb, hlegacy⟩
        rw [hno a ha] at hp
        cases hp
      | some b => exact .inr (.inl ⟨a, b, ha, rfl, .inr hlegacy⟩)

/-! ## Merging an update -/

/-- Recording an id changes nothing that is shown. -/
@[simp] theorem shown_rememberInnerId {chat : UserChat} {id : EventId} {w : WriteResult}
    {m : DecodedChatMessage} :
    Shown format key (rememberInnerId chat id w) m ↔ Shown format key chat m := by
  unfold Shown
  rw [rememberInnerId_messages]

/-- A longer transcript shows what the shorter one did. -/
theorem shown_append {chat : UserChat} {m : DecodedChatMessage} (e : UserOrderChatMessage)
    (h : Shown format key chat m) :
    Shown format key { chat with messages := chat.messages ++ [e] } m := by
  obtain ⟨e', he', hs⟩ := h
  exact ⟨e', List.mem_append_left _ he', hs⟩

/-- What a message's turn in an update leaves: a chat that shows what it showed, and shows the
message unless it is our own echo or its id was recorded before; a newly recorded id is the
message's. -/
structure Merged (format : AttachmentFormat) (key : ChatKeyId) (localTradePubkey : PublicKey)
    (msg : DecodedChatMessage) (chat chat' : UserChat) : Prop where
  keeps : ∀ m, Shown format key chat m → Shown format key chat' m
  shows : msg.sender = localTradePubkey ∨ msg.innerEventId ∈ chat.innerIds ∨
    Shown format key chat' msg
  records : ∀ id ∈ chat'.innerIds, id ∈ chat.innerIds ∨
    id = msg.innerEventId ∧ Shown format key chat' msg

/-- Recording the id of a message that is now shown. -/
theorem merged_rememberInnerId {localTradePubkey : PublicKey} {msg : DecodedChatMessage}
    {chat chat' : UserChat} (w : WriteResult)
    (hkeeps : ∀ m, Shown format key chat m → Shown format key chat' m)
    (hshown : Shown format key chat' msg) (hids : chat'.innerIds = chat.innerIds) :
    Merged format key localTradePubkey msg chat (rememberInnerId chat' msg.innerEventId w) where
  keeps m h := shown_rememberInnerId.2 (hkeeps m h)
  shows := .inr (.inr (shown_rememberInnerId.2 hshown))
  records id hid := by
    rcases of_mem_rememberInnerId hid with rfl | hold
    · exact .inr ⟨rfl, shown_rememberInnerId.2 hshown⟩
    · rw [hids] at hold
      exact .inl hold

/-- A message whose writes go through is merged. -/
theorem applyMessage_merged {localTradePubkey : PublicKey} {w : WriteResult}
    (acc : UserChat × Int) (msg : DecodedChatMessage) (hw : w.saved = true) :
    Merged format key localTradePubkey msg acc.1
      (applyMessage format key localTradePubkey w acc msg).1 := by
  obtain ⟨chat, maxTs⟩ := acc
  simp only [applyMessage, hw, if_true]
  split
  · next hown => exact ⟨fun m h => h, .inl hown, fun id h => .inl h⟩
  split
  · next hknown => exact ⟨fun m h => h, .inr (.inl hknown), fun id h => .inl h⟩
  split
  · next a hline =>
    -- the attachment takes the place of its placeholder
    obtain ⟨-, hany⟩ := Option.filter_eq_some_iff.1 hline
    obtain ⟨e, he, hts, hcontent⟩ := exists_upgraded hany
    exact merged_rememberInnerId w (fun m h => shown_upgrade h) ⟨e, he, hts, .inl hcontent⟩ rfl
  · next hline =>
    split
    · next hdup =>
      obtain ⟨e, he, hdup⟩ := List.any_eq_true.1 hdup
      refine merged_rememberInnerId w (fun m h => h) ⟨e, he, shows_of_isDuplicate hdup ?_⟩ rfl
      intro a ha
      have hnone := (Option.filter_eq_none_iff.1 hline) a ha
      exact Bool.eq_false_iff.2 fun hp => hnone (List.any_eq_true.2 ⟨e, he, hp⟩)
    · exact merged_rememberInnerId w (fun m h => shown_append _ h)
        ⟨_, List.mem_append_right _ List.mem_cons_self, rfl, .inl rfl⟩ rfl

/-- A message some event holds for some target. -/
def Opened (crypto : ChatCrypto) (m : DecodedChatMessage) : Prop :=
  ∃ target event, crypto.unwrap target event = some m

/-- The durable inner ids are those of messages the transcript shows. -/
def Recorded (crypto : ChatCrypto) (format : AttachmentFormat) (key : ChatKeyId)
    (chat : UserChat) : Prop :=
  ∀ id ∈ chat.innerIds, ∃ m, Opened crypto m ∧ m.innerEventId = id ∧ Shown format key chat m

/-- Merging a message keeps the recorded ids honest, and the message is our own echo or shown: one
whose id was recorded is the message the id was recorded for. -/
theorem Merged.recorded {crypto : ChatCrypto} {localTradePubkey : PublicKey}
    {msg : DecodedChatMessage} {chat chat' : UserChat}
    (h : Merged format key localTradePubkey msg chat chat') (hmsg : Opened crypto msg)
    (hrec : Recorded crypto format key chat) :
    Recorded crypto format key chat' ∧
      (msg.sender = localTradePubkey ∨ Shown format key chat' msg) := by
  refine ⟨?_, ?_⟩
  · intro id hid
    rcases h.records id hid with hold | ⟨rfl, hshown⟩
    · obtain ⟨m, hm, hmid, hshown⟩ := hrec id hold
      exact ⟨m, hm, hmid, h.keeps m hshown⟩
    · exact ⟨msg, hmsg, rfl, hshown⟩
  · rcases h.shows with hown | hknown | hshown
    · exact .inl hown
    · obtain ⟨m, ⟨t, e, hm⟩, hmid, hshown⟩ := hrec _ hknown
      obtain ⟨t', e', hmsg⟩ := hmsg
      obtain rfl := crypto.unwrap_inj hm hmsg hmid
      exact .inr (h.keeps m hshown)
    · exact .inr hshown

/-- A whole update whose writes go through: what was shown stays shown, and each of its messages is
our own echo or shown. -/
theorem applyMessages_shows {crypto : ChatCrypto} {localTradePubkey : PublicKey}
    {io : Nat → WriteResult} {msgs : List DecodedChatMessage} (n : Nat) (acc : UserChat × Int)
    (hio : ∀ i < msgs.length, (io (n + i)).saved = true)
    (hmsgs : ∀ m ∈ msgs, Opened crypto m) (hrec : Recorded crypto format key acc.1) :
    let chat' := (applyMessages format key localTradePubkey io n acc msgs).1
    Recorded crypto format key chat' ∧
      (∀ m, Shown format key acc.1 m → Shown format key chat' m) ∧
      ∀ m ∈ msgs, m.sender = localTradePubkey ∨ Shown format key chat' m := by
  induction msgs generalizing n acc with
  | nil => exact ⟨hrec, fun m h => h, fun m h => by cases h⟩
  | cons msg msgs ih =>
    have hw : (io n).saved = true := hio 0 (Nat.zero_lt_succ _)
    have hmerged : Merged format key localTradePubkey msg acc.1 _ := applyMessage_merged acc msg hw
    obtain ⟨hrec', hmsg⟩ := hmerged.recorded (hmsgs msg List.mem_cons_self) hrec
    have hio' : ∀ i < msgs.length, (io (n + 1 + i)).saved = true := by
      intro i hi
      rw [Nat.add_assoc, Nat.add_comm 1]
      exact hio (i + 1) (Nat.succ_lt_succ hi)
    obtain ⟨hrec'', hkeeps, hrest⟩ :=
      ih (n + 1) _ hio' (fun m hm => hmsgs m (List.mem_cons_of_mem _ hm)) hrec'
    refine ⟨hrec'', fun m h => hkeeps m (hmerged.keeps m h), fun m hm => ?_⟩
    rcases List.mem_cons.1 hm with rfl | hm
    · exact hmsg.imp_right (hkeeps m)
    · exact hrest m hm

end transcript

/-! ## The run -/

section run

/-- A message the listener accepted: it was opened for a tracked chat, within the budget and with an
inner id that was new. -/
structure Accepted where
  keyId : ChatKeyId
  localTradePubkey : Option PublicKey
  /-- The outer id of a live event. -/
  outer : Option EventId
  message : DecodedChatMessage
deriving DecidableEq

/-- The target and the new messages a turn hands to `emit_messages`. -/
def acceptedBatch (crypto : ChatCrypto) (s : ChatState) :
    ChatAction → Option (ChatTarget × Option EventId × List DecodedChatMessage)
  | .hydrate fetched => do
    let p ← s.pending.head?
    let target ← s.targets.find? (·.chatPubkey = p.targetPubkey)
    let events ← fetched
    let msgs := (fetchChatMessages crypto target events).filter fun m => p.since.getD 0 ≤ m.timestamp
    return (target, none, (innerInsert ((s.seenInner target.keyId).getD []) msgs).2)
  | .live event allowed => do
    if ¬ s.pending.isEmpty ∨ !allowed then none
    else
      let target ← resolveChatTarget s.targets event
      let _ ← outerInsert s.seenOuter event.id
      let msg ← crypto.unwrap target event
      return (target, some event.id, (innerInsert ((s.seenInner target.keyId).getD []) [msg]).2)
  | _ => none

/-- The messages a turn accepts. -/
def acceptedBy (crypto : ChatCrypto) (s : ChatState) (a : ChatAction) : List Accepted :=
  match acceptedBatch crypto s a with
  | none => []
  | some (target, outer, fresh) =>
    fresh.map fun message =>
      { keyId := target.keyId, localTradePubkey := target.localTradePubkey, outer, message }

/-- The system with the history of what its listener accepted. -/
structure Observed where
  state : ChatState
  accepted : List Accepted

/-- The step function with that history. -/
def observe (crypto : ChatCrypto) (format : AttachmentFormat) (o : Observed) (a : ChatAction) :
    Observed where
  state := next crypto format o.state a
  accepted := o.accepted ++ acceptedBy crypto o.state a

/-- A message is in an update the UI has not taken yet. -/
def OnItsWay (s : ChatState) (r : Accepted) : Prop :=
  ∃ u ∈ s.queue, u.keyId = r.keyId ∧ r.localTradePubkey = some u.localTradePubkey ∧
    r.message ∈ u.messages

/-- A message is our own echo, in the transcript or on its way to it. -/
def Settled (format : AttachmentFormat) (s : ChatState) (r : Accepted) : Prop :=
  r.localTradePubkey = some r.message.sender ∨
    Shown format r.keyId (s.chats r.keyId) r.message ∨ OnItsWay s r

/-- The seen sets, the durable inner ids or the cursor are past a message, so that a redelivery or a
later hydration is turned away. -/
def Passed (s : ChatState) (r : Accepted) : Prop :=
  r.message.innerEventId ∈ (s.seenInner r.keyId).getD [] ∨
    (∃ id ∈ r.outer, id ∈ s.seenOuter) ∨
    r.message.innerEventId ∈ (s.chats r.keyId).innerIds ∨
    ∃ c ∈ (s.chats r.keyId).lastSeen, r.message.timestamp < c

/-- Nothing is past an accepted message that is not settled. -/
def NothingLost (format : AttachmentFormat) (o : Observed) : Prop :=
  ∀ r ∈ o.accepted, Passed o.state r → Settled format o.state r

/-- There is room in the channel for what the target is sent. -/
def CanEmit (s : ChatState) (target : ChatTarget) : Prop :=
  target.localTradePubkey.isSome ∧ s.queue.length < chatUpdateCapacity

/-- The turn loses no message: what it accepts finds room in the channel, unless it is an echo or in
the transcript already, the writes it makes go through, and a restart finds nothing queued. -/
def LosesNothing (crypto : ChatCrypto) (format : AttachmentFormat) (s : ChatState) :
    ChatAction → Prop
  | .drain io _ => ∀ u ∈ s.queue.head?, ∀ i < u.messages.length, (io i).saved = true
  | .restart _ => s.queue = []
  | a => ∀ target outer fresh, acceptedBatch crypto s a = some (target, outer, fresh) →
      CanEmit s target ∨ ∀ m ∈ fresh, target.localTradePubkey = some m.sender ∨
        Shown format target.keyId (s.chats target.keyId) m

/-- What holds of every state of a run that loses nothing. -/
structure Kept (crypto : ChatCrypto) (format : AttachmentFormat) (o : Observed) : Prop where
  settled : ∀ r ∈ o.accepted, Settled format o.state r
  recorded : ∀ k, Recorded crypto format k (o.state.chats k)
  opened : ∀ u ∈ o.state.queue, ∀ m ∈ u.messages, Opened crypto m

variable {crypto : ChatCrypto} {format : AttachmentFormat}

/-- A settled message stays so while the transcripts and the channel keep what they hold. -/
theorem Settled.mono {s s' : ChatState} {r : Accepted} (h : Settled format s r)
    (hchats : ∀ k m, Shown format k (s.chats k) m → Shown format k (s'.chats k) m)
    (hqueue : ∀ u ∈ s.queue, u ∈ s'.queue) : Settled format s' r := by
  rcases h with hown | hshown | ⟨u, hu, hkey, hlocal, hm⟩
  · exact .inl hown
  · exact .inr (.inl (hchats _ _ hshown))
  · exact .inr (.inr ⟨u, hqueue u hu, hkey, hlocal, hm⟩)

/-- A turn that accepts nothing and leaves the chats and the channel alone keeps everything. -/
theorem kept_of_frame {o : Observed} {a : ChatAction} (h : Kept crypto format o)
    (hacc : acceptedBatch crypto o.state a = none)
    (hchats : (next crypto format o.state a).chats = o.state.chats)
    (hqueue : (next crypto format o.state a).queue = o.state.queue) :
    Kept crypto format (observe crypto format o a) := by
  have haccepted : (observe crypto format o a).accepted = o.accepted := by
    simp [observe, acceptedBy, hacc]
  refine ⟨?_, ?_, ?_⟩
  · intro r hr
    rw [haccepted] at hr
    refine (h.settled r hr).mono (fun k m hm => ?_) fun u hu => ?_
    · show Shown format k ((next crypto format o.state a).chats k) m
      rw [hchats]
      exact hm
    · show u ∈ (next crypto format o.state a).queue
      rw [hqueue]
      exact hu
  · intro k
    show Recorded crypto format k ((next crypto format o.state a).chats k)
    rw [hchats]
    exact h.recorded k
  · intro u hu
    change u ∈ (next crypto format o.state a).queue at hu
    rw [hqueue] at hu
    exact h.opened u hu

/-! ### What the listener's turns do -/

variable (crypto) in
/-- Commands leave the chats and the channel alone. -/
theorem foldl_applyChatRouterCmd (now : Int) (cmds : List ChatRouterCmd) (s : ChatState) :
    (cmds.foldl (applyChatRouterCmd crypto now) s).chats = s.chats ∧
      (cmds.foldl (applyChatRouterCmd crypto now) s).queue = s.queue := by
  have hstep : ∀ s cmd, (applyChatRouterCmd crypto now s cmd).chats = s.chats ∧
      (applyChatRouterCmd crypto now s cmd).queue = s.queue := by
    intro s cmd
    cases cmd with
    | trackChatKey keyId hex localPk signers since =>
      unfold applyChatRouterCmd
      dsimp only
      repeat' split
      all_goals exact ⟨rfl, rfl⟩
    | untrackChatKey keyId =>
      unfold applyChatRouterCmd
      dsimp only
      split <;> exact ⟨rfl, rfl⟩
  induction cmds generalizing s with
  | nil => exact ⟨rfl, rfl⟩
  | cons cmd cmds ih =>
    obtain ⟨hchats, hqueue⟩ := ih (applyChatRouterCmd crypto now s cmd)
    exact ⟨hchats.trans (hstep s cmd).1, hqueue.trans (hstep s cmd).2⟩

/-- The messages whose inner id is new are among those looked at. -/
theorem mem_of_mem_innerInsert {seen : List EventId} {ms : List DecodedChatMessage}
    {m : DecodedChatMessage} (h : m ∈ (innerInsert seen ms).2) : m ∈ ms := by
  induction ms generalizing seen with
  | nil => cases h
  | cons m' ms ih =>
    unfold innerInsert at h
    split at h
    · exact List.mem_cons_of_mem _ (ih h)
    · rcases List.mem_cons.1 h with rfl | h
      · exact List.mem_cons_self
      · exact List.mem_cons_of_mem _ (ih h)

/-- What emitting does to the channel. -/
structure Emitted (s : ChatState) (target : ChatTarget) (msgs : List DecodedChatMessage)
    (s' : ChatState) : Prop where
  chats : s'.chats = s.chats
  keeps : ∀ u ∈ s.queue, u ∈ s'.queue
  only : ∀ u ∈ s'.queue, u ∈ s.queue ∨ u.messages = msgs
  sends : CanEmit s target → ∀ m ∈ msgs, ∃ u ∈ s'.queue, u.keyId = target.keyId ∧
    target.localTradePubkey = some u.localTradePubkey ∧ m ∈ u.messages

/-- Emitting appends at most one update, and does where there is room. -/
theorem emitMessages_emitted (s : ChatState) (target : ChatTarget)
    (msgs : List DecodedChatMessage) : Emitted s target msgs (emitMessages s target msgs) := by
  have hsame (hno : CanEmit s target → msgs = []) : Emitted s target msgs s := by
    refine ⟨rfl, fun u h => h, fun u h => .inl h, fun hcan m hm => ?_⟩
    rw [hno hcan] at hm
    cases hm
  unfold emitMessages
  split
  · next hempty => exact hsame fun _ => List.isEmpty_iff.1 hempty
  · split
    · next hlocal =>
      refine hsame fun hcan => ?_
      rw [CanEmit, hlocal] at hcan
      cases hcan.1
    · next localPk hlocal =>
      split
      · refine ⟨rfl, fun u h => List.mem_append_left _ h, fun u h => ?_, fun _ m hm => ?_⟩
        · rcases List.mem_append.1 h with hold | hnew
          · exact .inl hold
          · obtain rfl := List.mem_singleton.1 hnew
            exact .inr rfl
        · exact ⟨_, List.mem_append_right _ List.mem_cons_self, rfl, hlocal, hm⟩
      · next hfull => exact hsame fun hcan => absurd hcan.2 hfull

/-- Noting ids does not matter to what emitting does. -/
theorem Emitted.of_noted {s s₁ s' : ChatState} {target : ChatTarget}
    {msgs : List DecodedChatMessage} (h : Emitted s₁ target msgs s')
    (hchats : s₁.chats = s.chats) (hqueue : s₁.queue = s.queue) : Emitted s target msgs s' where
  chats := h.chats.trans hchats
  keeps u hu := h.keeps u (hqueue ▸ hu)
  only u hu := hqueue ▸ h.only u hu
  sends hcan := h.sends ⟨hcan.1, hqueue.symm ▸ hcan.2⟩

variable (crypto) in
/-- A hydration emits the batch it accepts. -/
theorem hydrateHistory_emitted (s : ChatState) (fetched : Option (List ChatEvent)) :
    match acceptedBatch crypto s (.hydrate fetched) with
    | none => (hydrateHistory crypto s fetched).chats = s.chats ∧
        (hydrateHistory crypto s fetched).queue = s.queue
    | some (target, _, fresh) => Emitted s target fresh (hydrateHistory crypto s fetched) ∧
        ∀ m ∈ fresh, Opened crypto m := by
  cases hpending : s.pending with
  | nil => simp [acceptedBatch, hydrateHistory, hpending]
  | cons p rest =>
    cases htarget : s.targets.find? (·.chatPubkey = p.targetPubkey) with
    | none => simp [acceptedBatch, hydrateHistory, hpending, htarget]
    | some target =>
      cases fetched with
      | none => simp [acceptedBatch, hydrateHistory, hpending, htarget]
      | some events =>
        simp only [acceptedBatch, hydrateHistory, hpending, htarget, List.head?_cons,
          Option.bind_eq_bind, Option.bind_some, acceptMessages]
        refine ⟨?_, ?_⟩
        · exact (emitMessages_emitted _ target _).of_noted rfl rfl
        · intro m hm
          have hfetched := (List.mem_filter.1 (mem_of_mem_innerInsert hm)).1
          obtain ⟨e, -, he⟩ := List.mem_filterMap.1 (List.mem_mergeSort.1 hfetched)
          exact ⟨target, e, he⟩

variable (crypto) in
/-- A live event emits the batch it is accepted as. -/
theorem liveEvent_emitted (s : ChatState) (event : ChatEvent) (allowed : Bool)
    (hidle : s.pending.isEmpty = true) :
    match acceptedBatch crypto s (.live event allowed) with
    | none => (liveEvent crypto s event allowed).chats = s.chats ∧
        (liveEvent crypto s event allowed).queue = s.queue
    | some (target, _, fresh) => Emitted s target fresh (liveEvent crypto s event allowed) ∧
        ∀ m ∈ fresh, Opened crypto m := by
  cases htarget : resolveChatTarget s.targets event with
  | none => cases allowed <;> simp [acceptedBatch, liveEvent, hidle, htarget]
  | some target =>
    cases houter : outerInsert s.seenOuter event.id with
    | none => cases allowed <;> simp [acceptedBatch, liveEvent, hidle, htarget, houter]
    | some seen =>
      cases allowed with
      | false => simp [acceptedBatch, liveEvent, htarget, houter]
      | true =>
        cases hmsg : crypto.unwrap target event with
        | none => simp [acceptedBatch, liveEvent, hidle, htarget, houter, hmsg]
        | some msg =>
          simp only [acceptedBatch, liveEvent, hidle, htarget, houter, hmsg, Bool.not_true,
            Bool.false_eq_true, not_true_eq_false, or_self, if_false, Option.bind_eq_bind,
            Option.bind_some, acceptMessages]
          refine ⟨?_, ?_⟩
          · exact (emitMessages_emitted _ target _).of_noted rfl rfl
          · intro m hm
            obtain rfl := List.mem_singleton.1 (mem_of_mem_innerInsert hm)
            exact ⟨target, event, hmsg⟩

/-- A turn of the listener that accepts a batch and finds room for it keeps everything. -/
theorem kept_of_emitted {o : Observed} {a : ChatAction} {target : ChatTarget}
    {outer : Option EventId} {fresh : List DecodedChatMessage} (h : Kept crypto format o)
    (hacc : acceptedBatch crypto o.state a = some (target, outer, fresh))
    (hemit : Emitted o.state target fresh (next crypto format o.state a))
    (hopened : ∀ m ∈ fresh, Opened crypto m)
    (hroom : CanEmit o.state target ∨ ∀ m ∈ fresh, target.localTradePubkey = some m.sender ∨
      Shown format target.keyId (o.state.chats target.keyId) m) :
    Kept crypto format (observe crypto format o a) := by
  have hchats : (observe crypto format o a).state.chats = o.state.chats := hemit.chats
  refine ⟨?_, ?_, ?_⟩
  · intro r hr
    rcases List.mem_append.1 hr with hold | hnew
    · refine (h.settled r hold).mono (fun k m hm => ?_) hemit.keeps
      rw [hchats]
      exact hm
    · simp only [acceptedBy, hacc, List.mem_map] at hnew
      obtain ⟨m, hm, rfl⟩ := hnew
      rcases hroom with hcan | hseen
      · obtain ⟨u, hu, hkey, hlocal, hmu⟩ := hemit.sends hcan m hm
        exact .inr (.inr ⟨u, hu, hkey, hlocal, hmu⟩)
      · rcases hseen m hm with hown | hshown
        · exact .inl hown
        · refine .inr (.inl ?_)
          rw [hchats]
          exact hshown
  · intro k
    rw [hchats]
    exact h.recorded k
  · intro u hu m hm
    rcases hemit.only u hu with hold | hmsgs
    · exact h.opened u hold m hm
    · exact hopened m (hmsgs ▸ hm)

/-- The cursor an update stores changes nothing that is shown or recorded. -/
theorem applyUserOrderChatUpdate_shows {key : ChatKeyId} (localTradePubkey : PublicKey) (now : Int)
    {io : Nat → WriteResult} {chat : UserChat} {msgs : List DecodedChatMessage}
    (hio : ∀ i < msgs.length, (io i).saved = true) (hmsgs : ∀ m ∈ msgs, Opened crypto m)
    (hrec : Recorded crypto format key chat) :
    let chat' := applyUserOrderChatUpdate format key localTradePubkey io now chat msgs
    Recorded crypto format key chat' ∧
      (∀ m, Shown format key chat m → Shown format key chat' m) ∧
      ∀ m ∈ msgs, m.sender = localTradePubkey ∨ Shown format key chat' m :=
  applyMessages_shows 0 (chat, chat.lastSeen.getD 0)
    (fun i hi => by rw [Nat.zero_add]; exact hio i hi) hmsgs hrec

/-- Draining an update whose writes go through keeps everything. -/
theorem kept_drain {o : Observed} {io : Nat → WriteResult} {now : Int} (h : Kept crypto format o)
    (hio : LosesNothing crypto format o.state (.drain io now)) :
    Kept crypto format (observe crypto format o (.drain io now)) := by
  cases hqueue : o.state.queue with
  | nil => exact kept_of_frame h rfl (by simp [next, hqueue]) (by simp [next, hqueue])
  | cons u rest =>
    have hu : u ∈ o.state.queue := by
      rw [hqueue]
      exact List.mem_cons_self
    have hsaved : ∀ i < u.messages.length, (io i).saved = true := hio u (by rw [hqueue]; rfl)
    obtain ⟨hrec, hkeeps, hmsgs⟩ :=
      applyUserOrderChatUpdate_shows u.localTradePubkey now hsaved (h.opened u hu)
        (h.recorded u.keyId)
    have hchats : (observe crypto format o (.drain io now)).state.chats =
        Function.update o.state.chats u.keyId
          (applyUserOrderChatUpdate format u.keyId u.localTradePubkey io now
            (o.state.chats u.keyId) u.messages) := by
      simp only [observe, next, hqueue]
    have hrest : (observe crypto format o (.drain io now)).state.queue = rest := by
      simp only [observe, next, hqueue]
    have haccepted : (observe crypto format o (.drain io now)).accepted = o.accepted := by
      simp [observe, acceptedBy, acceptedBatch]
    have hshown : ∀ k m, Shown format k (o.state.chats k) m →
        Shown format k ((observe crypto format o (.drain io now)).state.chats k) m := by
      intro k m hm
      rw [hchats]
      by_cases hk : k = u.keyId
      · subst hk
        rw [Function.update_self]
        exact hkeeps m hm
      · rw [Function.update_of_ne hk]
        exact hm
    refine ⟨?_, ?_, ?_⟩
    · intro r hr
      rw [haccepted] at hr
      rcases h.settled r hr with hown | hold | ⟨u', hu', hkey, hlocal, hm⟩
      · exact .inl hown
      · exact .inr (.inl (hshown _ _ hold))
      · rw [hqueue] at hu'
        rcases List.mem_cons.1 hu' with rfl | hmem
        · -- the drained update carried it
          rcases hmsgs _ hm with hown | hnow
          · exact .inl (by rw [hlocal, hown])
          · refine .inr (.inl ?_)
            rw [hchats, ← hkey, Function.update_self]
            exact hnow
        · exact .inr (.inr ⟨u', by rw [hrest]; exact hmem, hkey, hlocal, hm⟩)
    · intro k
      rw [hchats]
      by_cases hk : k = u.keyId
      · subst hk
        rw [Function.update_self]
        exact hrec
      · rw [Function.update_of_ne hk]
        exact h.recorded k
    · intro u' hu'
      rw [hrest] at hu'
      refine h.opened u' ?_
      rw [hqueue]
      exact List.mem_cons_of_mem _ hu'

/-- A line of our own adds to what a chat shows. -/
theorem kept_send {o : Observed} {keyId : ChatKeyId} {content : String} {now : Int} {saved : Bool}
    (h : Kept crypto format o) :
    Kept crypto format (observe crypto format o (.send keyId content now saved)) := by
  cases saved with
  | false => exact kept_of_frame h rfl rfl rfl
  | true =>
    have hshown : ∀ k m, Shown format k (o.state.chats k) m → Shown format k
        ((observe crypto format o (.send keyId content now true)).state.chats k) m := by
      intro k m hm
      show Shown format k (Function.update o.state.chats keyId _ k) m
      by_cases hk : k = keyId
      · subst hk
        rw [Function.update_self]
        exact shown_append _ hm
      · rw [Function.update_of_ne hk]
        exact hm
    have hids : ∀ k, ((observe crypto format o (.send keyId content now true)).state.chats
        k).innerIds = (o.state.chats k).innerIds := by
      intro k
      show (Function.update o.state.chats keyId _ k).innerIds = _
      by_cases hk : k = keyId
      · subst hk
        rw [Function.update_self]
      · rw [Function.update_of_ne hk]
    have haccepted : (observe crypto format o (.send keyId content now true)).accepted =
        o.accepted := by
      simp [observe, acceptedBy, acceptedBatch]
    refine ⟨?_, ?_, ?_⟩
    · intro r hr
      rw [haccepted] at hr
      exact (h.settled r hr).mono hshown fun u hu => hu
    · intro k id hid
      rw [hids] at hid
      obtain ⟨m, hm, hmid, hs⟩ := h.recorded k id hid
      exact ⟨m, hm, hmid, hshown k m hs⟩
    · exact h.opened

/-- A restart that finds nothing queued keeps everything: the transcripts are read back. -/
theorem kept_restart {o : Observed} {now : Int} (h : Kept crypto format o)
    (hqueue : o.state.queue = []) : Kept crypto format (observe crypto format o (.restart now)) := by
  have haccepted : (observe crypto format o (.restart now)).accepted = o.accepted := by
    simp [observe, acceptedBy, acceptedBatch]
  refine ⟨?_, ?_, ?_⟩
  · intro r hr
    rw [haccepted] at hr
    refine (h.settled r hr).mono (fun k m hm => hm) fun u hu => ?_
    rw [hqueue] at hu
    cases hu
  · exact h.recorded
  · intro u hu
    cases hu

/-- Every turn that loses nothing keeps everything. -/
theorem observe_kept {o : Observed} {a : ChatAction} (h : Kept crypto format o)
    (ha : LosesNothing crypto format o.state a) : Kept crypto format (observe crypto format o a) := by
  cases a with
  | commands cmds now =>
    obtain ⟨hchats, hqueue⟩ := foldl_applyChatRouterCmd crypto now cmds o.state
    refine kept_of_frame h rfl ?_ ?_
    · simp only [next]
      split
      · exact hchats
      · rfl
    · simp only [next]
      split
      · exact hqueue
      · rfl
  | hydrate fetched =>
    have hemit := hydrateHistory_emitted crypto o.state fetched
    cases hacc : acceptedBatch crypto o.state (.hydrate fetched) with
    | none =>
      rw [hacc] at hemit
      exact kept_of_frame h hacc hemit.1 hemit.2
    | some batch =>
      obtain ⟨target, outer, fresh⟩ := batch
      rw [hacc] at hemit
      exact kept_of_emitted h hacc hemit.1 hemit.2 (ha target outer fresh hacc)
  | live event allowed =>
    cases hidle : o.state.pending.isEmpty with
    | false =>
      refine kept_of_frame h ?_ ?_ ?_
      · simp [acceptedBatch, hidle]
      · simp [next, hidle]
      · simp [next, hidle]
    | true =>
      have hemit := liveEvent_emitted crypto o.state event allowed hidle
      have hnext : next crypto format o.state (.live event allowed) =
          liveEvent crypto o.state event allowed := by
        simp only [next, hidle, if_true]
      cases hacc : acceptedBatch crypto o.state (.live event allowed) with
      | none =>
        rw [hacc] at hemit
        exact kept_of_frame h hacc (hnext ▸ hemit.1) (hnext ▸ hemit.2)
      | some batch =>
        obtain ⟨target, outer, fresh⟩ := batch
        rw [hacc] at hemit
        exact kept_of_emitted h hacc (hnext ▸ hemit.1) hemit.2 (ha target outer fresh hacc)
  | drain io now => exact kept_drain h ha
  | send keyId content now saved => exact kept_send h
  | respawn => exact kept_of_frame h rfl rfl rfl
  | restart now => exact kept_restart h ha

/-- A first start, with nothing accepted. -/
def Observed.init : Observed where
  state := ChatState.init
  accepted := []

end run

/-! ## A message whose write fails -/

/-- The counterparty's message. -/
def hello : DecodedChatMessage where
  sender := "peer"
  content := "hello"
  timestamp := 100
  innerEventId := 7

/-- Crypto in which every event of content `hello` holds that message. -/
def helloCrypto : ChatCrypto where
  chatKeys _ := some ("chat", "sign")
  unwrap _ event := if event.content = "hello" then some hello else none
  unwrap_inj := by
    intro t e m t' e' m' h h' _
    obtain ⟨-, hm⟩ := Option.ite_none_right_eq_some.1 h
    obtain ⟨-, hm'⟩ := Option.ite_none_right_eq_some.1 h'
    exact Option.some.inj (hm.symm.trans hm')

/-- The chat, as it is tracked. -/
def helloTarget : ChatTarget where
  keyId := .order 1
  chatPubkey := "chat"
  signPubkey := "sign"
  localTradePubkey := some "me"
  allowedSigners := ["me", "peer"]

/-- The chat is tracked, its history cannot be fetched, and the message arrives. -/
def helloArrives : List ChatAction :=
  [.commands [.trackChatKey (.order 1) "secret" (some "me") ["me", "peer"] none] 90,
    .hydrate none,
    .live { id := 3, kind := privateDirectMessage, pubkey := "sign", content := "hello" } true]

end Mostrix.Chat
