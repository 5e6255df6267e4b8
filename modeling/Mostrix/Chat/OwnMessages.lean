import Mostrix.Chat.Listener
import Mostrix.Chat.DisputeChat
import Mostrix.Chat.Redelivery
import Mostrix.Library.Run

/-!
# Our own messages under what arrives

An attachment that arrives replaces the line an older version wrote for it, the placeholder with its
file name, if it is of the same second. `apply_admin_chat_updates` looks for that line among those
of the sender only. `apply_user_order_chat_updates` looks at every line, ours included, and a peer
who sends a file named as in a line of ours of that second replaces it: the sender stays, the
content and the attachment are the peer's. The duplicate check below it looks at the peer's lines
only, and says why.

`own_messages_kept_iff` is the exact condition, over any batch of updates to any chats. The row of
an order is never taken away, moved or given to another sender (`RowsGrow`), so what is lost stays
lost and the condition need only be met message by message.
-/

namespace Mostrix.Chat

/-! ## Rows kept -/

/-- The rows of a kind are where they were, as they were. -/
def KeepsRows {α : Type} (own : α → Prop) (before after : List α) : Prop :=
  ∀ (i : Nat) (m : α), before[i]? = some m → own m → after[i]? = some m

section
variable {α : Type} {own : α → Prop} {before after : List α}

theorem KeepsRows.refl (before : List α) : KeepsRows own before before := fun _ _ h _ => h

theorem KeepsRows.trans {mid : List α} (h : KeepsRows own before mid)
    (h' : KeepsRows own mid after) : KeepsRows own before after :=
  fun i m hm hown => h' i m (h i m hm hown) hown

/-- Appending keeps every row. -/
theorem getElem?_append_of_some {i : Nat} {m : α} (h : before[i]? = some m) (tail : List α) :
    (before ++ tail)[i]? = some m := by
  obtain ⟨hi, -⟩ := List.getElem?_eq_some_iff.1 h
  rw [List.getElem?_append_left hi, h]

theorem keepsRows_append (tail : List α) : KeepsRows own before (before ++ tail) :=
  fun _ _ h _ => getElem?_append_of_some h tail

/-- Changing one row keeps the rows of a kind that the changed one is not of. -/
theorem keepsRows_set {i : Nat} {m m' : α} (hm : before[i]? = some m) (hown : ¬ own m) :
    KeepsRows own before (before.set i m') := by
  intro j n hn hj
  have hne : i ≠ j := by
    rintro rfl
    rw [hm] at hn
    exact hown (Option.some.inj hn ▸ hj)
  rw [List.getElem?_set_ne hne, hn]

end

/-! ## The user's chats -/

section
variable (format : AttachmentFormat)

/-- A message of the peer that is new and whose attachment replaces a line of ours. -/
def UpgradesOwn (key : ChatKeyId) (localTradePubkey : PublicKey) (w : WriteResult) (chat : UserChat)
    (msg : DecodedChatMessage) : Prop :=
  msg.sender ≠ localTradePubkey ∧ msg.innerEventId ∉ chat.innerIds ∧ w.saved = true ∧
    ∃ a ∈ (lineOf format key msg.content).2, ∃ m,
      chat.messages.find? (isPlaceholderOf format a msg.timestamp) = some m ∧ m.sender = .you

/-- An update, with what becomes of its writes and the clock. -/
structure UpdateTurn where
  update : OrderChatUpdate
  io : Nat → WriteResult
  now : Int

/-- The body of the loop of `apply_user_order_chat_updates`. -/
def applyUpdateTurn (chats : ChatKeyId → UserChat) (u : UpdateTurn) : ChatKeyId → UserChat :=
  Function.update chats u.update.keyId
    (applyUserOrderChatUpdate format u.update.keyId u.update.localTradePubkey u.io u.now
      (chats u.update.keyId) u.update.messages)

/-- `apply_user_order_chat_updates`, the chats. -/
def applyUserOrderChatUpdates (chats : ChatKeyId → UserChat) (updates : List UpdateTurn) :
    ChatKeyId → UserChat :=
  updates.foldl (applyUpdateTurn format) chats

/-- The messages of an update, each with what becomes of its writes. -/
def UpdateTurn.messages (u : UpdateTurn) : List (WriteResult × DecodedChatMessage) :=
  (u.update.messages.zipIdx).map fun (msg, n) => (u.io n, msg)

/-- The body of the inner loop. -/
def UpdateTurn.next (u : UpdateTurn) (acc : UserChat × Int) (p : WriteResult × DecodedChatMessage) :
    UserChat × Int :=
  applyMessage format u.update.keyId u.update.localTradePubkey p.1 acc p.2

/-- No message of an update replaces a line of ours when it comes to it. -/
def SparesOwn (chats : ChatKeyId → UserChat) (u : UpdateTurn) : Prop :=
  Run.Guarded (u.next format)
    (fun acc p => ¬ UpgradesOwn format u.update.keyId u.update.localTradePubkey p.1 acc.1 p.2)
    (chats u.update.keyId, (chats u.update.keyId).lastSeen.getD 0) u.messages

variable {format}

/-- A solver sends text only. -/
theorem not_upgradesOwn_userDispute (id : Uuid) (localTradePubkey : PublicKey) (w : WriteResult)
    (chat : UserChat) (msg : DecodedChatMessage) :
    ¬ UpgradesOwn format (.userDispute id) localTradePubkey w chat msg := by
  rintro ⟨-, -, -, a, ha, -⟩
  cases ha

/-- An upgrade changes the first placeholder, in its place, and keeps its sender. -/
theorem upgradePlaceholder_eq_set {a : ChatAttachment} (display : String) {ts : Int}
    {messages : List UserOrderChatMessage} {m : UserOrderChatMessage}
    (h : messages.find? (isPlaceholderOf format a ts) = some m) :
    ∃ i, messages[i]? = some m ∧
      upgradePlaceholder format a display ts messages =
        messages.set i ⟨m.sender, display, ts, some a⟩ := by
  induction messages with
  | nil => cases h
  | cons n ns ih =>
    unfold upgradePlaceholder
    by_cases hn : isPlaceholderOf format a ts n = true
    · rw [List.find?_cons_of_pos hn] at h
      obtain rfl := Option.some.inj h
      exact ⟨0, rfl, if_pos hn⟩
    · rw [List.find?_cons_of_neg hn] at h
      obtain ⟨i, hi, hset⟩ := ih h
      refine ⟨i + 1, hi, ?_⟩
      rw [if_neg hn, hset, List.set_cons_succ]

/-- What a message does to the rows: it appends rows of the peer, or gives a row without an
attachment one, which is a row of ours exactly where `UpgradesOwn` says so. -/
inductive RowsStep (upgradesOwn : Prop) (before after : List UserOrderChatMessage) : Prop
  | append (tail : List UserOrderChatMessage) (hpeer : ∀ m ∈ tail, m.sender = .peer)
      (hafter : after = before ++ tail) (hown : ¬ upgradesOwn)
  | upgrade (i : Nat) (m m' : UserOrderChatMessage) (hm : before[i]? = some m)
      (hafter : after = before.set i m') (hnone : m.attachment = none)
      (hsome : m'.attachment ≠ none) (hsender : m'.sender = m.sender)
      (hown : upgradesOwn ↔ m.sender = .you)

theorem rowsStep_applyMessage (key : ChatKeyId) (localTradePubkey : PublicKey) (w : WriteResult)
    (chat : UserChat) (maxTs : Int) (msg : DecodedChatMessage) :
    RowsStep (UpgradesOwn format key localTradePubkey w chat msg) chat.messages
      (applyMessage format key localTradePubkey w (chat, maxTs) msg).1.messages := by
  have hsame : ∀ {after : List UserOrderChatMessage}, after = chat.messages →
      ¬ UpgradesOwn format key localTradePubkey w chat msg →
      RowsStep (UpgradesOwn format key localTradePubkey w chat msg) chat.messages after :=
    fun h hown => .append [] nofun (by rw [h, List.append_nil]) hown
  unfold applyMessage
  dsimp only
  split
  next hecho => exact hsame rfl fun h => h.1 hecho
  next hpeer =>
    split
    next hknown => exact hsame rfl fun h => h.2.1 hknown
    next hnew =>
      split
      next a hline =>
        obtain ⟨ha, hany⟩ := Option.filter_eq_some_iff.1 hline
        split
        next hsaved =>
          obtain ⟨m, hfind⟩ :=
            Option.isSome_iff_exists.1 (List.find?_isSome.2 (by simpa using hany))
          obtain ⟨i, hi, hset⟩ :=
            upgradePlaceholder_eq_set (lineOf format key msg.content).1 hfind
          have hm : m.attachment = none := by
            have := List.find?_some hfind
            simp only [isPlaceholderOf, decide_eq_true_eq] at this
            exact this.2.1
          refine .upgrade i m ⟨m.sender, _, _, some a⟩ hi ((rememberInnerId_messages _ _ w).trans hset) hm
            (Option.some_ne_none a) rfl ⟨?_, ?_⟩
          · rintro ⟨-, -, -, a', ha', m', hm', hyou⟩
            obtain rfl := Option.some.inj (ha.symm.trans ha')
            obtain rfl := Option.some.inj (hfind.symm.trans hm')
            exact hyou
          · exact fun hyou => ⟨hpeer, hnew, hsaved, a, ha, m, hfind, hyou⟩
        next hfailed => exact hsame rfl fun h => hfailed h.2.2.1
      next hline =>
        have hown : ¬ UpgradesOwn format key localTradePubkey w chat msg := by
          rintro ⟨-, -, -, a, ha, m, hfind, -⟩
          have hany : chat.messages.any (isPlaceholderOf format a msg.timestamp) = true :=
            List.any_eq_true.2 ⟨m, List.mem_of_find?_eq_some hfind, List.find?_some hfind⟩
          exact absurd hany (Option.filter_eq_none_iff.1 hline a ha)
        split
        next => exact hsame (rememberInnerId_messages _ _ w) hown
        next =>
          split
          next => exact .append [_] (by simp) (rememberInnerId_messages _ _ w) hown
          next => exact hsame rfl hown

/-- What any number of messages do to the rows: a row stays, or has got an attachment that it had
not, and what is new is the peer's. -/
structure RowsGrow (before after : List UserOrderChatMessage) : Prop where
  kept : ∀ (i : Nat) (m : UserOrderChatMessage), before[i]? = some m → ∃ m', after[i]? = some m' ∧
    (m' = m ∨ m.attachment = none ∧ m'.attachment ≠ none ∧ m'.sender = m.sender)
  new : ∀ (i : Nat) (m' : UserOrderChatMessage), after[i]? = some m' → before[i]? = none →
    m'.sender = .peer

theorem RowsGrow.refl (rows : List UserOrderChatMessage) : RowsGrow rows rows where
  kept := fun _ m hm => ⟨m, hm, .inl rfl⟩
  new := fun _ _ hm hnone => absurd (hm.symm.trans hnone) (Option.some_ne_none _)

theorem RowsGrow.trans {rows rows' rows'' : List UserOrderChatMessage} (h : RowsGrow rows rows')
    (h' : RowsGrow rows' rows'') : RowsGrow rows rows'' where
  kept := by
    intro i m hm
    obtain ⟨m', hm', hrow⟩ := h.kept i m hm
    obtain ⟨m'', hm'', hrow'⟩ := h'.kept i m' hm'
    refine ⟨m'', hm'', ?_⟩
    rcases hrow with rfl | ⟨hnone, hsome, hsender⟩
    · exact hrow'
    · rcases hrow' with rfl | ⟨hnone', -, -⟩
      · exact .inr ⟨hnone, hsome, hsender⟩
      · exact absurd hnone' hsome
  new := by
    intro i m'' hm'' hnone
    cases hmid : rows'[i]? with
    | none => exact h'.new i m'' hm'' hmid
    | some m' =>
      have hpeer := h.new i m' hmid hnone
      obtain ⟨n, hn, hrow⟩ := h'.kept i m' hmid
      obtain rfl := Option.some.inj (hm''.symm.trans hn)
      rcases hrow with rfl | ⟨-, -, hsender⟩
      · exact hpeer
      · exact hsender.trans hpeer

/-- A row of ours. -/
def IsOwn (m : UserOrderChatMessage) : Prop := m.sender = .you

section
variable {upgradesOwn : Prop} {before after : List UserOrderChatMessage}

theorem RowsStep.grow (h : RowsStep upgradesOwn before after) : RowsGrow before after := by
  cases h with
  | append tail hpeer hafter _ =>
    subst hafter
    refine ⟨fun i m hm => ⟨m, getElem?_append_of_some hm tail, .inl rfl⟩, fun i m' hm' hnone => ?_⟩
    rw [List.getElem?_append_right (List.getElem?_eq_none_iff.1 hnone)] at hm'
    exact hpeer m' (List.mem_of_getElem? hm')
  | upgrade i m m' hm hafter hnone hsome hsender _ =>
    subst hafter
    refine ⟨fun j n hn => ?_, fun j n hn hfree => ?_⟩
    · by_cases hij : i = j
      · subst hij
        obtain rfl := Option.some.inj (hm.symm.trans hn)
        refine ⟨m', ?_, .inr ⟨hnone, hsome, hsender⟩⟩
        rw [List.getElem?_set_self (List.getElem?_eq_some_iff.1 hm).1]
      · exact ⟨n, by rw [List.getElem?_set_ne hij, hn], .inl rfl⟩
    · have hlen : (before.set i m').length ≤ j := by
        rw [List.length_set]
        exact List.getElem?_eq_none_iff.1 hfree
      rw [List.getElem?_eq_none_iff.2 hlen] at hn
      cases hn

/-- A message keeps our rows exactly when it replaces none of them. -/
theorem RowsStep.keepsRows_iff (h : RowsStep upgradesOwn before after) :
    KeepsRows IsOwn before after ↔ ¬ upgradesOwn := by
  cases h with
  | append tail _ hafter hown =>
    subst hafter
    exact iff_of_true (keepsRows_append tail) hown
  | upgrade i m m' hm hafter hnone hsome _ hown =>
    subst hafter
    rw [hown]
    refine ⟨fun h hyou => ?_, fun hpeer => keepsRows_set hm hpeer⟩
    have hkept := h i m hm hyou
    rw [List.getElem?_set_self (List.getElem?_eq_some_iff.1 hm).1] at hkept
    exact hsome (Option.some.inj hkept ▸ hnone)

end

/-- What is lost of our rows stays lost: between rows that keep them they were kept throughout. -/
theorem RowsGrow.keepsRows_parts {rows rows' rows'' : List UserOrderChatMessage}
    (h : RowsGrow rows rows') (h' : RowsGrow rows' rows'') (hkept : KeepsRows IsOwn rows rows'') :
    KeepsRows IsOwn rows rows' ∧ KeepsRows IsOwn rows' rows'' := by
  refine ⟨fun i m hm hyou => ?_, fun i m hm hyou => ?_⟩
  · obtain ⟨m', hm', rfl | ⟨hnone, hsome, -⟩⟩ := h.kept i m hm
    · exact hm'
    · -- the attachment that the row got is still there at the end
      obtain ⟨m'', hm'', rfl | ⟨hnone', -, -⟩⟩ := h'.kept i m' hm'
      · rw [hkept i m hm hyou] at hm''
        exact absurd (Option.some.inj hm'' ▸ hnone) hsome
      · exact absurd hnone' hsome
  · cases hrow : rows[i]? with
    | none =>
      have hpeer := h.new i m hm hrow
      rw [show m.sender = .you from hyou] at hpeer
      cases hpeer
    | some n =>
      obtain ⟨m', hm', hn⟩ := h.kept i n hrow
      obtain rfl := Option.some.inj (hm.symm.trans hm')
      rcases hn with rfl | ⟨-, hsome, -⟩
      · exact hkept i m hrow hyou
      · obtain ⟨m'', hm'', rfl | ⟨hnone', -, -⟩⟩ := h'.kept i m hm
        · exact hm''
        · exact absurd hnone' hsome

/-! ### Whole batches -/

variable (format) in
theorem UpdateTurn.rowsStep_next (u : UpdateTurn) (acc : UserChat × Int)
    (p : WriteResult × DecodedChatMessage) :
    RowsStep (UpgradesOwn format u.update.keyId u.update.localTradePubkey p.1 acc.1 p.2)
      acc.1.messages (u.next format acc p).1.messages :=
  rowsStep_applyMessage _ _ p.1 acc.1 acc.2 p.2

/-- The loop over an update's messages is the run of its steps. -/
theorem applyMessages_eq_foldl (u : UpdateTurn) (n : Nat) (acc : UserChat × Int)
    (msgs : List DecodedChatMessage) :
    applyMessages format u.update.keyId u.update.localTradePubkey u.io n acc msgs =
      ((msgs.zipIdx n).map fun (msg, n) => (u.io n, msg)).foldl (u.next format) acc := by
  induction msgs generalizing n acc with
  | nil => rfl
  | cons msg msgs ih =>
    rw [applyMessages, ih, List.zipIdx_cons, List.map_cons, List.foldl_cons]
    rfl

/-- The rows an update leaves in its chat. -/
theorem applyUpdateTurn_messages (chats : ChatKeyId → UserChat) (u : UpdateTurn) :
    (applyUpdateTurn format chats u u.update.keyId).messages =
      (u.messages.foldl (u.next format)
        (chats u.update.keyId, (chats u.update.keyId).lastSeen.getD 0)).1.messages := by
  unfold applyUpdateTurn applyUserOrderChatUpdate UpdateTurn.messages
  rw [Function.update_self, applyMessages_eq_foldl]

theorem applyUpdateTurn_of_ne {chats : ChatKeyId → UserChat} {u : UpdateTurn} {key : ChatKeyId}
    (h : key ≠ u.update.keyId) : applyUpdateTurn format chats u key = chats key :=
  Function.update_of_ne h _ _

/-- The rows of every chat grow. -/
theorem applyUpdateTurn_grow (chats : ChatKeyId → UserChat) (u : UpdateTurn) (key : ChatKeyId) :
    RowsGrow (chats key).messages (applyUpdateTurn format chats u key).messages := by
  by_cases hkey : key = u.update.keyId
  · subst hkey
    rw [applyUpdateTurn_messages]
    exact Run.related
      (R := fun acc acc' : UserChat × Int => RowsGrow acc.1.messages acc'.1.messages)
      (s := (chats u.update.keyId, (chats u.update.keyId).lastSeen.getD 0))
      (fun acc => .refl _) RowsGrow.trans (fun acc p => (u.rowsStep_next format acc p).grow)
      u.messages
  · rw [applyUpdateTurn_of_ne hkey]
    exact .refl _

/-- An update keeps our rows, in every chat, exactly when none of its messages replaces one. -/
theorem applyUpdateTurn_keepsRows_iff (chats : ChatKeyId → UserChat) (u : UpdateTurn) :
    (∀ key, KeepsRows IsOwn (chats key).messages (applyUpdateTurn format chats u key).messages) ↔
      SparesOwn format chats u := by
  have hchat : KeepsRows IsOwn (chats u.update.keyId).messages
      (applyUpdateTurn format chats u u.update.keyId).messages ↔ SparesOwn format chats u := by
    rw [applyUpdateTurn_messages]
    exact (Run.Guarded.iff_related_end
      (R := fun acc acc' : UserChat × Int => KeepsRows IsOwn acc.1.messages acc'.1.messages)
      (G := fun acc acc' => RowsGrow acc.1.messages acc'.1.messages)
      (s := (chats u.update.keyId, (chats u.update.keyId).lastSeen.getD 0))
      (fun acc => .refl _) KeepsRows.trans (fun acc => .refl _) RowsGrow.trans
      (fun acc p => (u.rowsStep_next format acc p).grow)
      (fun acc p => (u.rowsStep_next format acc p).keepsRows_iff)
      RowsGrow.keepsRows_parts u.messages).symm
  rw [← hchat]
  refine ⟨fun h => h _, fun h key => ?_⟩
  by_cases hkey : key = u.update.keyId
  · exact hkey ▸ h
  · rw [applyUpdateTurn_of_ne hkey]
    exact .refl _

/-- A batch keeps our rows exactly when no message of it replaces one when it comes to it. -/
theorem updates_keepsRows_iff (chats : ChatKeyId → UserChat) (updates : List UpdateTurn) :
    (∀ key, KeepsRows IsOwn (chats key).messages
        (applyUserOrderChatUpdates format chats updates key).messages) ↔
      Run.Guarded (applyUpdateTurn format) (SparesOwn format) chats updates :=
  (Run.Guarded.iff_related_end
    (R := fun chats chats' : ChatKeyId → UserChat =>
      ∀ key, KeepsRows IsOwn (chats key).messages (chats' key).messages)
    (G := fun chats chats' => ∀ key, RowsGrow (chats key).messages (chats' key).messages)
    (fun _ _ => .refl _) (fun h h' key => (h key).trans (h' key))
    (fun _ _ => .refl _) (fun h h' key => (h key).trans (h' key))
    applyUpdateTurn_grow applyUpdateTurn_keepsRows_iff
    (fun h h' hkept => ⟨fun key => ((h key).keepsRows_parts (h' key) (hkept key)).1,
      fun key => ((h key).keepsRows_parts (h' key) (hkept key)).2⟩) updates).symm

end

/-! ## The admin's chats -/

section
variable (format : AttachmentFormat) (parseChatPubkey : String → Option PublicKey)
  (disputes : List DisputeRow) (adminChatPubkey : Option PublicKey)

/-- The admin's chats and their cursors. -/
structure AdminChats where
  chats : Uuid → DisputeChat
  memory : AdminCursors
  table : AdminCursors

/-- `AdminChatUpdate`, with what becomes of its writes and the clock. -/
structure AdminUpdateTurn where
  disputeId : Uuid
  party : ChatParty
  messages : List DecodedChatMessage
  io : Nat → WriteResult
  stored : Bool
  now : Int

/-- The body of the loop of `apply_admin_chat_updates`. -/
def applyAdminUpdateTurn (s : AdminChats) (u : AdminUpdateTurn) : AdminChats :=
  let (chat, memory, table) :=
    applyAdminChatUpdate format parseChatPubkey disputes u.disputeId u.party adminChatPubkey u.io
      u.stored u.now (s.chats u.disputeId) s.memory s.table u.messages
  { chats := Function.update s.chats u.disputeId chat, memory, table }

/-- `apply_admin_chat_updates`. -/
def applyAdminChatUpdates (s : AdminChats) (updates : List AdminUpdateTurn) : AdminChats :=
  updates.foldl (applyAdminUpdateTurn format parseChatPubkey disputes adminChatPubkey) s

/-- A row of the admin. -/
def IsAdmins (m : DisputeChatMessage) : Prop := m.sender = .admin

variable {format parseChatPubkey disputes adminChatPubkey}

/-- No signer has the admin's role. -/
theorem roleInDispute_ne_admin {disputeId : Uuid} {sender : PublicKey}
    {role : ChatSender × Option ChatParty}
    (h : roleInDispute parseChatPubkey disputes disputeId sender = some role) :
    role.1 ≠ .admin := by
  unfold roleInDispute disputeChatRoleForInnerSigner at h
  dsimp only at h
  split at h
  · cases h
    exact nofun
  · split at h
    · cases h
      exact nofun
    · cases h

/-- A placeholder that is upgraded is not the admin's. -/
theorem upgradeDisputePlaceholder_keepsRows {role : ChatSender × Option ChatParty}
    (hrole : role.1 ≠ .admin) (a : ChatAttachment) (display : String) (ts : Int)
    (messages : List DisputeChatMessage) :
    KeepsRows IsAdmins messages
      (upgradeDisputePlaceholder format role a display ts messages) := by
  induction messages with
  | nil => exact .refl _
  | cons m ms ih =>
    unfold upgradeDisputePlaceholder
    split
    next hm =>
      have hsender : m.sender = role.1 := by
        simp only [isDisputePlaceholderOf, decide_eq_true_eq] at hm
        exact hm.2.1
      exact keepsRows_set (i := 0) rfl fun hadmin => hrole (hsender.symm.trans hadmin)
    next =>
      intro i n hn hadmin
      cases i with
      | zero => exact hn
      | succ i => exact ih i n hn hadmin

/-- No message changes a row of the admin. -/
theorem applyAdminMessage_keepsRows (disputeId : Uuid) (party : ChatParty) (w : WriteResult)
    (acc : DisputeChat × Int) (msg : DecodedChatMessage) :
    KeepsRows IsAdmins acc.1.messages (applyAdminMessage format parseChatPubkey disputes disputeId
      party adminChatPubkey w acc msg).1.messages := by
  have hremember : ∀ chat : DisputeChat,
      (rememberDisputeInnerId chat party msg.innerEventId w).messages = chat.messages :=
    fun chat => by
      unfold rememberDisputeInnerId
      split <;> rfl
  unfold applyAdminMessage
  dsimp only
  split
  · exact .refl _
  · split
    · exact .refl _
    · split
      · exact .refl _
      next role hrole =>
        split
        next a ha =>
          split
          · rw [hremember]
            exact upgradeDisputePlaceholder_keepsRows (roleInDispute_ne_admin hrole) a _ _ _
          · exact .refl _
        next =>
          split
          · rw [hremember]
            exact .refl _
          · split
            · rw [hremember]
              exact keepsRows_append _
            · exact .refl _

theorem applyAdminMessages_keepsRows (disputeId : Uuid) (party : ChatParty)
    (io : Nat → WriteResult) (n : Nat) (acc : DisputeChat × Int) (msgs : List DecodedChatMessage) :
    KeepsRows IsAdmins acc.1.messages (applyAdminMessages format parseChatPubkey disputes disputeId
      party adminChatPubkey io n acc msgs).1.messages := by
  induction msgs generalizing n acc with
  | nil => exact .refl _
  | cons msg msgs ih =>
    exact (applyAdminMessage_keepsRows disputeId party (io n) acc msg).trans (ih (n + 1) _)

/-- The rows an update leaves in its chat. -/
theorem applyAdminUpdateTurn_keepsRows (s : AdminChats) (u : AdminUpdateTurn) (disputeId : Uuid) :
    KeepsRows IsAdmins (s.chats disputeId).messages ((applyAdminUpdateTurn format parseChatPubkey
      disputes adminChatPubkey s u).chats disputeId).messages := by
  have hmessages : (applyAdminChatUpdate format parseChatPubkey disputes u.disputeId u.party
      adminChatPubkey u.io u.stored u.now (s.chats u.disputeId) s.memory s.table u.messages).1 =
      (applyAdminMessages format parseChatPubkey disputes u.disputeId u.party adminChatPubkey u.io 0
        (s.chats u.disputeId, (s.memory (u.disputeId, u.party)).getD 0) u.messages).1 := by
    unfold applyAdminChatUpdate
    dsimp only
    split <;> rfl
  unfold applyAdminUpdateTurn
  dsimp only
  by_cases hid : disputeId = u.disputeId
  · subst hid
    rw [Function.update_self, hmessages]
    exact applyAdminMessages_keepsRows _ _ _ _ (s.chats u.disputeId, _) _
  · rw [Function.update_of_ne hid]
    exact .refl _

/-- The admin's chats keep the rows that the admin wrote. -/
theorem applyAdminChatUpdates_keepsRows (s : AdminChats) (updates : List AdminUpdateTurn)
    (disputeId : Uuid) :
    KeepsRows IsAdmins (s.chats disputeId).messages ((applyAdminChatUpdates format parseChatPubkey
      disputes adminChatPubkey s updates).chats disputeId).messages :=
  Run.related (R := fun s s' : AdminChats => ∀ disputeId,
      KeepsRows IsAdmins (s.chats disputeId).messages (s'.chats disputeId).messages)
    (fun _ _ => .refl _) (fun h h' disputeId => (h disputeId).trans (h' disputeId))
    applyAdminUpdateTurn_keepsRows updates disputeId

end

/-- **Our own messages** stay as they are and where they are under a batch of updates exactly when
no attachment that arrives in it replaces a line of ours; those of the admin always do. -/
theorem own_messages_kept_iff (format : AttachmentFormat) :
    (∀ (chats : ChatKeyId → UserChat) (updates : List UpdateTurn),
      (∀ key, KeepsRows IsOwn (chats key).messages
          (applyUserOrderChatUpdates format chats updates key).messages) ↔
        Run.Guarded (applyUpdateTurn format) (SparesOwn format) chats updates) ∧
      ∀ (parseChatPubkey : String → Option PublicKey) (disputes : List DisputeRow)
        (adminChatPubkey : Option PublicKey) (s : AdminChats) (updates : List AdminUpdateTurn)
        (disputeId : Uuid),
        KeepsRows IsAdmins (s.chats disputeId).messages ((applyAdminChatUpdates format
          parseChatPubkey disputes adminChatPubkey s updates).chats disputeId).messages :=
  ⟨updates_keepsRows_iff, fun _ _ _ => applyAdminChatUpdates_keepsRows⟩

/-- An image as it is sent. -/
def imageJson : Text :=
  ("\x7b\"type\":\"image_encrypted\",\"blossom_url\":\"blossom://a\"," ++
    "\"filename\":\"a.png\"\x7d").toList

/-- The formats for that image. -/
def imageFormats : Formats :=
  { plainFormats with
    encodings :=
      { plainFormats.encodings with
        objectFromStr := fun t =>
          if t = imageJson then
            some fun key =>
              if key = "type".toList then some "image_encrypted".toList
              else if key = "blossom_url".toList then some "blossom://a".toList
              else if key = "filename".toList then some "a.png".toList
              else none
          else none } }

/-- A line of ours that reads as the placeholder of that image. -/
def ownPlaceholder : UserOrderChatMessage where
  sender := .you
  content := "[Image: a.png - Ctrl+S to save]"
  timestamp := 2

/-- The peer sends an image of that name at that second, and it replaces our line. -/
theorem peer_image_replaces_own_line :
    let u : UpdateTurn :=
      { update :=
          { keyId := .order 1, localTradePubkey := "me"
            messages := [{ sender := "peer", content := String.ofList imageJson, timestamp := 2,
                           innerEventId := 7 }] }
        io := fun _ => { saved := true, remembered := true }
        now := 10 }
    let chats : ChatKeyId → UserChat := fun _ => { messages := [ownPlaceholder] }
    let format := StoredChat.attachmentFormat imageFormats
    ¬ ∀ key, KeepsRows IsOwn (chats key).messages
      (applyUserOrderChatUpdates format chats [u] key).messages := by
  intro u chats format h
  have hkept := h (.order 1) 0 ownPlaceholder rfl rfl
  revert hkept
  decide +kernel

end Mostrix.Chat
