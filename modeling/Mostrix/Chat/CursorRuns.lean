import Mostrix.Chat.DisputeChat
import Mostrix.Library.Run

/-!
# Chat cursors over a client's runs

Every cursor the client keeps, over any sequence of updates, recoveries and restarts: those of the
user's chats and of the admin's channels in memory, and those of the channels in the table. A
cursor should never pass the clock it is written at and never fall behind the one it replaces.

The clamp sees to the first in every writer. The second holds for the user's chats and for the
recovery from a transcript. The admin's update compares its cursor with the one in memory and then
writes it to the table too, which is ahead where memory was never seeded from it; and the seeding
overwrites memory, which is ahead where the table was not written. `Seeded` is what rules both out,
and `cursors_advance` carries the property through a whole run.
-/

namespace Mostrix.Chat

/-! ## The client -/

/-- The clock, the chats and every cursor. -/
structure Client where
  clock : Nat
  userChats : ChatKeyId → UserChat := fun _ => {}
  disputeChats : Uuid → DisputeChat := fun _ => {}
  adminChatLastSeen : AdminCursors := Table.empty
  /-- `buyer_chat_last_seen` and `seller_chat_last_seen`. -/
  storedLastSeen : AdminCursors := Table.empty

/-- What reads or writes a cursor. Disputes, transcript files, timestamps and the outcome of each
write are as they are at that moment, whatever the client did before. -/
inductive ClientEvent
  /-- `apply_user_order_chat_updates` -/
  | userUpdate (key : ChatKeyId) (localTradePubkey : PublicKey) (io : Nat → WriteResult)
    (msgs : List DecodedChatMessage)
  /-- `apply_admin_chat_updates`; `stored` unless the table has no row or the write fails. -/
  | adminUpdate (disputes : List DisputeRow) (disputeId : Uuid) (party : ChatParty)
    (adminChatPubkey : Option PublicKey) (io : Nat → WriteResult) (stored : Bool)
    (msgs : List DecodedChatMessage)
  /-- `load_admin_disputes_at_startup` with admin keys, its first half. -/
  | seed (disputes : List DisputeRow)
  /-- `load_admin_disputes_at_startup`, the rest. -/
  | recover (files : Uuid → Option (List DisputeChatMessage)) (disputes : List DisputeRow)
  /-- The process ends and `load_user_order_chats_at_startup` runs in the next one. -/
  | restart (files : ChatKeyId → List UserOrderChatMessage)

/-- `load_admin_disputes_at_startup`, at startup and on a reload from the settings. -/
def loadAdminDisputesAtStartup (adminKeysPresent : Bool) (disputes : List DisputeRow)
    (files : Uuid → Option (List DisputeChatMessage)) : List ClientEvent :=
  if adminKeysPresent then [.seed disputes, .recover files disputes]
  else [.recover files disputes]

/-- What memory is when the process starts: the durable inner ids and the table are still there. -/
def Client.inNextProcess (s : Client) : Client where
  clock := s.clock
  userChats := fun key => { innerIds := (s.userChats key).innerIds }
  disputeChats := fun id => { innerIds := (s.disputeChats id).innerIds }
  adminChatLastSeen := Table.empty
  storedLastSeen := s.storedLastSeen

/-- `load_user_order_chats_at_startup` for a chat with this transcript. -/
def loadUserChat (file : List UserOrderChatMessage) (now : Int) (chat : UserChat) : UserChat :=
  { chat with
    messages := file.filter fun m => reloads m.timestamp
    lastSeen := startupLastSeen (file.map (·.timestamp)) now }

section steps

variable (format : AttachmentFormat) (parseChatPubkey : String → Option PublicKey)

/-- One event, some seconds after the last. -/
def Client.next (s : Client) (e : Nat × ClientEvent) : Client :=
  let now := s.clock + e.1
  match e.2 with
  | .userUpdate key localTradePubkey io msgs =>
    { s with
      clock := now
      userChats := Function.update s.userChats key
        (applyUserOrderChatUpdate format key localTradePubkey io now (s.userChats key) msgs) }
  | .adminUpdate disputes disputeId party adminChatPubkey io stored msgs =>
    let (chat, memory, table) :=
      applyAdminChatUpdate format parseChatPubkey disputes disputeId party adminChatPubkey io stored
        now (s.disputeChats disputeId) s.adminChatLastSeen s.storedLastSeen msgs
    { s with
      clock := now
      disputeChats := Function.update s.disputeChats disputeId chat
      adminChatLastSeen := memory
      storedLastSeen := table }
  | .seed disputes =>
    { s with
      clock := now
      adminChatLastSeen :=
        seedAdminChatLastSeen s.storedLastSeen now s.adminChatLastSeen disputes }
  | .recover files disputes =>
    let (chats, memory) :=
      recoverAdminChatFromFiles files now s.disputeChats s.adminChatLastSeen disputes
    { s with clock := now, disputeChats := chats, adminChatLastSeen := memory }
  | .restart files =>
    { s.inNextProcess with
      clock := now
      userChats := fun key => loadUserChat (files key) now (s.inNextProcess.userChats key) }

/-- The state whose cursors an event replaces: a new process starts without those in memory. -/
def Client.replaced (s : Client) (e : Nat × ClientEvent) : Client :=
  match e.2 with
  | .restart _ => s.inNextProcess
  | _ => s

/-! ## Cursors that advance -/

/-- A cursor the client keeps. -/
inductive Cursor
  | user (key : ChatKeyId)
  | memory (disputeId : Uuid) (party : ChatParty)
  | table (disputeId : Uuid) (party : ChatParty)

/-- Its value. -/
def Client.cursor (s : Client) : Cursor → Option Int
  | .user key => (s.userChats key).lastSeen
  | .memory disputeId party => s.adminChatLastSeen (disputeId, party)
  | .table disputeId party => s.storedLastSeen (disputeId, party)

/-- The new cursor is not past the clock and not behind the old one. -/
def Advances (now : Int) (old new : Option Int) : Prop :=
  (∀ c ∈ new, c ≤ now) ∧ ∀ o ∈ old, ∃ c ∈ new, o ≤ c

/-- Every cursor advances in this step. -/
def CursorsAdvance (s : Client) (e : Nat × ClientEvent) : Prop :=
  ∀ cursor : Cursor,
    Advances (s.next format parseChatPubkey e).clock ((s.replaced e).cursor cursor)
      ((s.next format parseChatPubkey e).cursor cursor)

/-- Memory and the table agree as far as the step needs it. Where an update is stored, the table is
not ahead of memory; where a party with a key is seeded, it is not behind. -/
def Seeded (s : Client) (e : Nat × ClientEvent) : Prop :=
  match e.2 with
  | .adminUpdate _ disputeId party _ _ stored _ =>
    stored = true → ∀ o ∈ s.storedLastSeen (disputeId, party),
      o ≤ (s.adminChatLastSeen (disputeId, party)).getD 0
  | .seed disputes =>
    ∀ d ∈ disputes, ∀ party, (d.pubkey party).isSome = true →
      ∀ o ∈ s.adminChatLastSeen (d.disputeId, party),
        ∃ c ∈ s.storedLastSeen (d.disputeId, party), o ≤ c
  | _ => True

/-- No cursor is past the clock. -/
def InPast (s : Client) : Prop := ∀ cursor, ∀ c ∈ s.cursor cursor, c ≤ s.clock

end steps

/-! ## One cursor at a time -/

section cursor

variable {now : Int} {a b c : Option Int}

/-- A cursor that stays. -/
theorem Advances.refl (h : ∀ x ∈ a, x ≤ now) : Advances now a a :=
  ⟨h, fun o ho => ⟨o, ho, Int.le_refl o⟩⟩

/-- Two writes in a row. -/
theorem Advances.trans (hab : Advances now a b) (hbc : Advances now b c) : Advances now a c := by
  refine ⟨hbc.1, fun o ho => ?_⟩
  obtain ⟨x, hx, hox⟩ := hab.2 o ho
  obtain ⟨y, hy, hxy⟩ := hbc.2 x hx
  exact ⟨y, hy, Int.le_trans hox hxy⟩

/-- A write for one channel, where the cursors are read off `f`: the others stay. -/
theorem Advances.update {α β : Type} [DecidableEq α] (cursor : β → Option Int) {f : α → β}
    {k₀ k : α} {new : β} (hpast : ∀ x ∈ cursor (f k), x ≤ now)
    (hnew : k = k₀ → Advances now (cursor (f k)) (cursor new)) :
    Advances now (cursor (f k)) (cursor (Function.update f k₀ new k)) := by
  rcases eq_or_ne k k₀ with rfl | hk
  · rw [Function.update_self]
    exact hnew rfl
  · rw [Function.update_of_ne hk]
    exact Advances.refl hpast

/-- The first cursor of a channel. -/
theorem Advances.of_none (h : ∀ x ∈ b, x ≤ now) : Advances now none b :=
  ⟨h, nofun⟩

theorem clamp_le_now (ts now : Int) : clampChatSinceCursor ts now ≤ now := Int.min_le_right ..

/-- What is not past the clock and not after a time is not after the clamped time. -/
theorem le_clamp {o ts now : Int} (hnow : o ≤ now) (hts : o ≤ ts) :
    o ≤ clampChatSinceCursor ts now :=
  Int.le_min.2 ⟨hts, hnow⟩

/-- Raising a cursor advances it, whatever time it is raised to. -/
theorem raiseLastSeen_advances (h0 : 0 ≤ now) (ha : ∀ x ∈ a, x ≤ now) (ts : Int) :
    Advances now a (raiseLastSeen a ts now) := by
  unfold raiseLastSeen
  have hts := clamp_le_now ts now
  cases a with
  | none =>
    refine Advances.of_none fun x hx => ?_
    simp only [Option.map_none, Option.getD_none] at hx
    split at hx
    · obtain rfl := Option.some.inj hx
      exact Int.max_le.2 ⟨h0, hts⟩
    · cases hx
  | some o =>
    have ho : o ≤ now := ha o rfl
    have hclamp : clampChatSinceCursor o now = o := Int.min_eq_left ho
    simp only [Option.map_some, Option.getD_some, hclamp]
    split
    · refine ⟨fun x hx => ?_, fun y hy => ⟨_, rfl, ?_⟩⟩
      · obtain rfl := Option.some.inj hx
        exact Int.max_le.2 ⟨ho, hts⟩
      · obtain rfl := Option.some.inj hy
        exact Int.le_max_left ..
    · exact Advances.refl ha

end cursor

/-! ## The user's chats -/

section user

variable {format : AttachmentFormat} {key : ChatKeyId} {localTradePubkey : PublicKey}

/-- A message never lowers the newest accepted time. -/
theorem le_applyMessage (w : WriteResult) (acc : UserChat × Int) (msg : DecodedChatMessage) :
    acc.2 ≤ (applyMessage format key localTradePubkey w acc msg).2 := by
  obtain ⟨chat, maxTs⟩ := acc
  have hmax : maxTs ≤ max maxTs msg.timestamp := Int.le_max_left ..
  unfold applyMessage
  dsimp only
  split
  · exact hmax
  split
  · exact hmax
  split
  · split
    · exact hmax
    · exact Int.le_refl _
  · split
    · exact hmax
    split
    · exact hmax
    · exact Int.le_refl _

/-- Nor does an update's loop. -/
theorem le_applyMessages (io : Nat → WriteResult) (msgs : List DecodedChatMessage) (n : Nat)
    (acc : UserChat × Int) :
    acc.2 ≤ (applyMessages format key localTradePubkey io n acc msgs).2 := by
  induction msgs generalizing n acc with
  | nil => exact Int.le_refl _
  | cons msg msgs ih => exact Int.le_trans (le_applyMessage (io n) acc msg) (ih _ _)

/-- A user's chat advances on every update. -/
theorem applyUserOrderChatUpdate_advances {io : Nat → WriteResult} {now : Int} {chat : UserChat}
    {msgs : List DecodedChatMessage} (hpast : ∀ x ∈ chat.lastSeen, x ≤ now) :
    Advances now chat.lastSeen
      (applyUserOrderChatUpdate format key localTradePubkey io now chat msgs).lastSeen := by
  refine ⟨fun x hx => ?_, fun o ho => ⟨_, rfl, ?_⟩⟩
  · obtain rfl := Option.some.inj hx
    exact clamp_le_now ..
  · have hmax : chat.lastSeen.getD 0 ≤ (applyMessages format key localTradePubkey io 0
        (chat, chat.lastSeen.getD 0) msgs).2 := le_applyMessages io msgs 0 _
    have hget : chat.lastSeen.getD 0 = o := by rw [Option.mem_def.1 ho, Option.getD_some]
    rw [hget] at hmax
    exact le_clamp (hpast o ho) (by rw [hget]; exact hmax)

/-- The cursor a transcript gives at startup is not past the clock. -/
theorem startupLastSeen_le {timestamps : List Int} {now : Int} :
    ∀ x ∈ startupLastSeen timestamps now, x ≤ now := by
  intro x hx
  obtain ⟨ts, -, rfl⟩ := Option.map_eq_some_iff.1 (Option.mem_def.1 hx)
  exact clamp_le_now ..

end user

/-! ## The admin's channels -/

section admin

variable {format : AttachmentFormat} {parseChatPubkey : String → Option PublicKey}
  {disputes : List DisputeRow} {disputeId : Uuid} {party : ChatParty}
  {adminChatPubkey : Option PublicKey} {io : Nat → WriteResult} {now : Int}

/-- The newest accepted time an update leaves. -/
def adminNewest (format : AttachmentFormat) (parseChatPubkey : String → Option PublicKey)
    (disputes : List DisputeRow) (disputeId : Uuid) (party : ChatParty)
    (adminChatPubkey : Option PublicKey) (io : Nat → WriteResult) (chat : DisputeChat)
    (memory : AdminCursors) (msgs : List DecodedChatMessage) : Int :=
  (applyAdminMessages format parseChatPubkey disputes disputeId party adminChatPubkey io 0
    (chat, (memory (disputeId, party)).getD 0) msgs).2

/-- An update raises its channel's cursor to that time and leaves the others in memory as they
are. -/
theorem applyAdminChatUpdate_memory (stored : Bool) (chat : DisputeChat)
    (memory table : AdminCursors) (msgs : List DecodedChatMessage) :
    (applyAdminChatUpdate format parseChatPubkey disputes disputeId party adminChatPubkey io stored
      now chat memory table msgs).2.1 =
      Function.update memory (disputeId, party)
        (raiseLastSeen (memory (disputeId, party))
          (adminNewest format parseChatPubkey disputes disputeId party adminChatPubkey io chat
            memory msgs) now) := by
  unfold applyAdminChatUpdate raiseLastSeen adminNewest
  dsimp only
  split
  · rfl
  · rw [Function.update_eq_self]

variable (format parseChatPubkey disputes disputeId party adminChatPubkey io now) in
/-- In the table it writes what it has in memory, or nothing. -/
theorem applyAdminChatUpdate_table (stored : Bool) (chat : DisputeChat)
    (memory table : AdminCursors) (msgs : List DecodedChatMessage) (k : Uuid × ChatParty) :
    (applyAdminChatUpdate format parseChatPubkey disputes disputeId party adminChatPubkey io stored
      now chat memory table msgs).2.2 k = table k ∨
    (k = (disputeId, party) ∧ stored = true ∧ ∃ new,
      (applyAdminChatUpdate format parseChatPubkey disputes disputeId party adminChatPubkey io
        stored now chat memory table msgs).2.2 k = some new ∧
      raiseLastSeen (memory (disputeId, party))
        (adminNewest format parseChatPubkey disputes disputeId party adminChatPubkey io chat memory
          msgs) now = some new ∧ 0 < new) := by
  unfold applyAdminChatUpdate raiseLastSeen adminNewest
  dsimp only
  split
  · next hpos =>
    by_cases hs : stored = true
    · by_cases hk : k = (disputeId, party)
      · subst hk
        refine .inr ⟨rfl, hs, _, ?_, rfl, hpos⟩
        rw [if_pos hs]
        exact Table.put_self
      · refine .inl ?_
        rw [if_pos hs]
        exact Table.put_of_ne hk
    · refine .inl ?_
      rw [if_neg hs]
  · exact .inl rfl

/-- Seeding a party writes the table's cursor, clamped, at its channel. -/
theorem seedParty_cases (table : AdminCursors) (now : Int) (d : DisputeRow) (memory : AdminCursors)
    (party : ChatParty) (k : Uuid × ChatParty) :
    seedParty table now d memory party k = memory k ∨
      ((d.pubkey party).isSome = true ∧ k = (d.disputeId, party)) ∧
        seedParty table now d memory party k = (table k).map (clampChatSinceCursor · now) := by
  unfold seedParty
  split
  · next hkey =>
    by_cases hk : k = (d.disputeId, party)
    · subst hk
      exact .inr ⟨⟨hkey, rfl⟩, Function.update_self ..⟩
    · exact .inl (Function.update_of_ne hk ..)
  · exact .inl rfl

/-- So does seeding every row at each channel that a row has a key for. -/
theorem seedAdminChatLastSeen_cases (table : AdminCursors) (now : Int) (memory : AdminCursors)
    (disputes : List DisputeRow) (k : Uuid × ChatParty) :
    seedAdminChatLastSeen table now memory disputes k = memory k ∨
      (∃ d ∈ disputes, ∃ party, (d.pubkey party).isSome = true ∧ k = (d.disputeId, party)) ∧
        seedAdminChatLastSeen table now memory disputes k =
          (table k).map (clampChatSinceCursor · now) := by
  induction disputes generalizing memory with
  | nil => exact .inl rfl
  | cons d disputes ih =>
    rcases ih (seedParty table now d (seedParty table now d memory .buyer) .seller) with
      hrest | ⟨⟨d', hd', party, hkey⟩, hrest⟩
    · rcases seedParty_cases table now d (seedParty table now d memory .buyer) .seller k with
        hseller | ⟨hkey, hseller⟩
      · rcases seedParty_cases table now d memory .buyer k with hbuyer | ⟨hkey, hbuyer⟩
        · exact .inl (hrest.trans (hseller.trans hbuyer))
        · exact .inr ⟨⟨d, List.mem_cons_self, .buyer, hkey⟩, hrest.trans (hseller.trans hbuyer)⟩
      · exact .inr ⟨⟨d, List.mem_cons_self, .seller, hkey⟩, hrest.trans hseller⟩
    · exact .inr ⟨⟨d', List.mem_cons_of_mem _ hd', party, hkey⟩, hrest⟩

/-- A channel that the table is not behind on advances when it is seeded. -/
theorem seedAdminChatLastSeen_advances {table memory : AdminCursors} {k : Uuid × ChatParty}
    (hmemory : ∀ x ∈ memory k, x ≤ now)
    (hseeded : ∀ d ∈ disputes, ∀ party, (d.pubkey party).isSome = true → k = (d.disputeId, party) →
      ∀ o ∈ memory k, ∃ c ∈ table k, o ≤ c) :
    Advances now (memory k) (seedAdminChatLastSeen table now memory disputes k) := by
  rcases seedAdminChatLastSeen_cases table now memory disputes k with
    hsame | ⟨⟨d, hd, party, hkey, hk⟩, hclamped⟩
  · rw [hsame]
    exact Advances.refl hmemory
  · rw [hclamped]
    refine ⟨fun x hx => ?_, fun o ho => ?_⟩
    · obtain ⟨ts, -, rfl⟩ := Option.map_eq_some_iff.1 (Option.mem_def.1 hx)
      exact clamp_le_now ..
    · obtain ⟨c, hc, hoc⟩ := hseeded d hd party hkey hk o ho
      exact ⟨_, Option.mem_map_of_mem _ hc, le_clamp (hmemory o ho) hoc⟩

/-- Recovering a party raises its channel's cursor. -/
theorem recoverParty_advances (h0 : 0 ≤ now) (read : List DisputeChatMessage) (party : ChatParty)
    (d : DisputeRow) {memory : AdminCursors} {k : Uuid × ChatParty}
    (hmemory : ∀ x ∈ memory k, x ≤ now) :
    Advances now (memory k) (recoverParty read now d memory party k) := by
  refine Advances.update id hmemory ?_
  rintro rfl
  exact raiseLastSeen_advances h0 hmemory _

/-- Recovering a dispute raises its channels' cursors. -/
theorem recoverDispute_advances (h0 : 0 ≤ now)
    (files : Uuid → Option (List DisputeChatMessage)) (acc : (Uuid → DisputeChat) × AdminCursors)
    (d : DisputeRow) {k : Uuid × ChatParty} (hmemory : ∀ x ∈ acc.2 k, x ≤ now) :
    Advances now (acc.2 k) ((recoverDispute files now acc d).2 k) := by
  unfold recoverDispute
  split
  · split
    · exact Advances.refl hmemory
    · next read _ =>
      have hbuyer := recoverParty_advances h0 read .buyer d hmemory
      exact hbuyer.trans (recoverParty_advances h0 read .seller d hbuyer.1)
  · exact Advances.refl hmemory

/-- Recovering every dispute advances every channel. -/
theorem recoverAdminChatFromFiles_advances (h0 : 0 ≤ now)
    (files : Uuid → Option (List DisputeChatMessage)) (chats : Uuid → DisputeChat)
    {memory : AdminCursors} {k : Uuid × ChatParty} (hmemory : ∀ x ∈ memory k, x ≤ now) :
    Advances now (memory k)
      ((recoverAdminChatFromFiles files now chats memory disputes).2 k) := by
  unfold recoverAdminChatFromFiles
  induction disputes generalizing chats memory with
  | nil => exact Advances.refl hmemory
  | cons d disputes ih =>
    have hd := recoverDispute_advances h0 files (chats, memory) d hmemory
    exact hd.trans (ih (recoverDispute files now (chats, memory) d).1 hd.1)

/-- An update raises its channel's cursor in memory. -/
theorem applyAdminChatUpdate_memory_advances (h0 : 0 ≤ now) (stored : Bool) (chat : DisputeChat)
    {memory : AdminCursors} (table : AdminCursors) (msgs : List DecodedChatMessage)
    {k : Uuid × ChatParty} (hmemory : ∀ x ∈ memory k, x ≤ now) :
    Advances now (memory k)
      ((applyAdminChatUpdate format parseChatPubkey disputes disputeId party adminChatPubkey io
        stored now chat memory table msgs).2.1 k) := by
  rw [applyAdminChatUpdate_memory]
  refine Advances.update id hmemory ?_
  rintro rfl
  exact raiseLastSeen_advances h0 hmemory _

/-- In the table too, where the table is not ahead of memory. -/
theorem applyAdminChatUpdate_table_advances (h0 : 0 ≤ now) (stored : Bool) (chat : DisputeChat)
    {memory table : AdminCursors} (msgs : List DecodedChatMessage) {k : Uuid × ChatParty}
    (hmemory : ∀ x ∈ memory (disputeId, party), x ≤ now) (htable : ∀ x ∈ table k, x ≤ now)
    (hseeded : stored = true → ∀ o ∈ table (disputeId, party),
      o ≤ (memory (disputeId, party)).getD 0) :
    Advances now (table k)
      ((applyAdminChatUpdate format parseChatPubkey disputes disputeId party adminChatPubkey io
        stored now chat memory table msgs).2.2 k) := by
  rcases applyAdminChatUpdate_table format parseChatPubkey disputes disputeId party adminChatPubkey
    io now stored chat memory table msgs k with
    hsame | ⟨rfl, hs, new, hnew, hraised, hpos⟩
  · rw [hsame]
    exact Advances.refl htable
  · rw [hnew]
    have hraise := raiseLastSeen_advances h0 hmemory
      (adminNewest format parseChatPubkey disputes disputeId party adminChatPubkey io chat memory
        msgs)
    rw [hraised] at hraise
    refine ⟨hraise.1, fun o ho => ⟨new, rfl, ?_⟩⟩
    have hle := hseeded hs o ho
    cases hm : memory (disputeId, party) with
    | none =>
      rw [hm, Option.getD_none] at hle
      omega
    | some m =>
      rw [hm, Option.getD_some] at hle
      obtain ⟨c, hc, hmc⟩ := hraise.2 m hm
      obtain rfl := Option.some.inj hc
      exact Int.le_trans hle hmc

end admin

/-! ## Every event -/

section runs

variable {format : AttachmentFormat} {parseChatPubkey : String → Option PublicKey}

/-- The clock does not go back. -/
theorem Client.next_clock (s : Client) (e : Nat × ClientEvent) :
    (s.next format parseChatPubkey e).clock = s.clock + e.1 := by
  obtain ⟨elapsed, e⟩ := e
  cases e <;> rfl

/-- One event: where it finds memory and the table in step, every cursor advances. -/
theorem Client.next_advances {s : Client} {e : Nat × ClientEvent} (hg : Seeded s e)
    (hs : InPast s) : CursorsAdvance format parseChatPubkey s e := by
  intro cursor
  rw [Client.next_clock s e]
  have h0 : (0 : Int) ≤ (s.clock + e.1 : Nat) := Int.natCast_nonneg _
  have hpast : ∀ cursor, ∀ c ∈ s.cursor cursor, c ≤ ((s.clock + e.1 : Nat) : Int) := by
    intro cursor c hc
    have := hs cursor c hc
    omega
  have hsame := Advances.refl (hpast cursor)
  obtain ⟨elapsed, e⟩ := e
  cases e with
  | userUpdate key localTradePubkey io msgs =>
    cases cursor with
    | user key' =>
      refine Advances.update UserChat.lastSeen (hpast (.user key')) ?_
      rintro rfl
      exact applyUserOrderChatUpdate_advances (hpast (.user key'))
    | memory disputeId party => exact hsame
    | table disputeId party => exact hsame
  | adminUpdate disputes disputeId party adminChatPubkey io stored msgs =>
    cases cursor with
    | user key => exact hsame
    | memory disputeId' party' =>
      exact applyAdminChatUpdate_memory_advances h0 stored _ _ msgs (hpast (.memory _ _))
    | table disputeId' party' =>
      exact applyAdminChatUpdate_table_advances h0 stored _ msgs (hpast (.memory _ _))
        (hpast (.table _ _)) hg
  | seed disputes =>
    cases cursor with
    | user key => exact hsame
    | memory disputeId party =>
      refine seedAdminChatLastSeen_advances (hpast (.memory _ _)) ?_
      rintro d hd p hkey ⟨rfl, rfl⟩
      exact hg d hd party hkey
    | table disputeId party => exact hsame
  | recover files disputes =>
    cases cursor with
    | user key => exact hsame
    | memory disputeId party =>
      exact recoverAdminChatFromFiles_advances h0 files s.disputeChats (hpast (.memory _ _))
    | table disputeId party => exact hsame
  | restart files =>
    cases cursor with
    | user key => exact Advances.of_none startupLastSeen_le
    | memory disputeId party => exact Advances.of_none nofun
    | table disputeId party => exact hsame

/-- Cursors that advance are not past the clock. -/
theorem inPast_next {s : Client} {e : Nat × ClientEvent}
    (h : CursorsAdvance format parseChatPubkey s e) : InPast (s.next format parseChatPubkey e) :=
  fun cursor => (h cursor).1

theorem inPast_start (clock : Nat) : InPast { clock := clock } := by
  intro cursor
  cases cursor <;> exact nofun

/-- Whatever is received, recovered and restarted, in a run whose admin updates and seedings find
memory and the table in step every step leaves every cursor at most at its clock and nowhere behind
the one it replaces. -/
theorem cursors_advance (format : AttachmentFormat) (parseChatPubkey : String → Option PublicKey)
    (clock : Nat) (events : List (Nat × ClientEvent))
    (hg : Run.Guarded (Client.next format parseChatPubkey) Seeded { clock := clock } events) :
    ∀ before e after, events = before ++ e :: after →
      CursorsAdvance format parseChatPubkey
        (before.foldl (Client.next format parseChatPubkey) { clock := clock }) e := by
  rintro before e after rfl
  have hpast := Run.Guarded.invariant_prefix
    (fun t a ha ht => inPast_next (Client.next_advances ha ht)) hg (inPast_start clock)
  exact Client.next_advances (Run.guarded_append.1 hg).2.1 hpast

end runs

/-- A dispute in progress. -/
def exampleDispute : DisputeRow where
  disputeId := 7
  inProgress := true
  buyerPubkey := some "buyer"
  sellerPubkey := some "seller"

/-- An update of its buyer's channel with one message; every write succeeds. -/
def exampleUpdate (sender : PublicKey) (adminChatPubkey : Option PublicKey) (timestamp : Int)
    (innerEventId : EventId) : ClientEvent :=
  .adminUpdate [exampleDispute] 7 .buyer adminChatPubkey (fun _ => ⟨true, true⟩) true
    [{ sender := sender, content := "hello", timestamp := timestamp, innerEventId := innerEventId }]

/-- An admin that starts with keys hears from the buyer twice, the second time out of order. -/
theorem cursors_advance_of_seeded :
    CursorsAdvance plainFormat some
      ([(0, .seed [exampleDispute]), (5, exampleUpdate "buyer" (some "admin") 1003 1)].foldl
        (Client.next plainFormat some) { clock := 1000 })
      (5, exampleUpdate "buyer" (some "admin") 900 2) := by
  refine cursors_advance plainFormat some 1000
    [(0, .seed [exampleDispute]), (5, exampleUpdate "buyer" (some "admin") 1003 1),
      (5, exampleUpdate "buyer" (some "admin") 900 2)] ?_ [_, _] _ [] rfl
  refine ⟨fun _ _ _ _ => nofun, fun _ => nofun, ?_, trivial⟩
  intro _ o ho
  obtain rfl : (1003 : Int) = o := Option.some.inj ho
  decide

/-- An echo of the admin's own message moves the buyer's cursor to 1000. The process is started
again without admin keys, so nothing is seeded, and a message of second 500 moves the cursor in the
table back to it. -/
theorem unseeded_update_lowers_table :
    ¬ ∀ (format : AttachmentFormat) (parseChatPubkey : String → Option PublicKey) (clock : Nat)
        (events before : List (Nat × ClientEvent)) (e : Nat × ClientEvent)
        (after : List (Nat × ClientEvent)), events = before ++ e :: after →
        CursorsAdvance format parseChatPubkey
          (before.foldl (Client.next format parseChatPubkey) { clock := clock }) e := by
  intro h
  have hback := (h plainFormat some 1000 _
    ([(0, exampleUpdate "admin" (some "admin") 1000 1), (60, .restart fun _ => [])] ++
      (loadAdminDisputesAtStartup false [exampleDispute] fun _ => none).map (Prod.mk 0))
    (5, exampleUpdate "buyer" none 500 2) [] rfl
    (.table 7 .buyer)).2 1000 (by decide)
  obtain ⟨c, hc, hle⟩ := hback
  obtain rfl : (500 : Int) = c := Option.some.inj hc
  omega

end Mostrix.Chat
