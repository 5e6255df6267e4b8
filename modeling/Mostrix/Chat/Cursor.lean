import Mostrix.Chat.Transcript

/-!
# The hydration cursor after a restart

A chat is hydrated from its cursor on: `hydrate_history` drops what is dated before it. The cursor
is the newest accepted time clamped to the clock, so that a future-dated message cannot silence the
conversation. The transcript keeps the times as the peer chose them, though, and after a restart the
cursor is computed from those against a later clock. `restart_cursor_iff` says when that is safe:
exactly when no stored time is later than the shutdown, or no time has passed.
-/

namespace Mostrix.Chat

/-! ## The admin's dispute chats -/

/-- `ChatSender` of a dispute transcript. -/
inductive ChatSender
  | admin
  | buyer
  | seller
deriving DecidableEq, Repr

/-- `ChatParty`. -/
inductive ChatParty
  | buyer
  | seller
deriving DecidableEq, Repr

/-- The sender a party's own lines have. -/
def ChatParty.sender : ChatParty → ChatSender
  | .buyer => .buyer
  | .seller => .seller

/-- `load_chat_from_file`, as far as the cursor reads it: who wrote a line, and when. -/
def loadDisputeLines (lines : List (ChatSender × Int)) : Option (List (ChatSender × Int)) :=
  let read := lines.filter fun l => reloads l.2
  if read.isEmpty then none else some read

/-- The times of a party's own lines. -/
def partyTimes (lines : List (ChatSender × Int)) (party : ChatParty) : List Int :=
  (lines.filter (·.1 = party.sender)).map (·.2)

/-- `max_party_timestamps`, one side. -/
def maxPartyTimestamp (lines : List (ChatSender × Int)) (party : ChatParty) : Int :=
  (partyTimes lines party).max?.getD 0

/-- `dispute_chat_since_from_file`, one side. -/
def disputeChatSinceFromFile (lines : List (ChatSender × Int)) (party : ChatParty) (now : Int) :
    Option Int :=
  match loadDisputeLines lines with
  | none => none
  | some read =>
    let partyMax := maxPartyTimestamp read party
    if partyMax > 0 then some (clampChatSinceCursor partyMax now) else none

/-- The admin's cursor at startup: `seed_admin_chat_last_seen` takes the one stored with the
dispute, and `recover_admin_chat_from_files` raises it to the transcript's newest. -/
def adminLastSeen (stored : Option Int) (lines : List (ChatSender × Int)) (party : ChatParty)
    (now : Int) : Option Int :=
  let seeded := stored.map (clampChatSinceCursor · now)
  match loadDisputeLines lines with
  | none => seeded
  | some read =>
    let existing := (seeded.map (clampChatSinceCursor · now)).getD 0
    let new := max existing (clampChatSinceCursor (maxPartyTimestamp read party) now)
    if new > 0 then some new else seeded

/-- `track_startup_chats`, the `since` it passes for a dispute party. -/
def adminSince (stored : Option Int) (lines : List (ChatSender × Int)) (party : ChatParty)
    (now : Int) : Option Int :=
  (adminLastSeen stored lines party now).map (clampChatSinceCursor · now)

/-! ## Safe cursors -/

/-- `hydrate_history`, the cutoff on what was fetched. -/
def inHydrationWindow (since : Option Int) (ts : Int) : Bool := since.getD 0 ≤ ts

/-- The cursor lies at or before `t0`, and what is dated after `t0` is in the window. -/
def SafeAfter (t0 : Int) (since : Option Int) : Prop :=
  (∀ c ∈ since, c ≤ t0) ∧ ∀ ts, t0 < ts → inHydrationWindow since ts = true

/-- No stored time that is read back is later than `t0`. -/
def NoneAfter (t0 : Int) (timestamps : List Int) : Prop :=
  ∀ ts ∈ timestamps, reloads ts = true → ts ≤ t0

/-- For a clock after the epoch the bound on the cursor is all there is to it. -/
theorem safeAfter_iff {t0 : Int} (h0 : 0 ≤ t0) (since : Option Int) :
    SafeAfter t0 since ↔ ∀ c ∈ since, c ≤ t0 := by
  refine ⟨fun h => h.1, fun h => ⟨h, fun ts hts => ?_⟩⟩
  unfold inHydrationWindow
  cases since with
  | none => simp only [Option.getD_none, decide_eq_true_eq]; omega
  | some c =>
    have hc := h c rfl
    simp only [Option.getD_some, decide_eq_true_eq]
    omega

/-- The readable times of a file have a newest one, unless there are none. -/
theorem loadTimestamps_cases (timestamps : List Int) :
    (loadTimestamps timestamps = none ∧ ∀ ts ∈ timestamps, reloads ts = false) ∨
      ∃ read m, loadTimestamps timestamps = some read ∧ read.max? = some m ∧
        ∀ t0, m ≤ t0 ↔ NoneAfter t0 timestamps := by
  unfold loadTimestamps
  cases hread : timestamps.filter reloads with
  | nil =>
    refine .inl ⟨rfl, fun ts hts => ?_⟩
    have h := List.filter_eq_nil_iff.1 hread ts hts
    simpa using h
  | cons a as =>
    obtain ⟨m, hm⟩ : ∃ m, (a :: as).max? = some m := ⟨_, List.max?_cons'⟩
    refine .inr ⟨a :: as, m, rfl, hm, fun t0 => ?_⟩
    rw [List.max?_le_iff hm, ← hread]
    simp only [List.mem_filter, and_imp, NoneAfter]

/-- Clamping to `t1` brings a time to `t0` exactly when it is there already or the clock is. -/
theorem clamp_le_iff {ts t0 t1 : Int} (h : t0 ≤ t1) :
    clampChatSinceCursor ts t1 ≤ t0 ↔ t1 = t0 ∨ ts ≤ t0 := by
  unfold clampChatSinceCursor
  omega

/-- Clamping twice is clamping once. -/
@[simp] theorem clamp_clamp (ts now : Int) :
    clampChatSinceCursor (clampChatSinceCursor ts now) now = clampChatSinceCursor ts now := by
  unfold clampChatSinceCursor
  omega

/-- The cursor read from a file. -/
theorem chatSinceFromFile_le_iff {t0 t1 : Int} (h : t0 ≤ t1) (timestamps : List Int) :
    (∀ c ∈ chatSinceFromFile timestamps t1, c ≤ t0) ↔ t1 = t0 ∨ NoneAfter t0 timestamps := by
  rcases loadTimestamps_cases timestamps with ⟨hnone, hall⟩ | ⟨read, m, hsome, hm, hle⟩
  · have hafter : NoneAfter t0 timestamps := by
      intro ts hts hr
      rw [hall ts hts] at hr
      cases hr
    simp [chatSinceFromFile, hnone, hafter]
  · rw [← hle, ← clamp_le_iff h]
    simp [chatSinceFromFile, hsome, hm]

/-- The cursor stored at startup is the one read from the file. -/
theorem startupSince_eq (timestamps : List Int) (now : Int) :
    startupSince timestamps now = chatSinceFromFile timestamps now := by
  unfold startupSince startupLastSeen chatSinceFromFile
  rcases loadTimestamps_cases timestamps with ⟨hnone, -⟩ | ⟨read, m, hsome, hm, -⟩
  · rw [hnone]
    rfl
  · simp [hsome, hm]

/-- The newest readable time of a party is at most `t0` when none of its times is later. -/
theorem maxPartyTimestamp_le_iff {t0 : Int} (h0 : 0 ≤ t0) (lines : List (ChatSender × Int))
    (party : ChatParty) :
    maxPartyTimestamp (lines.filter fun l => reloads l.2) party ≤ t0 ↔
      NoneAfter t0 (partyTimes lines party) := by
  have hmem : ∀ ts, ts ∈ partyTimes (lines.filter fun l => reloads l.2) party ↔
      ts ∈ partyTimes lines party ∧ reloads ts = true := by
    intro ts
    simp only [partyTimes, List.mem_map, List.mem_filter, decide_eq_true_eq]
    refine ⟨?_, ?_⟩
    · rintro ⟨l, ⟨⟨hl, hr⟩, hs⟩, rfl⟩
      exact ⟨⟨l, ⟨hl, hs⟩, rfl⟩, hr⟩
    · rintro ⟨⟨l, ⟨hl, hs⟩, rfl⟩, hr⟩
      exact ⟨l, ⟨⟨hl, hr⟩, hs⟩, rfl⟩
  have hafter : NoneAfter t0 (partyTimes lines party) ↔
      ∀ ts ∈ partyTimes (lines.filter fun l => reloads l.2) party, ts ≤ t0 := by
    simp only [hmem, and_imp, NoneAfter]
  rw [hafter, maxPartyTimestamp]
  cases hmax : (partyTimes (lines.filter fun l => reloads l.2) party).max? with
  | none =>
    rw [List.max?_eq_none_iff] at hmax
    simp [hmax, h0]
  | some m => exact List.max?_le_iff hmax

/-- The cursor a dispute transcript gives a party. -/
theorem disputeChatSinceFromFile_le_iff {t0 t1 : Int} (h0 : 0 ≤ t0) (h : t0 ≤ t1)
    (lines : List (ChatSender × Int)) (party : ChatParty) :
    (∀ c ∈ disputeChatSinceFromFile lines party t1, c ≤ t0) ↔
      t1 = t0 ∨ NoneAfter t0 (partyTimes lines party) := by
  rw [← maxPartyTimestamp_le_iff h0, ← clamp_le_iff h]
  unfold disputeChatSinceFromFile loadDisputeLines
  cases hread : lines.filter fun l => reloads l.2 with
  | nil =>
    have hzero : clampChatSinceCursor (maxPartyTimestamp [] party) t1 ≤ t0 :=
      Int.le_trans (Int.min_le_left _ _) h0
    simp [hzero]
  | cons l ls =>
    simp only [List.isEmpty_cons, Bool.false_eq_true, if_false]
    split
    · simp
    · next hpos =>
      have hle : clampChatSinceCursor (maxPartyTimestamp (l :: ls) party) t1 ≤ t0 := by
        unfold clampChatSinceCursor
        omega
      simp [hle]

/-- A cursor that is raised where the raised one is positive. -/
theorem raised_le_iff {t0 t1 : Int} (h : t0 ≤ t1) (new : Int) (seeded : Option Int) :
    (∀ c ∈ (if new > 0 then some new else seeded).map (clampChatSinceCursor · t1), c ≤ t0) ↔
      (0 < new → t1 = t0 ∨ new ≤ t0) ∧
        (new ≤ 0 → ∀ s ∈ seeded, t1 = t0 ∨ s ≤ t0) := by
  by_cases hpos : new > 0
  · have hnot : ¬ new ≤ 0 := by omega
    simp only [if_pos hpos, Option.map_some, Option.mem_def, Option.some.injEq, forall_eq',
      clamp_le_iff h]
    exact ⟨fun hc => ⟨fun _ => hc, fun hle => absurd hle hnot⟩, fun hc => hc.1 hpos⟩
  · have hle : new ≤ 0 := by omega
    rw [if_neg hpos]
    cases seeded with
    | none => simp [hpos]
    | some s =>
      simp only [Option.map_some, Option.mem_def, Option.some.injEq, forall_eq', clamp_le_iff h]
      exact ⟨fun hc => ⟨fun hnew => absurd hnew hpos, fun _ => hc⟩, fun hc => hc.2 hle⟩

/-- The admin's startup cursor for a party. -/
theorem adminSince_le_iff {t0 t1 : Int} (h0 : 0 ≤ t0) (h : t0 ≤ t1) (stored : Option Int)
    (lines : List (ChatSender × Int)) (party : ChatParty) :
    (∀ c ∈ adminSince stored lines party t1, c ≤ t0) ↔
      t1 = t0 ∨ (∀ s ∈ stored, s ≤ t0) ∧ NoneAfter t0 (partyTimes lines party) := by
  rw [← maxPartyTimestamp_le_iff h0]
  unfold adminSince adminLastSeen loadDisputeLines
  cases hread : lines.filter fun l => reloads l.2 with
  | nil =>
    have hzero : maxPartyTimestamp [] party ≤ t0 := h0
    simp only [List.isEmpty_nil, if_true, hzero, and_true]
    cases stored with
    | none => simp
    | some s =>
      simp only [Option.map_some, Option.mem_def, Option.some.injEq, forall_eq', clamp_clamp]
      exact clamp_le_iff h
  | cons l ls =>
    simp only [List.isEmpty_cons, Bool.false_eq_true, if_false]
    generalize maxPartyTimestamp (l :: ls) party = newest
    rw [raised_le_iff h]
    cases stored with
    | none =>
      simp only [Option.map_none, Option.getD_none, clampChatSinceCursor, Option.mem_def,
        reduceCtorEq, false_implies, implies_true, true_and, and_true]
      omega
    | some s =>
      simp only [Option.map_some, Option.getD_some, clampChatSinceCursor, Option.mem_def,
        Option.some.injEq, forall_eq']
      omega

/-! ## Every way a chat is hydrated -/

/-- A chat hydrated after a restart, with what is on disk for it. -/
inductive Hydration
  /-- `load_user_order_chats_at_startup` -/
  | orderAtStartup (timestamps : List Int)
  /-- `maybe_track_order_chat`, on a DM of the order -/
  | orderTracked (timestamps : List Int)
  /-- `track_startup_chats` and the solver's DM, the user's dispute chat -/
  | userDispute (timestamps : List Int)
  /-- `load_admin_disputes_at_startup`, with the cursor stored for the party -/
  | disputeAtStartup (stored : Option Int) (lines : List (ChatSender × Int)) (party : ChatParty)
  /-- `execute_take_dispute` -/
  | disputeTaken (lines : List (ChatSender × Int)) (party : ChatParty)

/-- The cursor it is hydrated from. -/
def Hydration.since (now : Int) : Hydration → Option Int
  | orderAtStartup timestamps => startupSince timestamps now
  | orderTracked timestamps => chatSinceFromFile timestamps now
  | userDispute timestamps => chatSinceFromFile timestamps now
  | disputeAtStartup stored lines party => adminSince stored lines party now
  | disputeTaken lines party => disputeChatSinceFromFile lines party now

/-- Nothing on disk that the cursor is computed from is later than `t0`. -/
def Hydration.UpTo (t0 : Int) : Hydration → Prop
  | orderAtStartup timestamps => NoneAfter t0 timestamps
  | orderTracked timestamps => NoneAfter t0 timestamps
  | userDispute timestamps => NoneAfter t0 timestamps
  | disputeAtStartup stored lines party =>
    (∀ s ∈ stored, s ≤ t0) ∧ NoneAfter t0 (partyTimes lines party)
  | disputeTaken lines party => NoneAfter t0 (partyTimes lines party)

/-- A client shut down at `t0` and restarted at `t1` hydrates a chat from a safe cursor exactly when
no time has passed or nothing stored for the chat is dated after the shutdown. -/
theorem restart_cursor_iff {t0 t1 : Int} (h0 : 0 ≤ t0) (h : t0 ≤ t1) (chat : Hydration) :
    SafeAfter t0 (chat.since t1) ↔ t1 = t0 ∨ chat.UpTo t0 := by
  rw [safeAfter_iff h0]
  cases chat with
  | orderAtStartup timestamps =>
    simp only [Hydration.since, startupSince_eq]
    exact chatSinceFromFile_le_iff h timestamps
  | orderTracked timestamps => exact chatSinceFromFile_le_iff h timestamps
  | userDispute timestamps => exact chatSinceFromFile_le_iff h timestamps
  | disputeAtStartup stored lines party => exact adminSince_le_iff h0 h stored lines party
  | disputeTaken lines party => exact disputeChatSinceFromFile_le_iff h0 h lines party

/-- A transcript whose newest line is older than the shutdown. -/
theorem restart_cursor_of_past :
    SafeAfter 1000 ((Hydration.orderAtStartup [800, 900]).since 6000) := by
  refine (restart_cursor_iff (by decide) (by decide) _).2 (.inr ?_)
  intro ts hts _
  simp only [List.mem_cons, List.not_mem_nil, or_false] at hts
  omega

/-- The peer dates a message ahead of the clock: while the client runs the cursor is clamped, and
after the restart it is at that date. -/
theorem restart_cursor_passes_shutdown :
    ¬ ∀ (format : AttachmentFormat) (key : ChatKeyId) (localTradePubkey : PublicKey)
        (io : Nat → WriteResult) (msgs : List DecodedChatMessage) (t0 t1 : Int), 0 ≤ t0 → t0 ≤ t1 →
      SafeAfter t0 (startupSince
        ((applyUserOrderChatUpdate format key localTradePubkey io t0 {} msgs).messages.map
          (·.timestamp)) t1) := by
  intro h
  have hcursor := (h plainFormat (.order 1) "me" (fun _ => ⟨true, true⟩)
    [{ sender := "peer", content := "see you", timestamp := 5000, innerEventId := 1 }] 1000 6000
    (by decide) (by decide)).1 5000 (by decide)
  omega

end Mostrix.Chat
