import Mostrix.Library.KeyedList
import Mostrix.Library.Run
import Mostrix.Chat.Cursor
import Mostrix.Chat.Listener

/-!
# The tracked chats

`apply_chat_router_cmd` (`util/chat_listener.rs`): the chat router keeps its targets in a map from
the public key of the shared secret, and callers name a chat by its key id. A command
`TrackChatKey` looks the public key up and inserts under it; it does not look for another target of
the same key id. So a chat whose counterparty or solver changes has two targets from then on, and
events under the old secret are still its.

The module is about the tracked set alone, for any kind of key id (`Tracked`, `applyToTargets`);
`applyChatRouterCmd_targets` connects it to the listener, whose key ids are the user's chats.
`one_target_per_key` says which commands keep a chat under one secret: those that find no target of
the chat under another.
-/

namespace Mostrix.Chat

/-- `ChatKeyId` with the admin's chats, one for each party of a dispute. -/
inductive RouterKeyId
  | user (key : ChatKeyId)
  | dispute (disputeId : String) (party : ChatParty)
deriving DecidableEq, Repr

/-- `ChatTarget`, for any kind of key id. -/
structure Tracked (κ : Type) where
  keyId : κ
  /-- `shared_keys.public_key()`, the key of the map -/
  chatPubkey : PublicKey
  signPubkey : PublicKey
  localTradePubkey : Option PublicKey
  allowedSigners : List PublicKey
deriving DecidableEq, Repr

/-- `ChatRouterCmd`, for any kind of key id. -/
inductive RouterCmd (κ : Type)
  | trackChatKey (keyId : κ) (sharedKeyHex : String) (localTradePubkey : Option PublicKey)
      (allowedSigners : List PublicKey) (since : Option Int)
  | untrackChatKey (keyId : κ)
deriving DecidableEq, Repr

section
variable {κ : Type} [DecidableEq κ] (chatKeys : String → Option (PublicKey × PublicKey))

/-- `apply_chat_router_cmd`: the tracked set and `needs_resubscribe`. -/
def applyToTargets (targets : List (Tracked κ)) : RouterCmd κ → List (Tracked κ) × Bool
  | .trackChatKey keyId sharedKeyHex localTradePubkey allowedSigners _ =>
    if allowedSigners.isEmpty then (targets, false)
    else
      match chatKeys sharedKeyHex with
      | none => (targets, false)
      | some (chatPubkey, signPubkey) =>
        if targets.any fun t => t.chatPubkey = chatPubkey ∧ t.keyId = keyId then (targets, false)
        else
          ({ keyId, chatPubkey, signPubkey, localTradePubkey, allowedSigners } ::
            targets.filter (·.chatPubkey ≠ chatPubkey), true)
  | .untrackChatKey keyId =>
    (targets.filter (·.keyId ≠ keyId), targets.any (·.keyId = keyId))

/-- The tracked set after a command. -/
def nextTargets (targets : List (Tracked κ)) (cmd : RouterCmd κ) : List (Tracked κ) :=
  (applyToTargets chatKeys targets cmd).1

/-- `resolve_chat_target` on the tracked set. -/
def resolveTracked (targets : List (Tracked κ)) (event : ChatEvent) : Option (Tracked κ) :=
  if event.kind = giftWrap then
    event.pTags.head?.bind fun p => targets.find? (·.chatPubkey = p)
  else if event.kind = privateDirectMessage then
    targets.find? (·.signPubkey = event.pubkey)
  else none

/-! ## The listener's tracked set -/

/-- A target of the listener. -/
def ChatTarget.tracked (t : ChatTarget) : Tracked ChatKeyId where
  keyId := t.keyId
  chatPubkey := t.chatPubkey
  signPubkey := t.signPubkey
  localTradePubkey := t.localTradePubkey
  allowedSigners := t.allowedSigners

/-- A command of the listener. -/
def ChatRouterCmd.router : ChatRouterCmd → RouterCmd ChatKeyId
  | .trackChatKey keyId sharedKeyHex localTradePubkey allowedSigners since =>
    .trackChatKey keyId sharedKeyHex localTradePubkey allowedSigners since
  | .untrackChatKey keyId => .untrackChatKey keyId

omit [DecidableEq κ] in
/-- Filtering the listener's targets filters what they stand for. -/
theorem map_tracked_filter (p : Tracked ChatKeyId → Bool) (targets : List ChatTarget) :
    (targets.filter fun t => p t.tracked).map ChatTarget.tracked =
      (targets.map ChatTarget.tracked).filter p := by
  rw [List.filter_map]
  rfl

/-- The listener's targets after a command are the tracked set's. -/
theorem applyChatRouterCmd_targets (crypto : ChatCrypto) (now : Int) (s : ChatState)
    (cmd : ChatRouterCmd) :
    (applyChatRouterCmd crypto now s cmd).targets.map ChatTarget.tracked =
      nextTargets crypto.chatKeys (s.targets.map ChatTarget.tracked) cmd.router := by
  cases cmd with
  | trackChatKey keyId hex pk signers since =>
    simp only [applyChatRouterCmd, nextTargets, ChatRouterCmd.router, applyToTargets]
    split
    · rfl
    · cases crypto.chatKeys hex with
      | none => rfl
      | some keys =>
        simp only [List.any_map]
        split
        · next h => rw [if_pos (by exact h)]
        · next h =>
          rw [if_neg (by exact h)]
          exact congrArg _ (map_tracked_filter (fun t => decide (t.chatPubkey ≠ keys.1)) s.targets)
  | untrackChatKey keyId =>
    have hmap := map_tracked_filter (fun t => decide (t.keyId ≠ keyId)) s.targets
    simp only [applyChatRouterCmd, nextTargets, ChatRouterCmd.router, applyToTargets]
    split
    · exact hmap
    · next h =>
      rw [← hmap]
      refine congrArg _ (List.filter_eq_self.2 fun t ht => ?_).symm
      simp only [List.any_eq_true, decide_eq_true_eq, not_exists, not_and] at h
      exact decide_eq_true (h t ht)

/-! ## One target for a chat -/

variable {chatKeys} {targets : List (Tracked κ)}

/-- An event is addressed to the keys of a shared secret. -/
def AddressedTo (event : ChatEvent) (keys : PublicKey × PublicKey) : Prop :=
  (event.kind = giftWrap ∧ event.pTags.head? = some keys.1) ∨
    (event.kind = privateDirectMessage ∧ event.pubkey = keys.2)

/-- Every target of a chat is under a secret. -/
def OnlySecret (chatKeys : String → Option (PublicKey × PublicKey)) (targets : List (Tracked κ))
    (keyId : κ) (sharedKeyHex : String) : Prop :=
  ∀ t ∈ targets, t.keyId = keyId → chatKeys sharedKeyHex = some (t.chatPubkey, t.signPubkey)

/-- The chat a command tracks has no target under another secret than the command's. -/
def NoOtherSecret (chatKeys : String → Option (PublicKey × PublicKey))
    (targets : List (Tracked κ)) : RouterCmd κ → Prop
  | .trackChatKey keyId sharedKeyHex _ _ _ => OnlySecret chatKeys targets keyId sharedKeyHex
  | .untrackChatKey _ => True

/-- What is routed as a chat after it was tracked under a secret: it has a target, unless the
command was ignored, every target is under that secret, and so is every event routed to it. -/
structure TrackedUnder (chatKeys : String → Option (PublicKey × PublicKey))
    (targets : List (Tracked κ)) (keyId : κ) (sharedKeyHex : String)
    (allowedSigners : List PublicKey) : Prop where
  tracked : allowedSigners ≠ [] → chatKeys sharedKeyHex ≠ none → ∃ t ∈ targets, t.keyId = keyId
  only : OnlySecret chatKeys targets keyId sharedKeyHex
  routed : ∀ event t, resolveTracked targets event = some t → t.keyId = keyId →
    ∃ keys, chatKeys sharedKeyHex = some keys ∧ AddressedTo event keys

/-- A chat has one target after a command, and a track command's chat is under its secret. -/
def OneTarget (chatKeys : String → Option (PublicKey × PublicKey)) (targets : List (Tracked κ))
    (cmd : RouterCmd κ) : Prop :=
  KeyedList.Distinct Tracked.keyId (nextTargets chatKeys targets cmd) ∧
    match cmd with
    | .trackChatKey keyId sharedKeyHex _ allowedSigners _ =>
      TrackedUnder chatKeys (nextTargets chatKeys targets cmd) keyId sharedKeyHex allowedSigners
    | .untrackChatKey _ => True

omit [DecidableEq κ] in
/-- An event is routed to a target it is addressed to. -/
theorem resolveTracked_spec {event : ChatEvent} {t : Tracked κ}
    (h : resolveTracked targets event = some t) :
    t ∈ targets ∧ AddressedTo event (t.chatPubkey, t.signPubkey) := by
  unfold resolveTracked at h
  split at h
  · next hkind =>
    obtain ⟨p, hp, hfind⟩ := Option.bind_eq_some_iff.1 h
    have hkey : t.chatPubkey = p := by simpa using List.find?_some hfind
    exact ⟨List.mem_of_find?_eq_some hfind, .inl ⟨hkind, by rw [hp, hkey]⟩⟩
  · split at h
    · next hkind =>
      have hkey : t.signPubkey = event.pubkey := by simpa using List.find?_some h
      exact ⟨List.mem_of_find?_eq_some h, .inr ⟨hkind, hkey.symm⟩⟩
    · cases h

omit [DecidableEq κ] in
/-- Events are routed to a chat under the secret of its targets. -/
theorem OnlySecret.routed {keyId : κ} {hex : String} (h : OnlySecret chatKeys targets keyId hex)
    {event : ChatEvent} {t : Tracked κ} (hresolve : resolveTracked targets event = some t)
    (hkey : t.keyId = keyId) : ∃ keys, chatKeys hex = some keys ∧ AddressedTo event keys := by
  obtain ⟨hmem, haddr⟩ := resolveTracked_spec hresolve
  exact ⟨_, h t hmem hkey, haddr⟩

variable (chatKeys targets) in
/-- What a track command does: nothing, where it is ignored or finds its target, and otherwise it
puts the new target in the place of the one with its public key. -/
theorem nextTargets_track (keyId : κ) (hex : String) (pk : Option PublicKey)
    (signers : List PublicKey) (since : Option Int) :
    (nextTargets chatKeys targets (.trackChatKey keyId hex pk signers since) = targets ∧
      (signers ≠ [] → chatKeys hex ≠ none → ∃ t ∈ targets, t.keyId = keyId)) ∨
    ∃ keys new, chatKeys hex = some keys ∧ new.keyId = keyId ∧
      new.chatPubkey = keys.1 ∧ new.signPubkey = keys.2 ∧
      (∀ t ∈ targets, t.keyId = keyId → t.chatPubkey ≠ keys.1) ∧
      nextTargets chatKeys targets (.trackChatKey keyId hex pk signers since) =
        new :: targets.filter (·.chatPubkey ≠ keys.1) := by
  simp only [nextTargets, applyToTargets]
  split
  · next hempty => exact .inl ⟨rfl, fun h => absurd (List.isEmpty_iff.1 hempty) h⟩
  · cases hkeys : chatKeys hex with
    | none => exact .inl ⟨rfl, fun _ h => absurd rfl h⟩
    | some keys =>
      dsimp only
      split
      · next hany =>
        obtain ⟨t, ht, hk⟩ := List.any_eq_true.1 hany
        exact .inl ⟨rfl, fun _ _ => ⟨t, ht, (of_decide_eq_true hk).2⟩⟩
      · next hany =>
        refine .inr ⟨keys, _, rfl, rfl, rfl, rfl, fun t ht hk hpub => hany ?_, rfl⟩
        exact List.any_eq_true.2 ⟨t, ht, decide_eq_true ⟨hpub, hk⟩⟩

/-- A track command leaves its chat under its secret exactly when the chat had no target under
another. -/
theorem onlySecret_nextTargets_iff {keyId : κ} {hex : String} {pk : Option PublicKey}
    {signers : List PublicKey} {since : Option Int} :
    OnlySecret chatKeys
        (nextTargets chatKeys targets (.trackChatKey keyId hex pk signers since)) keyId hex ↔
      OnlySecret chatKeys targets keyId hex := by
  obtain ⟨hsame, -⟩ | ⟨keys, new, hkeys, hnew, hpub, hsign, hother, hnext⟩ :=
    nextTargets_track chatKeys targets keyId hex pk signers since
  · rw [hsame]
  · rw [hnext]
    refine ⟨?_, ?_⟩
    · intro h t ht hk
      have hkept : t ∈ targets.filter (·.chatPubkey ≠ keys.1) :=
        List.mem_filter.2 ⟨ht, decide_eq_true (hother t ht hk)⟩
      exact h t (List.mem_cons_of_mem _ hkept) hk
    · intro h t ht hk
      rcases List.mem_cons.1 ht with rfl | ht
      · rw [hkeys, hpub, hsign]
      · exact h t (List.mem_of_mem_filter ht) hk

/-- Commands that find no target of their chat under another secret keep one target for each. -/
theorem distinct_nextTargets {cmd : RouterCmd κ} (hd : KeyedList.Distinct Tracked.keyId targets)
    (hguard : NoOtherSecret chatKeys targets cmd) :
    KeyedList.Distinct Tracked.keyId (nextTargets chatKeys targets cmd) := by
  cases cmd with
  | untrackChatKey keyId => exact hd.sublist List.filter_sublist
  | trackChatKey keyId hex pk signers since =>
    obtain ⟨hsame, -⟩ | ⟨keys, new, hkeys, hnew, hpub, -, hother, hnext⟩ :=
      nextTargets_track chatKeys targets keyId hex pk signers since
    · rwa [hsame]
    · rw [hnext]
      refine List.pairwise_cons.2 ⟨fun t ht heq => ?_, hd.sublist List.filter_sublist⟩
      have hmem := List.mem_of_mem_filter ht
      have hk : t.keyId = keyId := heq.symm.trans hnew
      -- the guard puts a target of the chat under the new public key, where there is none
      have hkeys' := hguard t hmem hk
      rw [hkeys] at hkeys'
      exact hother t hmem hk (congrArg Prod.fst (Option.some.inj hkeys')).symm

/-- A command leaves its chat one target under its secret exactly when it finds none under
another. -/
theorem noOtherSecret_iff (hd : KeyedList.Distinct Tracked.keyId targets) (cmd : RouterCmd κ) :
    NoOtherSecret chatKeys targets cmd ↔ OneTarget chatKeys targets cmd := by
  cases cmd with
  | untrackChatKey keyId => exact ⟨fun h => ⟨distinct_nextTargets hd h, trivial⟩, fun _ => trivial⟩
  | trackChatKey keyId hex pk signers since =>
    refine ⟨?_, fun h => onlySecret_nextTargets_iff.1 h.2.only⟩
    intro h
    have honly : OnlySecret chatKeys
        (nextTargets chatKeys targets (.trackChatKey keyId hex pk signers since)) keyId hex :=
      onlySecret_nextTargets_iff.2 h
    refine ⟨distinct_nextTargets hd h, ?_, honly, fun _ _ => honly.routed⟩
    obtain ⟨hsame, htracked⟩ | ⟨keys, new, -, hnew, -, -, -, hnext⟩ :=
      nextTargets_track chatKeys targets keyId hex pk signers since
    · rwa [hsame]
    · rw [hnext]
      exact fun _ _ => ⟨new, List.mem_cons_self, hnew⟩

/-- In a run of commands every chat has one target, under the secret it was last tracked with,
exactly when no command finds a target of its chat under another secret. -/
theorem one_target_per_key (chatKeys : String → Option (PublicKey × PublicKey))
    (cmds : List (RouterCmd κ)) :
    Run.Guarded (nextTargets chatKeys) (NoOtherSecret chatKeys) [] cmds ↔
      ∀ before cmd after, cmds = before ++ cmd :: after →
        OneTarget chatKeys (before.foldl (nextTargets chatKeys) []) cmd :=
  Run.Guarded.iff_steps (I := KeyedList.Distinct Tracked.keyId)
    (fun _ _ hguard hd => distinct_nextTargets hd hguard)
    (fun _ cmd hd => noOtherSecret_iff hd cmd) List.Pairwise.nil cmds

end

/-- A chat whose counterparty changes is tracked under the second secret beside the first, and an
event under the first is still routed to it. -/
theorem rotated_secret_keeps_old_target :
    let chatKeys : String → Option (PublicKey × PublicKey) := fun hex => some (hex, hex)
    let order : RouterKeyId := .user (.order 1)
    let first : RouterCmd RouterKeyId := .trackChatKey order "aa" (some "me") ["me", "peer"] none
    let second : RouterCmd RouterKeyId := .trackChatKey order "bb" (some "me") ["me", "taker"] none
    let old : ChatEvent := { id := 1, kind := privateDirectMessage, pubkey := "aa", content := "" }
    ¬ OneTarget chatKeys ([first].foldl (nextTargets chatKeys) []) second ∧
      (resolveTracked ([first, second].foldl (nextTargets chatKeys) []) old).map (·.keyId) =
        some order := by
  intro chatKeys order first second old
  refine ⟨fun h => ?_, rfl⟩
  have hnodup := KeyedList.distinct_iff_nodup.1 h.1
  revert hnodup
  decide

end Mostrix.Chat
