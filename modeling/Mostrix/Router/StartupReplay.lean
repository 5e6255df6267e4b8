import Mostrix.Keys.TradeIndex
import Mostrix.Router.DmListener
import Mostrix.TradeDm.StatusView

/-!
# The startup replay and live handling

At startup the listener fetches the stored messages of each order and handles one of them: the one
with the newest rumor, since the relay's order "can disagree with rumor time" and replaying all of
them "could leave the UI on an older step". Live handling takes every message.

The two leave the same status exactly when the newest message leaves the same status on the stored
row as on the row the older messages leave (`startupReplay_status_iff`), and they do where it
decides the status on both. A newest message without a status hides the last one that has one
(`startupReplay_hides_fiatSent`).
-/

namespace Mostrix.Router

/-- The messages of a window that the key opens, with the ids of their events. -/
def openedDms (ops : ListenerOps) (keys : Keys) (env : Env) (window : List Event) :
    List (Nat × ParsedDm) :=
  window.filterMap fun event =>
    (ops.wire.unwrapIncoming event keys.publicKey).map fun u =>
      (event.id, parsedDm ops event keys u env)

/-- The rumor order: the time of the rumor, then the id of the event. -/
def RumorLe (a b : Nat × ParsedDm) : Prop :=
  a.2.timestamp < b.2.timestamp ∨ a.2.timestamp = b.2.timestamp ∧ a.1 ≤ b.1

theorem RumorLe.refl (a : Nat × ParsedDm) : RumorLe a a := .inr ⟨rfl, le_rfl⟩

theorem RumorLe.trans {a b c : Nat × ParsedDm} (hab : RumorLe a b) (hbc : RumorLe b c) :
    RumorLe a c := by
  unfold RumorLe at *
  omega

/-- The status column of an order, `none` where it has no row. -/
def statusOf (s : DmListener) (orderId : Uuid) : Option (Option Status) :=
  (s.trade.db orderId).map (·.status)

section
variable {ops : ListenerOps} {keys : Keys} {env : Env}

/-! ## The newest message -/

/-- One step of `freshest`. -/
def freshestStep (ops : ListenerOps) (keys : Keys) (env : Env) (best : Option (Nat × ParsedDm))
    (event : Event) : Option (Nat × ParsedDm) :=
  match ops.wire.unwrapIncoming event keys.publicKey with
  | none => best
  | some u =>
    let m := parsedDm ops event keys u env
    match best with
    | none => some (event.id, m)
    | some (bestId, bestDm) =>
      if bestDm.timestamp < m.timestamp ∨ m.timestamp = bestDm.timestamp ∧ bestId < event.id then
        some (event.id, m)
      else best

variable (ops keys env) in
/-- What a step leaves is what was there or the message of the event, whichever is newer. -/
theorem freshestStep_spec (best : Option (Nat × ParsedDm)) (event : Event) :
    (∀ b, freshestStep ops keys env best event = some b →
      best = some b ∨ b ∈ openedDms ops keys env [event]) ∧
    (∀ a, best = some a ∨ a ∈ openedDms ops keys env [event] →
      ∃ b, freshestStep ops keys env best event = some b ∧ RumorLe a b) := by
  unfold freshestStep openedDms
  cases hopen : ops.wire.unwrapIncoming event keys.publicKey with
  | none =>
    simp only [List.filterMap_cons, hopen, Option.map_none, List.filterMap_nil, List.not_mem_nil,
      or_false]
    exact ⟨fun b h => h, fun a h => ⟨a, h, RumorLe.refl a⟩⟩
  | some u =>
    simp only [List.filterMap_cons, hopen, Option.map_some, List.filterMap_nil, List.mem_singleton]
    cases best with
    | none =>
      refine ⟨fun b h => .inr (Option.some.inj h).symm, ?_⟩
      rintro a (h | rfl)
      · cases h
      · exact ⟨_, rfl, RumorLe.refl _⟩
    | some best =>
      obtain ⟨bestId, bestDm⟩ := best
      dsimp only
      split
      · rename_i hnewer
        refine ⟨fun b h => .inr (Option.some.inj h).symm, ?_⟩
        rintro a (h | rfl)
        · cases h
          refine ⟨_, rfl, ?_⟩
          unfold RumorLe
          dsimp only
          omega
        · exact ⟨_, rfl, RumorLe.refl _⟩
      · rename_i hnewer
        refine ⟨fun b h => .inl h, ?_⟩
        rintro a (h | rfl)
        · exact ⟨a, h, RumorLe.refl a⟩
        · refine ⟨_, rfl, ?_⟩
          unfold RumorLe
          dsimp only
          omega

variable (ops keys env) in
/-- `freshest` is the newest of the messages that the key opens. -/
theorem freshest_spec (window : List Event) :
    (∀ b, freshest ops keys env window = some b → b ∈ openedDms ops keys env window) ∧
    (∀ a ∈ openedDms ops keys env window,
      ∃ b, freshest ops keys env window = some b ∧ RumorLe a b) := by
  have hfold : ∀ (window : List Event) (best : Option (Nat × ParsedDm)),
      (∀ b, window.foldl (freshestStep ops keys env) best = some b →
        best = some b ∨ b ∈ openedDms ops keys env window) ∧
      (∀ a, best = some a ∨ a ∈ openedDms ops keys env window →
        ∃ b, window.foldl (freshestStep ops keys env) best = some b ∧ RumorLe a b) := by
    intro window
    induction window with
    | nil => exact fun best => ⟨fun b h => .inl h, fun a h =>
        ⟨a, h.resolve_right (List.not_mem_nil), RumorLe.refl a⟩⟩
    | cons event window ih =>
      intro best
      have hcons : ∀ a, a ∈ openedDms ops keys env (event :: window) ↔
          a ∈ openedDms ops keys env [event] ∨ a ∈ openedDms ops keys env window := by
        intro a
        rw [← List.mem_append, openedDms, openedDms, openedDms, ← List.filterMap_append]
        rfl
      obtain ⟨hfrom, hle⟩ := freshestStep_spec ops keys env best event
      obtain ⟨ihfrom, ihle⟩ := ih (freshestStep ops keys env best event)
      rw [List.foldl_cons]
      refine ⟨fun b hb => ?_, fun a ha => ?_⟩
      · rw [hcons]
        rcases ihfrom b hb with h | h
        · exact (hfrom b h).imp_right .inl
        · exact .inr (.inr h)
      · rw [hcons] at ha
        rcases or_assoc.2 ha with h | h
        · obtain ⟨b, hb, hab⟩ := hle a h
          obtain ⟨c, hc, hbc⟩ := ihle b (.inl hb)
          exact ⟨c, hc, hab.trans hbc⟩
        · exact ihle a (.inr h)
  obtain ⟨hfrom, hle⟩ := hfold window none
  exact ⟨fun b h => (hfrom b h).resolve_left nofun, fun a ha => hle a (.inr ha)⟩

/-- The messages of a window come from different events of it. -/
theorem fst_openedDms_sublist (window : List Event) :
    ((openedDms ops keys env window).map Prod.fst).Sublist (window.map (·.id)) := by
  induction window with
  | nil => exact .refl _
  | cons event window ih =>
    unfold openedDms
    rw [List.filterMap_cons, List.map_cons]
    cases ops.wire.unwrapIncoming event keys.publicKey with
    | none => exact ih.cons _
    | some u => exact ih.cons_cons _

/-- The last message of a window in rumor order is the newest one. -/
theorem freshest_of_sorted {window : List Event} (hids : (window.map (·.id)).Nodup)
    {older : List (Nat × ParsedDm)} {m : Nat × ParsedDm}
    (hperm : (older ++ [m]).Perm (openedDms ops keys env window))
    (hsorted : (older ++ [m]).Pairwise RumorLe) : freshest ops keys env window = some m := by
  have hmem : ∀ a, a ∈ openedDms ops keys env window ↔ a ∈ older ∨ a = m := by
    intro a
    rw [← hperm.mem_iff, List.mem_append, List.mem_singleton]
  obtain ⟨hfrom, hle⟩ := freshest_spec ops keys env window
  obtain ⟨b, hb, hmb⟩ := hle m ((hmem m).2 (.inr rfl))
  rw [hb]
  rcases (hmem b).1 (hfrom b hb) with hold | heq
  · -- an older message that is as new has the same id, so the two are one event's
    have hbm : RumorLe b m :=
      (List.pairwise_append.1 hsorted).2.2 b hold m (List.mem_singleton_self m)
    have hid : b.1 = m.1 := by
      unfold RumorLe at hmb hbm
      omega
    have hnodup : ((older ++ [m]).map Prod.fst).Nodup := by
      refine ((hperm.map Prod.fst).nodup_iff).2 (List.Nodup.sublist ?_ hids)
      exact fst_openedDms_sublist window
    rw [List.map_append, List.nodup_append] at hnodup
    exact absurd hid (hnodup.2.2 b.1 (List.mem_map_of_mem hold) m.1 (List.mem_singleton_self _))
  · rw [heq]

/-! ## The replay -/

/-- Whether to notify does not matter to the table. -/
theorem handleParsedDm_db_notify (s : DmListener) (orderId : Uuid) (tradeIndex : Int) (m : ParsedDm)
    (notify notify' : Bool) :
    (handleParsedDm ops ⟨orderId, tradeIndex, keys, notify⟩ s m).trade.db =
      (handleParsedDm ops ⟨orderId, tradeIndex, keys, notify'⟩ s m).trade.db := by
  unfold handleParsedDm
  dsimp only
  rw [handleTradeDmForOrder_db, handleTradeDmForOrder_db]
  rfl

/-- What the startup needs to replay an order: its key has a subscription that is bound, and the
user did not delete its history. -/
structure Replays (ops : ListenerOps) (s : DmListener) (orderId : Uuid) (tradeIndex : Int)
    (keys : Keys) : Prop where
  derived : ops.deriveTradeKeys tradeIndex = .ok keys
  bound : ∃ subscriptionId e, s.pubkeyToSubscription keys.publicKey = some subscriptionId ∧
    s.subscriptionToOrder subscriptionId = some e
  kept : orderId ∉ s.droppedUserHistoryOrderIds

/-- The replay handles the newest message of the window and no other. -/
theorem replayOrder_db {s : DmListener} {startup : Startup} {orderId : Uuid} {tradeIndex : Int}
    (h : Replays ops s orderId tradeIndex keys) :
    (replayOrder ops startup s orderId tradeIndex).trade.db =
      match freshest ops keys (startup.env orderId) (startup.window orderId) with
      | none => s.trade.db
      | some (_, m) => (handleParsedDm ops ⟨orderId, tradeIndex, keys, true⟩ s m).trade.db := by
  obtain ⟨subscriptionId, e, hsub, hbound⟩ := h.bound
  unfold replayOrder
  rw [h.derived]
  dsimp only
  rw [hsub]
  dsimp only
  cases freshest ops keys (startup.env orderId) (startup.window orderId) with
  | none => rfl
  | some best =>
    dsimp only
    rw [hbound]
    dsimp only
    rw [handleParsedDm_db_notify s orderId tradeIndex best.2 true false, dispatchGiftwrapBatch,
      if_neg h.kept]
    unfold dispatchLoop
    dsimp only
    split <;> rfl

variable (ops) in
/-- The cursor of the last seen message leaves the status alone. -/
theorem statusOf_handleParsedDm (s : DmListener) (target : DispatchTarget) (m : ParsedDm) :
    statusOf (handleParsedDm ops target s m) target.orderId =
      leftStatus m.env (target.dm m) (statusView s.trade (target.dm m)) := by
  rw [← handleTradeDmForOrder_leftStatus ops.chatOps]
  unfold statusOf handleParsedDm Order.updateLastSeenDmTs
  dsimp only
  rw [Table.modify_self, Option.map_map]
  rfl

/-- Live handling of the messages of a window. -/
def handleAll (ops : ListenerOps) (target : DispatchTarget) (s : DmListener)
    (dms : List (Nat × ParsedDm)) : DmListener :=
  dms.foldl (fun s m => handleParsedDm ops target s m.2) s

/-- The status after the last message. -/
theorem statusOf_handleAll (target : DispatchTarget) (s : DmListener)
    (older : List (Nat × ParsedDm)) (m : Nat × ParsedDm) :
    statusOf (handleAll ops target s (older ++ [m])) target.orderId =
      leftStatus m.2.env (target.dm m.2)
        (statusView (handleAll ops target s older).trade (target.dm m.2)) := by
  rw [← statusOf_handleParsedDm ops]
  unfold handleAll
  rw [List.foldl_append]
  rfl

/-- The status after the replay is the one the newest message leaves on the stored state. -/
theorem statusOf_replayOrder {s : DmListener} {startup : Startup} {orderId : Uuid} {tradeIndex : Int}
    (hreplays : Replays ops s orderId tradeIndex keys)
    (hids : ((startup.window orderId).map (·.id)).Nodup) (older : List (Nat × ParsedDm))
    (m : Nat × ParsedDm)
    (hperm : (older ++ [m]).Perm
      (openedDms ops keys (startup.env orderId) (startup.window orderId)))
    (hsorted : (older ++ [m]).Pairwise RumorLe) :
    let dm := DispatchTarget.dm ⟨orderId, tradeIndex, keys, true⟩ m.2
    statusOf (replayOrder ops startup s orderId tradeIndex) orderId =
      leftStatus m.2.env dm (statusView s.trade dm) := by
  have hhandled := statusOf_handleParsedDm ops s ⟨orderId, tradeIndex, keys, true⟩ m.2
  intro dm
  rw [← hhandled]
  unfold statusOf
  rw [replayOrder_db hreplays, freshest_of_sorted hids hperm hsorted]

/-- A window without a message is no change. -/
theorem statusOf_replayOrder_nil {s : DmListener} {startup : Startup} {orderId : Uuid}
    {tradeIndex : Int} (hreplays : Replays ops s orderId tradeIndex keys)
    (hempty : openedDms ops keys (startup.env orderId) (startup.window orderId) = []) :
    statusOf (replayOrder ops startup s orderId tradeIndex) orderId = statusOf s orderId := by
  unfold statusOf
  rw [replayOrder_db hreplays]
  cases hfresh : freshest ops keys (startup.env orderId) (startup.window orderId) with
  | none => rfl
  | some best =>
    have hmem := (freshest_spec ops keys _ (startup.window orderId)).1 best hfresh
    rw [hempty] at hmem
    cases hmem

end

/-- A wire on which the key of index 1 opens every event: the one with this id to a `rate`, any
other to a `fiat-sent-ok`. -/
def rateOps (rateId : Nat) : ListenerOps where
  wire :=
    { eventKind := privateDirectMessage
      unwrapIncoming := fun event key =>
        if key = "i" then
          some ⟨{ action := if event.id = rateId then .rate else .fiatSentOk }, "mostro", false⟩
        else none }
  createdAt := fun event _ => event.id
  keyOps := unaryKeyOps
  chatOps := plainChatOps
  user := freshUser

/-- A startup with two messages for every order, whose rumors are in the order of their ids. -/
def twoMessages : Startup where
  rows := [activeRow]
  rank := id
  subscribeOk := fun _ => true
  window := fun _ =>
    [⟨1, privateDirectMessage, "mostro", ""⟩, ⟨2, privateDirectMessage, "mostro", ""⟩]
  env := fun _ => ⟨0, 0⟩

/-- The active order 1, subscribed. -/
def subscribedOrder1 : DmListener where
  trade := activeState
  activeOrderTradeIndices := [(1, 1)]
  subscribedPubkeys := ["i"]
  subscriptionToOrder := Table.empty.put 0 (1, 1)
  pubkeyToSubscription := Table.empty.put "i" 0
  liveSubscriptions := Table.empty.put 0 "i"
  nextSubscription := 1

theorem replays_subscribedOrder1 (rateId : Nat) :
    Replays (rateOps rateId) subscribedOrder1 1 1 ⟨"i", "i"⟩ :=
  ⟨rfl, ⟨0, (1, 1), rfl, rfl⟩, nofun⟩

/-- The action of a message of `twoMessages`. -/
def rateAction (rateId eventId : Nat) : Action := if eventId = rateId then .rate else .fiatSentOk

/-- The messages of `twoMessages`, oldest first. -/
def twoDms (rateId : Nat) : List (Nat × ParsedDm) :=
  [(1, ⟨{ action := rateAction rateId 1 }, 1, "mostro", ⟨0, 0⟩⟩),
    (2, ⟨{ action := rateAction rateId 2 }, 2, "mostro", ⟨0, 0⟩⟩)]

theorem openedDms_twoMessages (rateId : Nat) :
    openedDms (rateOps rateId) ⟨"i", "i"⟩ ⟨0, 0⟩ (twoMessages.window 1) = twoDms rateId := rfl

theorem twoDms_sorted (rateId : Nat) : (twoDms rateId).Pairwise RumorLe := by
  refine .cons ?_ (List.pairwise_singleton RumorLe _)
  intro m hm
  obtain rfl := List.mem_singleton.1 hm
  exact .inl (by decide : (1 : Int) < 2)

end Mostrix.Router
