import Mostrix.Library.Run
import Mostrix.Router.DmListener

/-!
# A pending waiter's key is subscribed

A waiter and a tracked order can have one trade key and then share its subscription, and the end of
the order tears that subscription down. What protects the waiter is the order of an event's two
paths: the waiters go first, so a message that ends the order has already answered every waiter
whose key opens it, and no waiter with that key is left.

The exception is an echo of the client's own request, which no waiter takes for an answer
(`is_own_signed_v2_outbound`) and which the tracked path handles like any other message. As long as
no such echo ends an order, every open waiter has its key subscribed (`waiters_subscribed`).
-/

namespace Mostrix.Router

/-- What a pending waiter relies on: unless its receiver is gone, its key is subscribed, under a
subscription the client has. -/
def WaitersLive (s : DmListener) : Prop :=
  ∀ w ∈ s.pendingWaiters, w.responseTx ∉ s.closedWaiters →
    w.tradeKey ∈ s.subscribedPubkeys ∧
      ∃ subscriptionId, s.pubkeyToSubscription w.tradeKey = some subscriptionId ∧
        s.liveSubscriptions subscriptionId = some w.tradeKey

/-- The key of a trade index. -/
def IsKeyOf (ops : ListenerOps) (tradeIndex : Int) (key : PublicKey) : Prop :=
  ∃ keys, ops.deriveTradeKeys tradeIndex = .ok keys ∧ keys.publicKey = key

/-- How the listener's tables agree. -/
structure TablesAgree (ops : ListenerOps) (s : DmListener) : Prop where
  /-- A subscribed key has a subscription. -/
  live : ∀ key ∈ s.subscribedPubkeys, ∃ subscriptionId,
    s.pubkeyToSubscription key = some subscriptionId ∧
      s.liveSubscriptions subscriptionId = some key
  /-- A subscription remembered for a key is that key's, if the client still has it. -/
  owner : ∀ key subscriptionId, s.pubkeyToSubscription key = some subscriptionId →
    subscriptionId < s.nextSubscription ∧
      ∀ key', s.liveSubscriptions subscriptionId = some key' → key' = key
  /-- A subscription bound to an order is for the key of the order's index. -/
  bound : ∀ subscriptionId orderId tradeIndex,
    s.subscriptionToOrder subscriptionId = some (orderId, tradeIndex) →
      subscriptionId < s.nextSubscription ∧
        ∀ key, s.liveSubscriptions subscriptionId = some key → IsKeyOf ops tradeIndex key
  /-- The ids not drawn yet are not in use. -/
  fresh : ∀ subscriptionId, s.nextSubscription ≤ subscriptionId →
    s.liveSubscriptions subscriptionId = none
  /-- An open waiter's key is subscribed. -/
  waiters : ∀ w ∈ s.pendingWaiters, w.responseTx ∉ s.closedWaiters →
    w.tradeKey ∈ s.subscribedPubkeys

section
variable {ops : ListenerOps} {s : DmListener}

/-- Tables that agree give every open waiter its subscription. -/
theorem TablesAgree.waitersLive (h : TablesAgree ops s) : WaitersLive s := fun w hw hopen =>
  ⟨h.waiters w hw hopen, h.live w.tradeKey (h.waiters w hw hopen)⟩

/-- Fewer waiters need less. -/
theorem TablesAgree.filterWaiters (h : TablesAgree ops s) (p : PendingDmWaiter → Bool) :
    TablesAgree ops { s with pendingWaiters := s.pendingWaiters.filter p } :=
  ⟨h.live, h.owner, h.bound, h.fresh, fun w hw => h.waiters w (List.mem_of_mem_filter hw)⟩

theorem TablesAgree.pruneClosed (h : TablesAgree ops s) : TablesAgree ops (pruneClosed s) :=
  h.filterWaiters _

theorem TablesAgree.drainWaiters (h : TablesAgree ops s) (event : Event) :
    TablesAgree ops (drainWaiters ops s event) :=
  h.filterWaiters _

/-! ## Subscribing -/

theorem mem_insertKey {keys : List PublicKey} {key key' : PublicKey} :
    key' ∈ insertKey keys key ↔ key' = key ∨ key' ∈ keys := by
  unfold insertKey
  split
  · rename_i hmem
    refine ⟨.inr, ?_⟩
    rintro (rfl | h)
    · exact hmem
    · exact h
  · rw [List.mem_cons]

/-- A new subscription of a key, bound to an order of that key or to none. -/
theorem TablesAgree.subscribe (h : TablesAgree ops s) (key : PublicKey)
    {subscriptionToOrder : Table SubscriptionId (Uuid × Int)}
    (hbound : subscriptionToOrder = s.subscriptionToOrder ∨ ∃ orderId tradeIndex,
      IsKeyOf ops tradeIndex key ∧
        subscriptionToOrder = s.subscriptionToOrder.put s.nextSubscription (orderId, tradeIndex)) :
    TablesAgree ops { subscribe s key with
      subscribedPubkeys := insertKey s.subscribedPubkeys key
      subscriptionToOrder := subscriptionToOrder } := by
  have hlt : ∀ {subscriptionId}, subscriptionId < s.nextSubscription →
      s.liveSubscriptions.put s.nextSubscription key subscriptionId =
        s.liveSubscriptions subscriptionId := fun hlt => Table.put_of_ne (Nat.ne_of_lt hlt)
  refine ⟨fun key' hkey' => ?_, fun key' id hid => ?_, fun id orderId tradeIndex hid => ?_,
    fun id hid => ?_, fun w hw hopen => mem_insertKey.2 (.inr (h.waiters w hw hopen))⟩
  · dsimp only [Router.subscribe] at *
    by_cases heq : key' = key
    · exact ⟨s.nextSubscription, by rw [heq, Table.put_self], by rw [heq, Table.put_self]⟩
    · obtain ⟨id, hid, hlive⟩ := h.live key' ((mem_insertKey.1 hkey').resolve_left heq)
      exact ⟨id, by rw [Table.put_of_ne heq, hid], by rw [hlt (h.owner key' id hid).1, hlive]⟩
  · dsimp only [Router.subscribe] at *
    by_cases heq : key' = key
    · rw [heq, Table.put_self] at hid
      obtain rfl := Option.some.inj hid
      refine ⟨Nat.lt_succ_self _, fun key'' hlive => ?_⟩
      rw [Table.put_self] at hlive
      rw [heq, ← Option.some.inj hlive]
    · rw [Table.put_of_ne heq] at hid
      obtain ⟨hid', howner⟩ := h.owner key' id hid
      rw [hlt hid']
      exact ⟨Nat.lt_succ_of_lt hid', howner⟩
  · dsimp only [Router.subscribe] at *
    have hold : s.subscriptionToOrder id = some (orderId, tradeIndex) →
        id < s.nextSubscription + 1 ∧
          ∀ key', s.liveSubscriptions.put s.nextSubscription key id = some key' →
            IsKeyOf ops tradeIndex key' := by
      intro hid
      obtain ⟨hid', hkey⟩ := h.bound id orderId tradeIndex hid
      rw [hlt hid']
      exact ⟨Nat.lt_succ_of_lt hid', hkey⟩
    rcases hbound with rfl | ⟨orderId', tradeIndex', hkey, rfl⟩
    · exact hold hid
    · by_cases heq : id = s.nextSubscription
      · rw [heq, Table.put_self] at hid
        cases hid
        refine ⟨heq ▸ Nat.lt_succ_self _, fun key' hlive => ?_⟩
        rw [heq, Table.put_self] at hlive
        exact Option.some.inj hlive ▸ hkey
      · rw [Table.put_of_ne heq] at hid
        exact hold hid
  · dsimp only [Router.subscribe] at *
    rw [Table.put_of_ne (Nat.ne_of_gt hid), h.fresh id (Nat.le_of_succ_le hid)]

/-- A key that agrees with the tables is subscribed or gets a subscription of its own; only a key
that is not subscribed is dropped again when the call fails. -/
theorem TablesAgree.ensureOrderDmSubscription (h : TablesAgree ops s) {key : PublicKey}
    {tradeIndex : Int} (hkey : IsKeyOf ops tradeIndex key) (orderId : Uuid) (subscribeOk : Bool) :
    TablesAgree ops (ensureOrderDmSubscription s key orderId tradeIndex subscribeOk) := by
  unfold Router.ensureOrderDmSubscription
  by_cases hmem : key ∈ s.subscribedPubkeys
  · obtain ⟨id, hid, hlive⟩ := h.live key hmem
    rw [if_pos hmem, hid]
    refine ⟨h.live, h.owner, fun id' orderId' tradeIndex' hid' => ?_, h.fresh, h.waiters⟩
    dsimp only at hid' ⊢
    by_cases heq : id' = id
    · rw [heq, Table.put_self] at hid'
      cases hid'
      refine ⟨heq ▸ (h.owner key id hid).1, fun key' hlive' => ?_⟩
      rw [heq, hlive] at hlive'
      exact Option.some.inj hlive' ▸ hkey
    · rw [Table.put_of_ne heq] at hid'
      exact h.bound id' orderId' tradeIndex' hid'
  · rw [if_neg hmem]
    dsimp only
    split
    · exact h.subscribe key (.inr ⟨orderId, tradeIndex, hkey, rfl⟩)
    · have hkeys : s.subscribedPubkeys.filter (fun k => k ≠ key) = s.subscribedPubkeys :=
        List.filter_eq_self.2 fun k hk => decide_eq_true fun heq => hmem (heq ▸ hk)
      rw [hkeys]
      refine ⟨fun key' hkey' => ?_, fun key' id hid => ?_, h.bound, h.fresh, h.waiters⟩
      · have hne : key' ≠ key := fun heq => hmem (heq ▸ hkey')
        dsimp only
        rw [Table.erase_of_ne hne]
        exact h.live key' hkey'
      · dsimp only at hid
        by_cases heq : key' = key
        · rw [heq, Table.erase_self] at hid
          cases hid
        · rw [Table.erase_of_ne heq] at hid
          exact h.owner key' id hid

theorem TablesAgree.addWaiter (h : TablesAgree ops s) (waiter : PendingDmWaiter)
    (subscribeOk : Bool) : TablesAgree ops (addWaiter s waiter subscribeOk) := by
  have hpruned := h.pruneClosed
  unfold Router.addWaiter
  generalize Router.pruneClosed s = s at hpruned
  dsimp only
  have happend : ∀ {t : DmListener}, TablesAgree ops t → waiter.tradeKey ∈ t.subscribedPubkeys →
      TablesAgree ops { t with pendingWaiters := t.pendingWaiters ++ [waiter] } := by
    intro t ht hkey
    refine ⟨ht.live, ht.owner, ht.bound, ht.fresh, fun w hw hopen => ?_⟩
    rcases List.mem_append.1 hw with hw | hw
    · exact ht.waiters w hw hopen
    · rw [List.mem_singleton.1 hw]
      exact hkey
  split
  · exact hpruned
  · split
    · rename_i hkey
      exact happend hpruned hkey
    · split
      · exact happend (hpruned.subscribe waiter.tradeKey (.inl rfl)) (mem_insertKey.2 (.inl rfl))
      · exact hpruned

/-! ## Cleaning up -/

/-- Forgetting an order whose key no open waiter has. -/
theorem TablesAgree.forgetOrder (h : TablesAgree ops s) {target : DispatchTarget}
    (hwaiters : ∀ w ∈ s.pendingWaiters, w.responseTx ∉ s.closedWaiters →
      ¬ IsKeyOf ops target.tradeIndex w.tradeKey) :
    TablesAgree ops (forgetOrder ops target s) := by
  unfold Router.forgetOrder
  cases hkeys : ops.deriveTradeKeys target.tradeIndex with
  | error e => exact ⟨h.live, h.owner, h.bound, h.fresh, h.waiters⟩
  | ok keys =>
    refine ⟨fun key hkey => h.live key (List.mem_of_mem_filter hkey), h.owner, h.bound, h.fresh,
      fun w hw hopen => List.mem_filter.2 ⟨h.waiters w hw hopen, decide_eq_true fun heq => ?_⟩⟩
    exact hwaiters w hw hopen ⟨keys, hkeys, heq.symm⟩

/-- Ending a subscription whose key is no longer subscribed. -/
theorem TablesAgree.unsubscribe (h : TablesAgree ops s) {subscriptionId : SubscriptionId}
    (hkey : ∀ key, s.liveSubscriptions subscriptionId = some key → key ∉ s.subscribedPubkeys) :
    TablesAgree ops (unsubscribe subscriptionId s) := by
  refine ⟨fun key hmem => ?_, fun key id hid => ?_, fun id orderId tradeIndex hid => ?_,
    fun id hid => ?_, h.waiters⟩
  · obtain ⟨id, hid, hlive⟩ := h.live key hmem
    have hne : id ≠ subscriptionId := by
      rintro rfl
      exact hkey key hlive hmem
    refine ⟨id, hid, ?_⟩
    dsimp only [Router.unsubscribe]
    rw [Table.erase_of_ne hne, hlive]
  · obtain ⟨hlt, howner⟩ := h.owner key id hid
    refine ⟨hlt, fun key' hlive => ?_⟩
    dsimp only [Router.unsubscribe] at hlive
    by_cases heq : id = subscriptionId
    · rw [heq, Table.erase_self] at hlive
      cases hlive
    · rw [Table.erase_of_ne heq] at hlive
      exact howner key' hlive
  · dsimp only [Router.unsubscribe] at *
    by_cases heq : id = subscriptionId
    · rw [heq, Table.erase_self] at hid
      cases hid
    · rw [Table.erase_of_ne heq] at hid ⊢
      exact h.bound id orderId tradeIndex hid
  · dsimp only [Router.unsubscribe] at *
    by_cases heq : id = subscriptionId
    · rw [heq, Table.erase_self]
    · rw [Table.erase_of_ne heq, h.fresh id hid]

/-- A batch, unless it ends an order whose key an open waiter has. The subscription it may end is
for the key of the order. -/
theorem TablesAgree.dispatchLoop {target : DispatchTarget} {policy : GiftWrapTerminalPolicy}
    {parsed : List ParsedDm} (h : TablesAgree ops s)
    (hsub : ∀ id, policy = .trackedSubscription id → ∀ key, s.liveSubscriptions id = some key →
      IsKeyOf ops target.tradeIndex key)
    (hwaiters : ∀ m ∈ parsed, tradeMessageIsTerminal m.message = true → ∀ w ∈ s.pendingWaiters,
      w.responseTx ∉ s.closedWaiters → ¬ IsKeyOf ops target.tradeIndex w.tradeKey) :
    TablesAgree ops (dispatchLoop ops target policy s parsed) := by
  induction parsed generalizing s with
  | nil => exact h
  | cons m ms ih =>
    obtain ⟨hm, hms⟩ := List.forall_mem_cons.1 hwaiters
    have hhandled : TablesAgree ops (handleParsedDm ops target s m) :=
      ⟨h.live, h.owner, h.bound, h.fresh, h.waiters⟩
    unfold Router.dispatchLoop
    dsimp only
    split
    · rename_i hterminal
      have hforgot := hhandled.forgetOrder (hm hterminal)
      cases policy with
      | trackedSubscription id =>
        refine hforgot.unsubscribe fun key hlive hmem => ?_
        obtain ⟨keys, hkeys, rfl⟩ := hsub id rfl key hlive
        simp [Router.forgetOrder, hkeys] at hmem
      | untrackedFallback =>
        exact ih hforgot (fun id hid => by cases hid) hms
    · exact ih hhandled hsub hms

theorem TablesAgree.dispatchGiftwrapBatch {target : DispatchTarget} {policy : GiftWrapTerminalPolicy}
    {parsed : List ParsedDm} (h : TablesAgree ops s)
    (hsub : ∀ id, policy = .trackedSubscription id → ∀ key, s.liveSubscriptions id = some key →
      IsKeyOf ops target.tradeIndex key)
    (hwaiters : ∀ m ∈ parsed, tradeMessageIsTerminal m.message = true → ∀ w ∈ s.pendingWaiters,
      w.responseTx ∉ s.closedWaiters → ¬ IsKeyOf ops target.tradeIndex w.tradeKey) :
    TablesAgree ops (dispatchGiftwrapBatch ops target policy s parsed) := by
  unfold Router.dispatchGiftwrapBatch
  split
  · exact h
  · exact h.dispatchLoop hsub hwaiters

/-! ## Relay events -/

/-- What the fallback path finds is an order of the list whose key opens the event. -/
theorem resolveOrderForEvent_spec {event : Event} {orders : List (Uuid × Int)} {orderId : Uuid}
    {tradeIndex : Int} {keys : Keys} {u : UnwrappedMessage}
    (h : resolveOrderForEvent ops event orders = some (orderId, tradeIndex, keys, u)) :
    (orderId, tradeIndex) ∈ orders ∧ ops.deriveTradeKeys tradeIndex = .ok keys ∧
      ops.wire.unwrapIncoming event keys.publicKey = some u := by
  induction orders with
  | nil => cases h
  | cons e rest ih =>
    unfold resolveOrderForEvent at h
    split at h
    · obtain ⟨hmem, hspec⟩ := ih h
      exact ⟨.tail _ hmem, hspec⟩
    · rename_i keys' hkeys
      split at h
      · rename_i u' hu
        cases h
        exact ⟨.head _, hkeys, hu⟩
      · obtain ⟨hmem, hspec⟩ := ih h
        exact ⟨.tail _ hmem, hspec⟩

/-- No event is an echo of the client's own request that ends an order, to a key that an open waiter
has. -/
def EchoOk (ops : ListenerOps) (s : DmListener) : ListenerEvent → Prop
  | .relayEvent _ event _ _ => ∀ w ∈ s.pendingWaiters, w.responseTx ∉ s.closedWaiters →
    ∀ u, ops.wire.unwrapIncoming event w.tradeKey = some u →
      isOwnSignedV2Outbound event w.tradeKey u = true → tradeMessageIsTerminal u.message = false
  | _ => True

/-- A waiter that is left by an event that its key opens was left for an echo. -/
theorem isOwnSignedV2Outbound_of_left {event : Event} (hkind : event.kind = ops.wire.eventKind)
    {w : PendingDmWaiter} (hw : w ∈ (drainWaiters ops s event).pendingWaiters)
    {u : UnwrappedMessage} (hu : ops.wire.unwrapIncoming event w.tradeKey = some u) :
    isOwnSignedV2Outbound event w.tradeKey u = true := by
  have hnone := (List.mem_filter.1 hw).2
  rw [Bool.and_eq_true, Option.isNone_iff_eq_none, deliverable, if_pos hkind, hu] at hnone
  simpa [Option.filter_some] using hnone.2

/-- An event that is no ending echo leaves no open waiter with the key of an order it ends. -/
theorem TablesAgree.handleEvent (h : TablesAgree ops s) {subscriptionId : SubscriptionId}
    {event : Event} {rank : Uuid → Nat} {env : Env}
    (hecho : EchoOk ops s (.relayEvent subscriptionId event rank env)) :
    TablesAgree ops (handleEvent ops s subscriptionId event rank env) := by
  unfold Router.handleEvent
  split
  · exact h
  rename_i hkind
  have hdrained := h.drainWaiters event
  have hwaiters : ∀ {tradeIndex : Int} {keys : Keys} {u : UnwrappedMessage},
      ops.deriveTradeKeys tradeIndex = .ok keys →
      ops.wire.unwrapIncoming event keys.publicKey = some u →
      ∀ m ∈ [parsedDm ops event keys u env], tradeMessageIsTerminal m.message = true →
        ∀ w ∈ (Router.drainWaiters ops s event).pendingWaiters, w.responseTx ∉ s.closedWaiters →
          ¬ IsKeyOf ops tradeIndex w.tradeKey := by
    intro tradeIndex keys u hkeys hu m hm hterminal w hw hopen hkey
    obtain ⟨keys', hkeys', hwkey⟩ := hkey
    obtain rfl := Except.ok.inj (hkeys.symm.trans hkeys')
    rw [hwkey] at hu
    have hown := isOwnSignedV2Outbound_of_left (not_not.1 hkind) hw hu
    have hlive := hecho w (List.mem_of_mem_filter hw) hopen u hu hown
    obtain rfl := List.mem_singleton.1 hm
    rw [parsedDm, hlive] at hterminal
    cases hterminal
  unfold routeEvent
  split
  · rename_i orderId tradeIndex hbound
    split
    · exact hdrained
    · rename_i keys hkeys
      split
      · exact hdrained
      · rename_i u hu
        refine hdrained.dispatchGiftwrapBatch (fun id hid key hlive => ?_) (hwaiters hkeys hu)
        cases hid
        exact (hdrained.bound _ _ _ hbound).2 key hlive
  · split
    · exact hdrained
    · rename_i orderId tradeIndex keys u hresolved
      obtain ⟨-, hkeys, hu⟩ := resolveOrderForEvent_spec hresolved
      exact hdrained.dispatchGiftwrapBatch (fun id hid => by cases hid) (hwaiters hkeys hu)

/-! ## Startup -/

/-- Tables that agree, before the first waiter. -/
def Started (ops : ListenerOps) (s : DmListener) : Prop :=
  TablesAgree ops s ∧ s.pendingWaiters = []

theorem started_hydrated (s : DmListener) (startup : Startup) :
    Started ops (hydrated s startup) := by
  refine ⟨⟨?_, ?_, ?_, ?_, ?_⟩, rfl⟩ <;> simp [hydrated]

/-- Subscribing adds no waiter. -/
theorem pendingWaiters_ensureOrderDmSubscription (s : DmListener) (key : PublicKey) (orderId : Uuid)
    (tradeIndex : Int) (subscribeOk : Bool) :
    (ensureOrderDmSubscription s key orderId tradeIndex subscribeOk).pendingWaiters =
      s.pendingWaiters := by
  unfold ensureOrderDmSubscription
  split
  · rfl
  · split <;> rfl

theorem pendingWaiters_dispatchLoop (target : DispatchTarget) (policy : GiftWrapTerminalPolicy)
    (parsed : List ParsedDm) (s : DmListener) :
    (dispatchLoop ops target policy s parsed).pendingWaiters = s.pendingWaiters := by
  induction parsed generalizing s with
  | nil => rfl
  | cons m ms ih =>
    unfold dispatchLoop
    dsimp only
    split
    · cases policy with
      | trackedSubscription id => rfl
      | untrackedFallback => exact ih _
    · exact ih _

theorem pendingWaiters_dispatchGiftwrapBatch (target : DispatchTarget)
    (policy : GiftWrapTerminalPolicy) (parsed : List ParsedDm) (s : DmListener) :
    (dispatchGiftwrapBatch ops target policy s parsed).pendingWaiters = s.pendingWaiters := by
  unfold dispatchGiftwrapBatch
  split
  · rfl
  · exact pendingWaiters_dispatchLoop target policy parsed s

theorem Started.bootstrapOrder (h : Started ops s) (startup : Startup) (orderId : Uuid)
    (tradeIndex : Int) : Started ops (bootstrapOrder ops startup s orderId tradeIndex) := by
  unfold Router.bootstrapOrder
  split
  · exact h
  · rename_i keys hkeys
    refine ⟨h.1.ensureOrderDmSubscription ⟨keys, hkeys, rfl⟩ _ _, ?_⟩
    rw [pendingWaiters_ensureOrderDmSubscription, h.2]

theorem Started.replayOrder (h : Started ops s) (startup : Startup) (orderId : Uuid)
    (tradeIndex : Int) : Started ops (replayOrder ops startup s orderId tradeIndex) := by
  unfold Router.replayOrder
  split
  · exact h
  rename_i keys hkeys
  split
  · exact h
  rename_i id hid
  split
  · exact h
  split
  · exact h
  refine ⟨h.1.dispatchGiftwrapBatch (fun id' hid' key hlive => ?_) fun m _ _ w hw => ?_, ?_⟩
  · cases hid'
    exact ⟨keys, hkeys, ((h.1.owner _ _ hid).2 key hlive).symm⟩
  · rw [h.2] at hw
    cases hw
  · rw [pendingWaiters_dispatchGiftwrapBatch, h.2]

theorem Started.foldl {f : DmListener → Uuid → Int → DmListener}
    (hf : ∀ {s} orderId tradeIndex, Started ops s → Started ops (f s orderId tradeIndex))
    (orders : List (Uuid × Int)) (h : Started ops s) :
    Started ops (orders.foldl (fun s e => f s e.1 e.2) s) :=
  Run.invariant (I := Started ops) (fun _ e ht => hf e.1 e.2 ht) orders h

/-- A startup makes the tables agree, whatever it finds. -/
theorem tablesAgree_startListener (s : DmListener) (startup : Startup) :
    TablesAgree ops (startListener ops s startup) := by
  let orders := iterate startup.rank (hydrateStartupActiveOrders startup.rows)
  have hstart : Started ops (hydrated s startup) := started_hydrated s startup
  have hboot := hstart.foldl (fun orderId tradeIndex h => h.bootstrapOrder startup orderId tradeIndex)
    orders
  exact (hboot.foldl (fun orderId tradeIndex h => h.replayOrder startup orderId tradeIndex) orders).1

/-! ## Runs -/

/-- The shared map and the deleted histories are not among the tables. -/
theorem TablesAgree.ofShared (h : TablesAgree ops s) (active : List (Uuid × Int))
    (dropped : List Uuid) : TablesAgree ops { s with
      activeOrderTradeIndices := active, droppedUserHistoryOrderIds := dropped } :=
  ⟨h.live, h.owner, h.bound, h.fresh, h.waiters⟩

theorem TablesAgree.trackOrder (h : TablesAgree ops s) (orderId : Uuid) (tradeIndex : Int)
    (subscribeOk : Bool) : TablesAgree ops (trackOrder ops s orderId tradeIndex subscribeOk) := by
  have htracked := h.ofShared (trackActive s.activeOrderTradeIndices orderId tradeIndex)
    s.droppedUserHistoryOrderIds
  unfold Router.trackOrder
  dsimp only
  split
  · exact htracked
  · rename_i keys hkeys
    exact htracked.ensureOrderDmSubscription ⟨keys, hkeys, rfl⟩ orderId subscribeOk

theorem TablesAgree.trackOperationResult (h : TablesAgree ops s) (result : TrackingResult) :
    TablesAgree ops (trackOperationResult s result) := by
  unfold Router.trackOperationResult
  split
  · split
    · exact h.ofShared _ _
    · exact h
  · exact h.ofShared _ _
  · exact h.ofShared _ _
  · exact h.ofShared _ _
  · exact h

/-- Every turn keeps the tables in agreement, unless it is an ending echo. -/
theorem TablesAgree.next (s : DmListener) (event : ListenerEvent) (hecho : EchoOk ops s event)
    (h : TablesAgree ops s) : TablesAgree ops (s.next ops event) := by
  cases event with
  | trackOrder orderId tradeIndex subscribeOk => exact h.trackOrder orderId tradeIndex subscribeOk
  | registerWaiter waiter subscribeOk => exact h.addWaiter waiter subscribeOk
  | waiterGcTick => exact h.pruneClosed
  | relayEvent subscriptionId event rank env => exact h.handleEvent hecho
  | receiverDropped id =>
    exact ⟨h.live, h.owner, h.bound, h.fresh, fun w hw hopen =>
      h.waiters w hw fun hclosed => hopen (.tail _ hclosed)⟩
  | operationResult result => exact h.trackOperationResult result
  | otherTask trade => exact ⟨h.live, h.owner, h.bound, h.fresh, h.waiters⟩
  | respawn startup => exact tablesAgree_startListener s startup

end

/-- A wire on which a key opens what it signed itself: a `canceled`. -/
def echoOps : ListenerOps where
  wire :=
    { eventKind := privateDirectMessage
      unwrapIncoming := fun event key =>
        if event.pubkey = key then some ⟨{ action := .canceled }, key, true⟩ else none }
  createdAt := fun _ _ => 0
  keyOps := plainKeyOps
  chatOps := plainChatOps
  user := { i0Pubkey := "", mnemonic := "m", createdAt := 0 }

/-- Order 1 with trade index 1, and nothing to replay. -/
def oneOrder : Startup where
  rows := [{ id := 1, isMine := true, tradeIndex := some 1 }]
  rank := id
  subscribeOk := fun _ => true
  window := fun _ => []
  env := fun _ => ⟨0, 0⟩

/-- The key of index 1. -/
def echoKey : PublicKey := "pub:m:1"

/-- A listener that never ran. -/
def idleListener : DmListener where
  trade := { db := Table.empty }

/-- A waiter for the key of order 1, and then an event of `pubkey` on the order's subscription. -/
def waiterThenEvent (pubkey : PublicKey) : List ListenerEvent :=
  [.registerWaiter ⟨echoKey, 0⟩ true, .relayEvent 0 ⟨0, 14, pubkey, ""⟩ id ⟨0, 0⟩]

/-- The listener after the client's own `canceled` on the order's subscription. -/
def afterEcho : DmListener :=
  (waiterThenEvent echoKey).foldl (DmListener.next echoOps)
    (startListener echoOps idleListener oneOrder)

end Mostrix.Router
