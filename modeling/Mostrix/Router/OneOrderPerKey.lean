import Mostrix.Keys.TradeIndex
import Mostrix.Library.Run
import Mostrix.Router.DmListener

/-!
# One order per trade key

The fallback path gives an event to the first active order whose key opens it, in the order in which
the map happens to be iterated. That names one order only if no two orders of the map have one trade
index. `TrackOrder` sees to it: it drops the prior orders of its index, which are placeholders for
the order it brings. The UI inserts into the same map when it handles a result, and the hydration
replaces it by the rows of the table; neither looks for an older order of the index.

`one_order_per_key` is the invariant over every run in which they bring no second order for an
index, and `two_orders_for_one_key` a run in which the UI does.
-/

namespace Mostrix.Router

/-! ## The map -/

/-- The map has each order once, and each trade index at most once. -/
structure IndexMap (indices : List (Uuid × Int)) : Prop where
  ids : KeyedList.Distinct Prod.fst indices
  injective : ∀ a ∈ indices, ∀ b ∈ indices, a.2 = b.2 → a = b

theorem indexMap_nil : IndexMap [] := ⟨.nil, nofun⟩

/-- Dropping orders keeps the rest apart. -/
theorem IndexMap.filter {indices : List (Uuid × Int)} (h : IndexMap indices)
    (p : Uuid × Int → Bool) : IndexMap (indices.filter p) :=
  ⟨h.ids.sublist List.filter_sublist, fun a ha b hb =>
    h.injective a (List.mem_of_mem_filter ha) b (List.mem_of_mem_filter hb)⟩

theorem IndexMap.removeActive {indices : List (Uuid × Int)} (h : IndexMap indices)
    (orderId : Uuid) : IndexMap (removeActive indices orderId) :=
  h.filter _

/-- No other order of the map has the trade index. -/
def Unused (indices : List (Uuid × Int)) (orderId : Uuid) (tradeIndex : Int) : Prop :=
  ∀ e ∈ indices, e.2 = tradeIndex → e.1 = orderId

/-- An insertion keeps the indices apart exactly when the index is unused. -/
theorem indexMap_insertActive_iff {indices : List (Uuid × Int)} (h : IndexMap indices)
    {orderId : Uuid} {tradeIndex : Int} :
    IndexMap (insertActive indices orderId tradeIndex) ↔ Unused indices orderId tradeIndex := by
  have hmem : ∀ {e : Uuid × Int}, e ∈ insertActive indices orderId tradeIndex ↔
      e = (orderId, tradeIndex) ∨ e ∈ indices ∧ e.1 ≠ orderId := KeyedList.mem_upsert h.ids
  refine ⟨fun hinserted e he hindex => ?_, fun hunused => ⟨KeyedList.distinct_upsert h.ids, ?_⟩⟩
  · by_contra hne
    have heq := hinserted.injective e (hmem.2 (.inr ⟨he, hne⟩)) (orderId, tradeIndex)
      (hmem.2 (.inl rfl)) hindex
    exact hne (congrArg Prod.fst heq)
  · intro a ha b hb hindex
    rcases hmem.1 ha with rfl | ⟨ha, hane⟩
    · rcases hmem.1 hb with rfl | ⟨hb, hbne⟩
      · rfl
      · exact absurd (hunused b hb hindex.symm) hbne
    · rcases hmem.1 hb with rfl | ⟨hb, -⟩
      · exact absurd (hunused a ha hindex) hane
      · exact h.injective a ha b hb hindex

/-- `TrackOrder` keeps the indices apart whatever it brings. -/
theorem IndexMap.trackActive {indices : List (Uuid × Int)} (h : IndexMap indices) (orderId : Uuid)
    (tradeIndex : Int) : IndexMap (trackActive indices orderId tradeIndex) := by
  refine (indexMap_insertActive_iff (h.filter _)).2 fun e he hindex => ?_
  simpa [hindex] using (List.mem_filter.1 he).2

/-- The rows that the hydration reads give each index to one order. -/
def RowsApart (rows : List Order) : Prop :=
  ∀ r ∈ rows, ∀ r' ∈ rows, ∀ tradeIndex, r.tradeIndex = some tradeIndex →
    r'.tradeIndex = some tradeIndex → r.id = r'.id

/-- Every order of the map is a row. -/
def FromRows (rows : List Order) (indices : List (Uuid × Int)) : Prop :=
  ∀ e ∈ indices, ∃ r ∈ rows, r.id = e.1 ∧ r.tradeIndex = some e.2

theorem FromRows.hydrateActive {rows : List Order} {indices : List (Uuid × Int)}
    (h : FromRows rows indices) {r : Order} (hr : r ∈ rows) :
    FromRows rows (hydrateActive indices r) := by
  unfold Router.hydrateActive
  split
  · rename_i tradeIndex hindex
    intro e he
    rcases KeyedList.mem_of_mem_upsert he with rfl | he
    · exact ⟨r, hr, rfl, hindex⟩
    · exact h e he
  · exact h

theorem IndexMap.hydrateActive {rows : List Order} (hrows : RowsApart rows)
    {indices : List (Uuid × Int)} (h : IndexMap indices) (hfrom : FromRows rows indices) {r : Order}
    (hr : r ∈ rows) : IndexMap (hydrateActive indices r) := by
  unfold Router.hydrateActive
  split
  · rename_i tradeIndex hindex
    refine (indexMap_insertActive_iff h).2 fun e he heq => ?_
    obtain ⟨r', hr', hid, hindex'⟩ := hfrom e he
    rw [heq] at hindex'
    rw [← hid]
    exact hrows r' hr' r hr tradeIndex hindex' hindex
  · exact h

/-- What each row of a hydration keeps, the hydrated map has. -/
theorem hydrate_induction {I : List (Uuid × Int) → Prop} {rows : List Order} (hnil : I [])
    (hstep : ∀ indices, ∀ r ∈ rows, I indices → I (hydrateActive indices r)) :
    I (hydrateStartupActiveOrders rows) := by
  have hfold : ∀ (todo : List Order) (indices : List (Uuid × Int)), (∀ r ∈ todo, r ∈ rows) →
      I indices → I (todo.foldl hydrateActive indices) := by
    intro todo
    induction todo with
    | nil => exact fun _ _ h => h
    | cons r todo ih =>
      intro indices htodo h
      obtain ⟨hr, htodo⟩ := List.forall_mem_cons.1 htodo
      exact ih _ htodo (hstep indices r hr h)
  exact hfold rows [] (fun _ hr => hr) hnil

theorem fromRows_hydrate (rows : List Order) : FromRows rows (hydrateStartupActiveOrders rows) :=
  hydrate_induction nofun fun _ _ hr h => h.hydrateActive hr

/-- The hydrated map of rows that are apart. -/
theorem indexMap_hydrate {rows : List Order} (hrows : RowsApart rows) :
    IndexMap (hydrateStartupActiveOrders rows) := by
  have hboth : IndexMap (hydrateStartupActiveOrders rows) ∧
      FromRows rows (hydrateStartupActiveOrders rows) :=
    hydrate_induction (I := fun indices => IndexMap indices ∧ FromRows rows indices)
      ⟨indexMap_nil, nofun⟩
      fun _ _ hr h => ⟨h.1.hydrateActive hrows h.2 hr, h.2.hydrateActive hr⟩
  exact hboth.1

/-! ## The listener's turns -/

section
variable {ops : ListenerOps}

/-- A batch only drops orders from the map. -/
theorem indexMap_dispatchLoop {target : DispatchTarget} {policy : GiftWrapTerminalPolicy}
    {parsed : List ParsedDm} {s : DmListener} (h : IndexMap s.activeOrderTradeIndices) :
    IndexMap (dispatchLoop ops target policy s parsed).activeOrderTradeIndices := by
  induction parsed generalizing s with
  | nil => exact h
  | cons m ms ih =>
    have hhandled : IndexMap (handleParsedDm ops target s m).activeOrderTradeIndices := h
    have hforgot := hhandled.removeActive target.orderId
    unfold dispatchLoop
    dsimp only
    split
    · cases policy with
      | trackedSubscription id => exact hforgot
      | untrackedFallback => exact ih hforgot
    · exact ih hhandled

theorem indexMap_dispatchGiftwrapBatch {target : DispatchTarget} {policy : GiftWrapTerminalPolicy}
    {parsed : List ParsedDm} {s : DmListener} (h : IndexMap s.activeOrderTradeIndices) :
    IndexMap (dispatchGiftwrapBatch ops target policy s parsed).activeOrderTradeIndices := by
  unfold dispatchGiftwrapBatch
  split
  · exact h
  · exact indexMap_dispatchLoop h

/-- Subscribing does not touch the map. -/
theorem activeOrderTradeIndices_ensureOrderDmSubscription (s : DmListener) (key : PublicKey)
    (orderId : Uuid) (tradeIndex : Int) (subscribeOk : Bool) :
    (ensureOrderDmSubscription s key orderId tradeIndex subscribeOk).activeOrderTradeIndices =
      s.activeOrderTradeIndices := by
  unfold ensureOrderDmSubscription
  split
  · rfl
  · split <;> rfl

theorem indexMap_trackOrder {s : DmListener} (h : IndexMap s.activeOrderTradeIndices)
    (orderId : Uuid) (tradeIndex : Int) (subscribeOk : Bool) :
    IndexMap (trackOrder ops s orderId tradeIndex subscribeOk).activeOrderTradeIndices := by
  unfold trackOrder
  dsimp only
  split
  · exact h.trackActive orderId tradeIndex
  · rw [activeOrderTradeIndices_ensureOrderDmSubscription]
    exact h.trackActive orderId tradeIndex

theorem activeOrderTradeIndices_addWaiter (s : DmListener) (waiter : PendingDmWaiter)
    (subscribeOk : Bool) :
    (addWaiter s waiter subscribeOk).activeOrderTradeIndices = s.activeOrderTradeIndices := by
  unfold addWaiter
  dsimp only
  split
  · rfl
  · split
    · rfl
    · split <;> rfl

theorem indexMap_handleEvent {s : DmListener} (h : IndexMap s.activeOrderTradeIndices)
    (subscriptionId : SubscriptionId) (event : Event) (rank : Uuid → Nat) (env : Env) :
    IndexMap (handleEvent ops s subscriptionId event rank env).activeOrderTradeIndices := by
  have hdrained : IndexMap (drainWaiters ops s event).activeOrderTradeIndices := h
  unfold handleEvent routeEvent
  split
  · exact h
  split
  · split
    · exact hdrained
    · split
      · exact hdrained
      · exact indexMap_dispatchGiftwrapBatch hdrained
  · split
    · exact hdrained
    · exact indexMap_dispatchGiftwrapBatch hdrained

theorem indexMap_replayOrder {startup : Startup} {s : DmListener}
    (h : IndexMap s.activeOrderTradeIndices) (orderId : Uuid) (tradeIndex : Int) :
    IndexMap (replayOrder ops startup s orderId tradeIndex).activeOrderTradeIndices := by
  unfold replayOrder
  split
  · exact h
  split
  · exact h
  split
  · exact h
  split
  · exact h
  · exact indexMap_dispatchGiftwrapBatch h

theorem indexMap_bootstrapOrder (startup : Startup) {s : DmListener}
    (h : IndexMap s.activeOrderTradeIndices) (orderId : Uuid) (tradeIndex : Int) :
    IndexMap (bootstrapOrder ops startup s orderId tradeIndex).activeOrderTradeIndices := by
  unfold bootstrapOrder
  split
  · exact h
  · rw [activeOrderTradeIndices_ensureOrderDmSubscription]
    exact h

/-- A startup on rows that are apart. -/
theorem indexMap_startListener {startup : Startup} (hrows : RowsApart startup.rows)
    (s : DmListener) : IndexMap (startListener ops s startup).activeOrderTradeIndices := by
  let orders := iterate startup.rank (hydrateStartupActiveOrders startup.rows)
  have hstart : IndexMap (hydrated s startup).activeOrderTradeIndices := indexMap_hydrate hrows
  have hboot : IndexMap (orders.foldl (fun s e => bootstrapOrder ops startup s e.1 e.2)
      (hydrated s startup)).activeOrderTradeIndices :=
    Run.invariant (I := fun s : DmListener => IndexMap s.activeOrderTradeIndices)
      (fun _ e h => indexMap_bootstrapOrder startup h e.1 e.2) orders hstart
  exact Run.invariant (I := fun s : DmListener => IndexMap s.activeOrderTradeIndices)
    (fun _ e h => indexMap_replayOrder h e.1 e.2) orders hboot

/-- The condition on a turn: an order that the UI inserts brings an index no other order of the map
has, and so do the rows of a hydration. -/
def InsertsUnused (s : DmListener) : ListenerEvent → Prop
  | .operationResult (.paymentRequestRequired order tradeIndex) => ∀ orderId,
    order.id = some orderId → Unused s.activeOrderTradeIndices orderId tradeIndex
  | .operationResult (.success (some orderId) (some tradeIndex)) =>
    Unused s.activeOrderTradeIndices orderId tradeIndex
  | .respawn startup => RowsApart startup.rows
  | _ => True

theorem indexMap_trackOperationResult {s : DmListener} {result : TrackingResult}
    (hunused : InsertsUnused s (.operationResult result)) (h : IndexMap s.activeOrderTradeIndices) :
    IndexMap (trackOperationResult s result).activeOrderTradeIndices := by
  unfold trackOperationResult
  split
  · rename_i order tradeIndex
    split
    · rename_i orderId hid
      exact (indexMap_insertActive_iff h).2 (hunused orderId hid)
    · exact h
  · exact (indexMap_insertActive_iff h).2 hunused
  · exact h.removeActive _
  · rename_i orderIds
    exact Run.invariant (fun _ orderId h => h.removeActive orderId) orderIds h
  · exact h

/-- Every turn that meets the condition keeps one order per index. -/
theorem indexMap_next (s : DmListener) (event : ListenerEvent) (hunused : InsertsUnused s event)
    (h : IndexMap s.activeOrderTradeIndices) :
    IndexMap (s.next ops event).activeOrderTradeIndices := by
  cases event with
  | trackOrder orderId tradeIndex subscribeOk =>
    exact indexMap_trackOrder h orderId tradeIndex subscribeOk
  | registerWaiter waiter subscribeOk =>
    have hsame := activeOrderTradeIndices_addWaiter s waiter subscribeOk
    rw [DmListener.next, hsame]
    exact h
  | relayEvent subscriptionId event rank env =>
    exact indexMap_handleEvent h subscriptionId event rank env
  | operationResult result => exact indexMap_trackOperationResult hunused h
  | respawn startup => exact indexMap_startListener hunused s
  | waiterGcTick | receiverDropped | otherTask => exact h

end

/-! ## Attribution -/

section
variable {ops : ListenerOps}

/-- What the fallback path gives an order of the map, if its key opens the event. -/
def openedAs (ops : ListenerOps) (event : Event) (e : Uuid × Int) :
    Option (Uuid × Int × Keys × UnwrappedMessage) :=
  match ops.deriveTradeKeys e.2 with
  | .error _ => none
  | .ok keys => (ops.wire.unwrapIncoming event keys.publicKey).map fun u => (e.1, e.2, keys, u)

theorem resolveOrderForEvent_eq_findSome? (event : Event) (orders : List (Uuid × Int)) :
    resolveOrderForEvent ops event orders = orders.findSome? (openedAs ops event) := by
  induction orders with
  | nil => rfl
  | cons e rest ih =>
    rw [List.findSome?_cons]
    unfold resolveOrderForEvent openedAs
    cases ops.deriveTradeKeys e.2 with
    | error _ => exact ih
    | ok keys =>
      dsimp only
      cases ops.wire.unwrapIncoming event keys.publicKey with
      | none => exact ih
      | some u => rfl

/-- Where at most one element of a list has a result, that is the first one found. -/
theorem findSome?_eq_some_iff_of_unique {α β : Type _} {l : List α} {f : α → Option β} {r : β}
    (h : ∀ a ∈ l, ∀ b ∈ l, (f a).isSome → (f b).isSome → a = b) :
    l.findSome? f = some r ↔ ∃ a ∈ l, f a = some r := by
  refine ⟨List.exists_of_findSome?_eq_some, ?_⟩
  rintro ⟨a, ha, hfa⟩
  cases hfirst : l.findSome? f with
  | none =>
    rw [List.findSome?_eq_none_iff.1 hfirst a ha] at hfa
    cases hfa
  | some r' =>
    obtain ⟨b, hb, hfb⟩ := List.exists_of_findSome?_eq_some hfirst
    obtain rfl := h a ha b hb (by rw [hfa]; rfl) (by rw [hfb]; rfl)
    rw [← hfb, hfa]

/-- The event is addressed to one key: no other opens it. -/
def OpensForOne (ops : ListenerOps) (event : Event) : Prop :=
  ∀ key key', (ops.wire.unwrapIncoming event key).isSome →
    (ops.wire.unwrapIncoming event key').isSome → key = key'

/-- The order of an event is the same in whatever order the map is iterated. -/
def AttributesOne (ops : ListenerOps) (indices : List (Uuid × Int)) : Prop :=
  ∀ event, OpensForOne ops event → ∀ orders, orders.Perm indices →
    resolveOrderForEvent ops event orders = resolveOrderForEvent ops event indices

/-- Trade keys of different indices are different. -/
theorem deriveTradeKeys_injective (hkeys : ops.keyOps.DistinctKeys) {i j : Int} {k k' : Keys}
    (hi : ops.deriveTradeKeys i = .ok k) (hj : ops.deriveTradeKeys j = .ok k')
    (h : k.publicKey = k'.publicKey) : i = j := by
  unfold ListenerOps.deriveTradeKeys User.deriveTradeKeys at hi hj
  split at hi
  · cases hi
  split at hj
  · cases hj
  have := hkeys hi hj h
  omega

/-- The orders of one map whose keys open an event that is for one key are one order. -/
theorem openedAs_unique (hkeys : ops.keyOps.DistinctKeys) {indices : List (Uuid × Int)}
    (h : IndexMap indices) {event : Event} (hone : OpensForOne ops event) :
    ∀ a ∈ indices, ∀ b ∈ indices, (openedAs ops event a).isSome → (openedAs ops event b).isSome →
      a = b := by
  have hopened : ∀ e : Uuid × Int, (openedAs ops event e).isSome → ∃ keys,
      ops.deriveTradeKeys e.2 = .ok keys ∧
        (ops.wire.unwrapIncoming event keys.publicKey).isSome := by
    intro e he
    unfold openedAs at he
    split at he
    · cases he
    · rename_i keys hderived
      exact ⟨keys, hderived, by rwa [Option.isSome_map] at he⟩
  intro a ha b hb hsa hsb
  obtain ⟨k, hk, hopen⟩ := hopened a hsa
  obtain ⟨k', hk', hopen'⟩ := hopened b hsb
  exact h.injective a ha b hb (deriveTradeKeys_injective hkeys hk hk' (hone _ _ hopen hopen'))

theorem IndexMap.attributesOne (hkeys : ops.keyOps.DistinctKeys) {indices : List (Uuid × Int)}
    (h : IndexMap indices) : AttributesOne ops indices := by
  intro event hone orders hperm
  have hunique := openedAs_unique hkeys h hone
  rw [resolveOrderForEvent_eq_findSome?, resolveOrderForEvent_eq_findSome?]
  refine Option.ext fun r => ?_
  rw [findSome?_eq_some_iff_of_unique hunique, findSome?_eq_some_iff_of_unique
    fun a ha b hb => hunique a (hperm.mem_iff.1 ha) b (hperm.mem_iff.1 hb)]
  exact exists_congr fun a => and_congr_left' hperm.mem_iff

end

/-- In every state of a run from an empty map whose insertions bring unused indices, no two orders
of the map have one trade index, and every event for one key has one order. -/
theorem one_order_per_key (ops : ListenerOps) (hkeys : ops.keyOps.DistinctKeys) (s : DmListener)
    (hempty : s.activeOrderTradeIndices = []) (run : List ListenerEvent)
    (hunused : Run.Guarded (DmListener.next ops) InsertsUnused s run) :
    ∀ before after, run = before ++ after →
      let indices := (before.foldl (DmListener.next ops) s).activeOrderTradeIndices
      (∀ a ∈ indices, ∀ b ∈ indices, a.2 = b.2 → a = b) ∧ AttributesOne ops indices := by
  rintro before after rfl
  have hstart : IndexMap s.activeOrderTradeIndices := hempty ▸ indexMap_nil
  have hmap : IndexMap (before.foldl (DmListener.next ops) s).activeOrderTradeIndices :=
    hunused.invariant_prefix (I := fun s : DmListener => IndexMap s.activeOrderTradeIndices)
      indexMap_next hstart
  exact ⟨hmap.injective, hmap.attributesOne hkeys⟩

/-! ## A placeholder and the order it stands for -/

/-- Operations on keys that differ, and a wire on which a key opens what is addressed to it. -/
def addressedOps : ListenerOps where
  wire :=
    { eventKind := privateDirectMessage
      unwrapIncoming := fun event key =>
        if event.content = key then some ⟨{ action := .rate }, "mostro", false⟩ else none }
  createdAt := fun _ _ => 0
  keyOps := unaryKeyOps
  chatOps := plainChatOps
  user := freshUser

/-- An application that just started. -/
def emptyListener : DmListener where
  trade := { db := Table.empty }

/-- A take of order 1 that Mostro answers as order 2; the listener learns of it before the UI. -/
def handover : List ListenerEvent :=
  [.trackOrder 1 5 true, .trackOrder 2 5 true, .operationResult (.success (some 2) (some 5))]

/-- The placeholder is gone when the UI inserts the order. -/
theorem one_order_per_key_handover :
    let indices := (handover.foldl (DmListener.next addressedOps)
      emptyListener).activeOrderTradeIndices
    (∀ a ∈ indices, ∀ b ∈ indices, a.2 = b.2 → a = b) ∧ AttributesOne addressedOps indices := by
  have hunused : Run.Guarded (DmListener.next addressedOps) InsertsUnused emptyListener
      handover := by
    refine ⟨trivial, trivial, ?_, trivial⟩
    -- the map has the order alone
    intro e he _
    obtain rfl : e = (2, 5) := List.mem_singleton.1 he
    rfl
  exact one_order_per_key addressedOps unaryKeyOps_distinctKeys emptyListener rfl handover hunused
    handover [] (List.append_nil _).symm

/-- The UI learns of it first: the map has the placeholder and the order under one index. -/
theorem two_orders_for_one_key : ¬ ∀ (ops : ListenerOps), ops.keyOps.DistinctKeys →
    ∀ (s : DmListener), s.activeOrderTradeIndices = [] → ∀ (run : List ListenerEvent),
      let indices := (run.foldl (DmListener.next ops) s).activeOrderTradeIndices
      ∀ a ∈ indices, ∀ b ∈ indices, a.2 = b.2 → a = b := by
  intro h
  have hmap := h addressedOps unaryKeyOps_distinctKeys emptyListener rfl
    [.trackOrder 1 5 true, .operationResult (.success (some 2) (some 5))] (1, 5) (by decide) (2, 5)
    (by decide) rfl
  cases hmap

end Mostrix.Router
