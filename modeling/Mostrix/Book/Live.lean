import Mostrix.Library.KeyedList
import Mostrix.Library.Run
import Mostrix.Book.OrderEvents

/-!
# The live order book

`util/order_utils/fetch_scheduler.rs`: the book starts as the batch one, and each order event that
arrives is folded into it by `applyLiveOrderUpdate`. The fold keeps the pending orders only, so it
has no time to compare an event with when its order is not on the book, and `retain` compares none.

`agrees_receiveLive_iff` is the step lemma: from a book that agrees with the batch one, an event
leaves the two in agreement exactly when it `Refines` it. `live_book_refines_iff` lifts that to
runs.
-/

namespace Mostrix.Book

/-- What the order task is started with: the parsers, the node's key, `NOSTR_ORDER_EVENT_KIND` of
`mostro-core`, and the currency filter. -/
structure Feed where
  parsers : TagParsers
  mostroPubkey : PublicKey
  orderEventKind : Nat
  currencies : List String

/-- The book shown, and what it was made from. -/
structure State where
  received : NostrEvents
  orders : List SmallOrder

/-- `*existing = order` on the first order with the id. -/
def assignFirst (orderId : Uuid) (order : SmallOrder) : List SmallOrder → List SmallOrder
  | [] => []
  | o :: os => if o.id = some orderId then order :: os else o :: assignFirst orderId order os

/-- The order of the book with an id. -/
def entry (orders : List SmallOrder) (k : Uuid) : Option SmallOrder :=
  orders.find? fun o => o.id = some k

/-- `apply_live_order_update`. -/
def applyLiveOrderUpdate (orders : List SmallOrder) (order : SmallOrder) : List SmallOrder :=
  match order.id with
  | none => orders
  | some orderId =>
    if order.status ≠ some .pending then orders.filter fun existing => existing.id ≠ some orderId
    else
      let orders :=
        match entry orders orderId with
        | some existing =>
          let existingTs := existing.createdAt.getD 0
          let newTs := order.createdAt.getD 0
          if existingTs ≤ newTs then assignFirst orderId order orders else orders
        | none => orders ++ [order]
      sortNewestFirst orders

section
variable (F : Feed)

/-- The order task's branch on a notification. -/
def receiveLive (s : State) (event : Event) : State :=
  if event.kind ≠ F.orderEventKind then s
  else if event.pubkey ≠ F.mostroPubkey then s
  else
    let one : NostrEvents := SortedSet.empty.insert event
    let parsed := parseOrdersEvents F.parsers one (some F.currencies) none none
    { received := s.received.insert event
      orders :=
        match parsed.getLast? with
        | some order => applyLiveOrderUpdate s.orders order
        | none => s.orders }

/-- The book made from scratch. -/
def batchOrders (received : NostrEvents) : List SmallOrder :=
  pendingOrdersForBook (aggregateLatestOrdersById F.parsers received) (some F.currencies)

/-- The first poll: `fetch_mostro_order_events`, which drops what another key signed, and the book
of it. -/
def firstPoll (fetched : List Event) : State :=
  let received := SortedSet.ofList Event.key (fetched.filter fun e => e.pubkey = F.mostroPubkey)
  { received := received, orders := batchOrders F received }

/-- The two books hold the same orders. -/
def Agrees (s : State) : Prop := ∀ o, o ∈ s.orders ↔ o ∈ batchOrders F s.received

/-- The event is the newest received about the order `k`, itself included. -/
def IsNewest (received : NostrEvents) (k : Uuid) (e : Event) : Prop :=
  ∀ b ∈ received, b.key ≠ e.key ∧ (b.orderId F.parsers = some k → e.beats b)

/-- The step condition. An event that the task ignores, or whose order has no id or kind, is
harmless. The newest event about an order must pass the currency filter, unless the order is not on
the book. Any other must be one that the live path drops too: filtered out, or not pending for an
order that is not on the book, or pending for one that is there with a later time or the same
data. -/
def Refines (s : State) (e : Event) : Prop :=
  e.kind = F.orderEventKind → e.pubkey = F.mostroPubkey → ∀ k, e.orderId F.parsers = some k →
    let order := e.order F.parsers
    let passes := passesCurrencies (some F.currencies) order = true
    (IsNewest F s.received k e ∧ (passes ∨ entry s.orders k = none)) ∨
      ¬ IsNewest F s.received k e ∧
        (¬ passes ∨
          order.status ≠ some .pending ∧ entry s.orders k = none ∨
          order.status = some .pending ∧
            ∃ x, entry s.orders k = some x ∧ (e.ts < x.createdAt.getD 0 ∨ x = order))

end

/-! ## The list operations -/

/-- No two orders of the book have one id. -/
def DistinctIds (orders : List SmallOrder) : Prop := orders.Pairwise fun a b => a.id ≠ b.id

@[simp] theorem mem_sortNewestFirst {orders : List SmallOrder} {o : SmallOrder} :
    o ∈ sortNewestFirst orders ↔ o ∈ orders := List.mem_insertionSort _

theorem distinctIds_sortNewestFirst {orders : List SmallOrder} (h : DistinctIds orders) :
    DistinctIds (sortNewestFirst orders) :=
  KeyedList.distinct_perm h (List.perm_insertionSort _ orders).symm

theorem entry_eq_some_iff {orders : List SmallOrder} (h : DistinctIds orders) {k : Uuid}
    {o : SmallOrder} : entry orders k = some o ↔ o ∈ orders ∧ o.id = some k :=
  KeyedList.entry_eq_some_iff h

theorem assignFirst_eq {orders : List SmallOrder} {k : Uuid} {order : SmallOrder}
    (hid : order.id = some k) :
    assignFirst k order orders = KeyedList.assign SmallOrder.id order orders := by
  induction orders with
  | nil => rfl
  | cons a os ih => rw [assignFirst, KeyedList.assign, hid, ih]

/-- An order that is not pending is taken off the book. -/
theorem applyLiveOrderUpdate_of_not_pending (orders : List SmallOrder) {order : SmallOrder}
    {k : Uuid} (hid : order.id = some k) (hclosed : order.status ≠ some .pending) :
    applyLiveOrderUpdate orders order = orders.filter fun existing => existing.id ≠ some k := by
  unfold applyLiveOrderUpdate
  rw [hid]
  exact if_pos hclosed

/-- A pending order is upserted, unless the book has it with a later time. -/
theorem applyLiveOrderUpdate_of_pending (orders : List SmallOrder) {order : SmallOrder} {k : Uuid}
    (hid : order.id = some k) (hpending : order.status = some .pending) :
    applyLiveOrderUpdate orders order = sortNewestFirst
      (if ∀ existing ∈ entry orders k, existing.createdAt.getD 0 ≤ order.createdAt.getD 0 then
        KeyedList.upsert SmallOrder.id orders order
      else orders) := by
  have hkeyed : KeyedList.entry SmallOrder.id orders order.id = entry orders k := by
    rw [hid]
    rfl
  unfold applyLiveOrderUpdate KeyedList.upsert
  rw [hkeyed, hid]
  dsimp only
  rw [if_neg (not_not.2 hpending)]
  cases entry orders k with
  | none => simp
  | some existing => simp [assignFirst_eq hid]

/-- The live update of one order's entry. -/
def liveEntry (shown : Option SmallOrder) (order : SmallOrder) : Option SmallOrder :=
  if order.status ≠ some .pending then none
  else
    match shown with
    | none => some order
    | some existing =>
      if existing.createdAt.getD 0 ≤ order.createdAt.getD 0 then some order else some existing

theorem liveEntry_id {shown : Option SmallOrder} {order o : SmallOrder} {k : Uuid}
    (hshown : ∀ x, shown = some x → x.id = some k) (hid : order.id = some k)
    (h : liveEntry shown order = some o) : o.id = some k := by
  unfold liveEntry at h
  split at h
  · cases h
  · split at h
    · obtain rfl := Option.some.inj h
      exact hid
    · rename_i existing
      split at h
      · obtain rfl := Option.some.inj h
        exact hid
      · obtain rfl := Option.some.inj h
        exact hshown existing rfl

/-- The live update changes the entry of the order and no other. -/
theorem mem_applyLiveOrderUpdate {orders : List SmallOrder} (hd : DistinctIds orders)
    {order : SmallOrder} {k : Uuid} (hid : order.id = some k) {o : SmallOrder} :
    o ∈ applyLiveOrderUpdate orders order ↔
      o ∈ orders ∧ o.id ≠ some k ∨ liveEntry (entry orders k) order = some o := by
  unfold liveEntry
  split
  · rename_i hclosed
    rw [applyLiveOrderUpdate_of_not_pending orders hid hclosed]
    simp
  · rename_i hpending
    rw [applyLiveOrderUpdate_of_pending orders hid (not_not.1 hpending), mem_sortNewestFirst]
    have hupsert := KeyedList.mem_upsert (a := order) (b := o) hd
    rw [hid] at hupsert
    cases hentry : entry orders k with
    | none => simp [hupsert, or_comm, eq_comm]
    | some existing =>
      obtain ⟨hmem, hexk⟩ := (entry_eq_some_iff hd).1 hentry
      by_cases hlater : existing.createdAt.getD 0 ≤ order.createdAt.getD 0
      · simp [hlater, hupsert, or_comm, eq_comm]
      · -- the book keeps the order it has
        have hkept : o ∈ orders ↔ o ∈ orders ∧ o.id ≠ some k ∨ existing = o := by
          refine ⟨fun ho => ?_, ?_⟩
          · by_cases hok : o.id = some k
            · have h := (entry_eq_some_iff hd).2 ⟨ho, hok⟩
              exact .inr (Option.some.inj (hentry.symm.trans h))
            · exact .inl ⟨ho, hok⟩
          · rintro (⟨ho, -⟩ | rfl)
            · exact ho
            · exact hmem
        simpa [hlater] using hkept

theorem distinctIds_applyLiveOrderUpdate {orders : List SmallOrder} (hd : DistinctIds orders)
    (order : SmallOrder) : DistinctIds (applyLiveOrderUpdate orders order) := by
  cases hid : order.id with
  | none =>
    unfold applyLiveOrderUpdate
    rwa [hid]
  | some k =>
    by_cases hpending : order.status = some .pending
    · rw [applyLiveOrderUpdate_of_pending orders hid hpending]
      refine distinctIds_sortNewestFirst ?_
      split
      · exact KeyedList.distinct_upsert hd
      · exact hd
    · rw [applyLiveOrderUpdate_of_not_pending orders hid hpending]
      exact hd.filter _

/-! ## The batch book, order by order -/

section
variable {F : Feed}

variable (F) in
/-- What the batch book shows of an order: its newest revision, when that is pending and passes the
filter. -/
def batchEntry (received : NostrEvents) (k : Uuid) : Option SmallOrder :=
  ((newestEvent F.parsers received k).map (Event.order F.parsers)).filter fun o =>
    o.status = some .pending && passesCurrencies (some F.currencies) o

theorem LatestOrders.mem_values {latest : LatestOrders} {o : SmallOrder} :
    o ∈ latest.values ↔ ∃ k, latest.lookup k = some o := by
  unfold LatestOrders.values
  rw [List.mem_map]
  refine ⟨?_, ?_⟩
  · rintro ⟨⟨k, x⟩, hmem, rfl⟩
    exact ⟨k, AList.mem_lookup_iff.2 hmem⟩
  · rintro ⟨k, h⟩
    exact ⟨⟨k, o⟩, AList.mem_lookup_iff.1 h, rfl⟩

theorem mem_batchOrders {received : NostrEvents} {o : SmallOrder} :
    o ∈ batchOrders F received ↔ ∃ k, batchEntry F received k = some o := by
  unfold batchOrders pendingOrdersForBook batchEntry
  rw [mem_sortNewestFirst, List.mem_filter, LatestOrders.mem_values]
  refine ⟨?_, ?_⟩
  · rintro ⟨⟨k, hk⟩, hshown⟩
    rw [lookup_aggregate] at hk
    exact ⟨k, Option.filter_eq_some_iff.2 ⟨hk, hshown⟩⟩
  · rintro ⟨k, hk⟩
    obtain ⟨hk, hshown⟩ := Option.filter_eq_some_iff.1 hk
    exact ⟨⟨k, by rw [lookup_aggregate, hk]⟩, hshown⟩

theorem batchEntry_id {received : NostrEvents} {k : Uuid} {o : SmallOrder}
    (h : batchEntry F received k = some o) : o.id = some k := by
  obtain ⟨hmap, -⟩ := Option.filter_eq_some_iff.1 h
  obtain ⟨e, he, rfl⟩ := Option.map_eq_some_iff.1 hmap
  exact Event.order_id (newestEvent_mem he).2

/-- The entries of a book that agrees with the batch one. -/
theorem entry_eq_batchEntry {s : State} (hd : DistinctIds s.orders) (ha : Agrees F s) (k : Uuid) :
    entry s.orders k = batchEntry F s.received k := by
  refine Option.ext fun o => ?_
  rw [entry_eq_some_iff hd, ha o, mem_batchOrders]
  refine ⟨?_, ?_⟩
  · rintro ⟨⟨k', hk'⟩, hid⟩
    obtain rfl : k' = k := Option.some.inj ((batchEntry_id hk').symm.trans hid)
    exact hk'
  · intro h
    exact ⟨⟨k, h⟩, batchEntry_id h⟩

/-- The aggregation of a single event. -/
theorem parse_one (e : Event) :
    (parseOrdersEvents F.parsers (SortedSet.empty.insert e) (some F.currencies) none none).getLast? =
      if e.orderId F.parsers ≠ none ∧
          passesCurrencies (some F.currencies) (e.order F.parsers) = true then
        some (e.order F.parsers)
      else none := by
  have hagg : aggregateLatestOrdersById F.parsers (SortedSet.empty.insert e) =
      aggregateStep F.parsers ∅ e := rfl
  unfold parseOrdersEvents
  rw [hagg, aggregateStep_eq, latestStep]
  cases e.orderId F.parsers with
  | none => rfl
  | some k =>
    have hvalues : LatestOrders.values (AList.insert k (e.order F.parsers) ∅) =
        [e.order F.parsers] := rfl
    dsimp only
    rw [AList.lookup_empty]
    dsimp only
    rw [hvalues]
    by_cases hp : passesCurrencies (some F.currencies) (e.order F.parsers) = true
    · simp [hp, sortNewestFirst]
    · simp [hp, sortNewestFirst]

/-! ## One event -/

/-- An event that is the newest about its order is its latest revision. -/
theorem newestEvent_of_isNewest {received : NostrEvents} {k : Uuid} {e : Event}
    (hk : e.orderId F.parsers = some k) (h : IsNewest F received k e) :
    newestEvent F.parsers (received.insert e) k = some e :=
  newestAbout_of_isNewest hk h

/-- Any other leaves the latest revision as it is. -/
theorem newestEvent_of_not_isNewest {received : NostrEvents} {k : Uuid} {e : Event}
    (hk : e.orderId F.parsers = some k) (h : ¬ IsNewest F received k e) :
    newestEvent F.parsers (received.insert e) k = newestEvent F.parsers received k :=
  newestAbout_of_not_isNewest hk h

/-- What the batch book shows of the order an event revises, after the event. -/
theorem batchEntry_insert {received : NostrEvents} {k : Uuid} {e : Event}
    (hk : e.orderId F.parsers = some k) :
    (IsNewest F received k e →
      batchEntry F (received.insert e) k =
        (some (e.order F.parsers)).filter fun o =>
          o.status = some .pending && passesCurrencies (some F.currencies) o) ∧
    (¬ IsNewest F received k e →
      batchEntry F (received.insert e) k = batchEntry F received k) := by
  unfold batchEntry
  refine ⟨?_, ?_⟩
  · intro h
    rw [newestEvent_of_isNewest hk h, Option.map_some]
  · intro h
    rw [newestEvent_of_not_isNewest hk h]

/-- And of any other order. -/
theorem batchEntry_insert_of_ne {received : NostrEvents} {k : Uuid} {e : Event}
    (hk : e.orderId F.parsers ≠ some k) :
    batchEntry F (received.insert e) k = batchEntry F received k := by
  unfold batchEntry
  rw [newestEvent_insert_of_ne hk]

theorem batchEntry_insert_other {received : NostrEvents} {k k' : Uuid} {e : Event}
    (hk : e.orderId F.parsers = some k) (hne : k' ≠ k) :
    batchEntry F (received.insert e) k' = batchEntry F received k' :=
  batchEntry_insert_of_ne fun h => hne (Option.some.inj (h.symm.trans hk))

/-- The books agree after a change of one entry exactly when they do on that entry. -/
theorem agrees_iff_of_entry {s s' : State} (ha : Agrees F s) {k : Uuid} {v : Option SmallOrder}
    (hother : ∀ k', k' ≠ k → batchEntry F s'.received k' = batchEntry F s.received k')
    (hv : ∀ o, v = some o → o.id = some k)
    (hmem : ∀ o, o ∈ s'.orders ↔ o ∈ s.orders ∧ o.id ≠ some k ∨ v = some o) :
    Agrees F s' ↔ v = batchEntry F s'.received k := by
  refine ⟨?_, ?_⟩
  · intro h
    refine Option.ext fun o => ?_
    have ho := h o
    rw [hmem, mem_batchOrders] at ho
    refine ⟨?_, ?_⟩
    · intro hvo
      obtain ⟨k', hk'⟩ := ho.1 (.inr hvo)
      obtain rfl : k' = k := Option.some.inj ((batchEntry_id hk').symm.trans (hv o hvo))
      exact hk'
    · intro hb
      rcases ho.2 ⟨k, hb⟩ with ⟨-, hne⟩ | hvo
      · exact absurd (batchEntry_id hb) hne
      · exact hvo
  · intro hvk o
    rw [hmem, mem_batchOrders, ha o, mem_batchOrders]
    refine ⟨?_, ?_⟩
    · rintro (⟨⟨k', hk'⟩, hne⟩ | hvo)
      · have hkk : k' ≠ k := by
          rintro rfl
          exact hne (batchEntry_id hk')
        exact ⟨k', by rw [hother k' hkk, hk']⟩
      · exact ⟨k, by rw [← hvk, hvo]⟩
    · rintro ⟨k', hk'⟩
      by_cases hkk : k' = k
      · subst hkk
        exact .inr (hvk.trans hk')
      · rw [hother k' hkk] at hk'
        refine .inl ⟨⟨k', hk'⟩, fun hid => hkk ?_⟩
        exact Option.some.inj ((batchEntry_id hk').symm.trans hid)

/-- A live update is the batch one when the event is the newest about its order. -/
theorem liveEntry_eq_newest {received : NostrEvents} {k : Uuid} {e : Event}
    (hk : e.orderId F.parsers = some k) (h : IsNewest F received k e)
    (hp : passesCurrencies (some F.currencies) (e.order F.parsers) = true) :
    liveEntry (batchEntry F received k) (e.order F.parsers) =
      batchEntry F (received.insert e) k := by
  rw [(batchEntry_insert hk).1 h, Option.filter_some, hp, Bool.and_true]
  unfold liveEntry
  by_cases hs : (e.order F.parsers).status = some .pending
  · rw [if_neg (not_not.2 hs), if_pos (by simpa using hs)]
    cases hold : batchEntry F received k with
    | none => rfl
    | some x =>
      -- the order shown is of an older event, so it gives way
      obtain ⟨hmap, -⟩ := Option.filter_eq_some_iff.1 hold
      obtain ⟨c, hc, rfl⟩ := Option.map_eq_some_iff.1 hmap
      obtain ⟨hmem, hck⟩ := newestEvent_mem hc
      have hle : c.ts ≤ e.ts := by
        rcases (h c hmem).2 hck with hlt | ⟨heq, -⟩
        · exact hlt.le
        · exact heq.le
      dsimp only
      rw [Event.order_createdAt, Event.order_createdAt, Option.getD_some, Option.getD_some,
        if_pos hle]
  · rw [if_pos hs, if_neg (by simpa using hs)]

/-- A live update that is not the newest changes nothing exactly when it is dropped. -/
theorem liveEntry_eq_self_iff (shown : Option SmallOrder) (e : Event) :
    liveEntry shown (e.order F.parsers) = shown ↔
      (e.order F.parsers).status ≠ some .pending ∧ shown = none ∨
        (e.order F.parsers).status = some .pending ∧
          ∃ x, shown = some x ∧ (e.ts < x.createdAt.getD 0 ∨ x = e.order F.parsers) := by
  unfold liveEntry
  by_cases hs : (e.order F.parsers).status = some .pending
  · rw [if_neg (not_not.2 hs)]
    cases shown with
    | none => simp [hs]
    | some x =>
      dsimp only
      rw [Event.order_createdAt, Option.getD_some]
      split
      · rename_i hle
        simp [hs, not_lt.2 hle, eq_comm]
      · rename_i hlt
        simp [hs, not_le.1 hlt]
  · rw [if_pos hs]
    simp [hs, eq_comm]

/-- What an accepted event does. -/
theorem receiveLive_of_accepted {s : State} {e : Event} (hkind : e.kind = F.orderEventKind)
    (hpub : e.pubkey = F.mostroPubkey) :
    receiveLive F s e =
      { received := s.received.insert e
        orders :=
          if e.orderId F.parsers ≠ none ∧
              passesCurrencies (some F.currencies) (e.order F.parsers) = true then
            applyLiveOrderUpdate s.orders (e.order F.parsers)
          else s.orders } := by
  unfold receiveLive
  rw [if_neg (not_not.2 hkind), if_neg (not_not.2 hpub)]
  dsimp only
  rw [parse_one]
  by_cases h : e.orderId F.parsers ≠ none ∧
      passesCurrencies (some F.currencies) (e.order F.parsers) = true
  · rw [if_pos h, if_pos h]
  · rw [if_neg h, if_neg h]

/-- What an event that is not accepted does. -/
theorem receiveLive_of_not_accepted {s : State} {e : Event}
    (h : ¬ (e.kind = F.orderEventKind ∧ e.pubkey = F.mostroPubkey)) : receiveLive F s e = s := by
  unfold receiveLive
  split
  · rfl
  · rename_i hkind
    exact if_pos fun hpub => h ⟨not_not.1 hkind, hpub⟩

/-- The exact step lemma for an event that passes the filter. -/
theorem agrees_iff_of_passes {s : State} (hd : DistinctIds s.orders) (ha : Agrees F s) {e : Event}
    {k : Uuid} (hk : e.orderId F.parsers = some k)
    (hp : passesCurrencies (some F.currencies) (e.order F.parsers) = true) :
    Agrees F ⟨s.received.insert e, applyLiveOrderUpdate s.orders (e.order F.parsers)⟩ ↔
      (IsNewest F s.received k e ∨
        (e.order F.parsers).status ≠ some .pending ∧ entry s.orders k = none ∨
        (e.order F.parsers).status = some .pending ∧
          ∃ x, entry s.orders k = some x ∧
            (e.ts < x.createdAt.getD 0 ∨ x = e.order F.parsers)) := by
  have hid := Event.order_id hk
  have hentry := entry_eq_batchEntry hd ha k
  have hiff : Agrees F ⟨s.received.insert e, applyLiveOrderUpdate s.orders (e.order F.parsers)⟩ ↔
      liveEntry (batchEntry F s.received k) (e.order F.parsers) =
        batchEntry F (s.received.insert e) k := by
    refine agrees_iff_of_entry ha (fun k' hne => batchEntry_insert_other hk hne)
      (fun o ho => liveEntry_id (fun x hx => batchEntry_id hx) hid ho) fun o => ?_
    rw [mem_applyLiveOrderUpdate hd hid, hentry]
  rw [hiff, hentry]
  by_cases hnew : IsNewest F s.received k e
  · exact iff_of_true (liveEntry_eq_newest hk hnew hp) (.inl hnew)
  · rw [(batchEntry_insert hk).2 hnew, liveEntry_eq_self_iff, or_iff_right hnew]

/-- And for one that is filtered out. -/
theorem agrees_iff_of_filtered {s : State} (hd : DistinctIds s.orders) (ha : Agrees F s) {e : Event}
    {k : Uuid} (hk : e.orderId F.parsers = some k)
    (hp : ¬ passesCurrencies (some F.currencies) (e.order F.parsers) = true) :
    Agrees F ⟨s.received.insert e, s.orders⟩ ↔
      (IsNewest F s.received k e → entry s.orders k = none) := by
  have hentry := entry_eq_batchEntry hd ha k
  have hiff : Agrees F ⟨s.received.insert e, s.orders⟩ ↔
      batchEntry F s.received k = batchEntry F (s.received.insert e) k := by
    refine agrees_iff_of_entry ha (fun k' hne => batchEntry_insert_other hk hne)
      (fun o ho => batchEntry_id ho) fun o => ?_
    rw [← hentry, entry_eq_some_iff hd]
    by_cases hok : o.id = some k
    · simp [hok]
    · simp [hok]
  rw [hiff, hentry]
  by_cases hnew : IsNewest F s.received k e
  · have hnone : batchEntry F (s.received.insert e) k = none := by
      rw [(batchEntry_insert hk).1 hnew, Option.filter_some]
      exact if_neg (by simp [hp])
    rw [hnone]
    exact ⟨fun h _ => h, fun h => h hnew⟩
  · rw [(batchEntry_insert hk).2 hnew]
    exact iff_of_true rfl fun h => absurd h hnew

/-- The exact step lemma: from books that agree, an event leaves them in agreement exactly when it
refines them. -/
theorem agrees_receiveLive_iff {s : State} (hd : DistinctIds s.orders) (ha : Agrees F s)
    (e : Event) : Agrees F (receiveLive F s e) ↔ Refines F s e := by
  unfold Refines
  by_cases hacc : e.kind = F.orderEventKind ∧ e.pubkey = F.mostroPubkey
  · obtain ⟨hkind, hpub⟩ := hacc
    rw [receiveLive_of_accepted hkind hpub]
    simp only [hkind, hpub, true_implies]
    cases hk : e.orderId F.parsers with
    | none =>
      refine iff_of_true (fun o => ?_) fun k h => nomatch h
      have hsame : ∀ k, batchEntry F (s.received.insert e) k = batchEntry F s.received k :=
        fun k => batchEntry_insert_of_ne fun h => nomatch hk.symm.trans h
      have ho := ha o
      rw [mem_batchOrders] at ho
      rw [if_neg fun h => h.1 rfl, mem_batchOrders]
      simpa only [hsame] using ho
    | some k =>
      simp only [Option.some.injEq, forall_eq']
      by_cases hp : passesCurrencies (some F.currencies) (e.order F.parsers) = true
      · rw [if_pos ⟨Option.some_ne_none k, hp⟩, agrees_iff_of_passes hd ha hk hp]
        by_cases hnew : IsNewest F s.received k e
        · simp [hnew, hp]
        · simp [hnew, hp]
      · rw [if_neg fun h => hp h.2, agrees_iff_of_filtered hd ha hk hp]
        by_cases hnew : IsNewest F s.received k e
        · simp [hnew, hp]
        · simp [hnew, hp]
  · rw [receiveLive_of_not_accepted hacc]
    exact iff_of_true ha fun hkind hpub => absurd ⟨hkind, hpub⟩ hacc

/-! ## Runs -/

theorem distinctIds_batchOrders (received : NostrEvents) :
    DistinctIds (batchOrders F received) := by
  refine distinctIds_sortNewestFirst (List.Pairwise.filter _ ?_)
  have hid : ∀ x ∈ (aggregateLatestOrdersById F.parsers received).entries, x.2.id = some x.1 := by
    rintro ⟨k, o⟩ hmem
    have hlookup := AList.mem_lookup_iff.2 hmem
    rw [lookup_aggregate] at hlookup
    obtain ⟨e, he, rfl⟩ := Option.map_eq_some_iff.1 hlookup
    exact Event.order_id (newestEvent_mem he).2
  have hkeys := List.pairwise_map.1 (aggregateLatestOrdersById F.parsers received).nodupKeys
  refine List.pairwise_map.2 (hkeys.imp_of_mem fun {a b} ha hb hne hab => hne ?_)
  rw [hid a ha, hid b hb] at hab
  exact Option.some.inj hab

theorem distinctIds_receiveLive {s : State} (hd : DistinctIds s.orders) (e : Event) :
    DistinctIds (receiveLive F s e).orders := by
  by_cases hacc : e.kind = F.orderEventKind ∧ e.pubkey = F.mostroPubkey
  · rw [receiveLive_of_accepted hacc.1 hacc.2]
    dsimp only
    split
    · exact distinctIds_applyLiveOrderUpdate hd _
    · exact hd
  · rw [receiveLive_of_not_accepted hacc]
    exact hd

/-- Over any run of live events from any first poll, the live book agrees with the batch one all the
way exactly when every event refines it. -/
theorem live_book_refines_iff (F : Feed) (fetched live : List Event) :
    Run.Guarded (receiveLive F) (Refines F) (firstPoll F fetched) live ↔
      ∀ seen rest, live = seen ++ rest →
        Agrees F (seen.foldl (receiveLive F) (firstPoll F fetched)) := by
  have hd : DistinctIds (firstPoll F fetched).orders := distinctIds_batchOrders _
  have ha : Agrees F (firstPoll F fetched) := fun o => Iff.rfl
  have hstep : ∀ s e, DistinctIds s.orders ∧ Agrees F s →
      (DistinctIds (receiveLive F s e).orders ∧ Agrees F (receiveLive F s e) ↔ Refines F s e) := by
    rintro s e ⟨hds, has⟩
    rw [agrees_receiveLive_iff hds has]
    exact and_iff_right (distinctIds_receiveLive hds e)
  rw [Run.Guarded.iff_invariant (I := fun s : State => DistinctIds s.orders ∧ Agrees F s) hstep
    ⟨hd, ha⟩]
  refine ⟨fun h seen rest hlive => (h seen rest hlive).2, fun h seen rest hlive => ?_⟩
  refine ⟨?_, h seen rest hlive⟩
  exact Run.invariant (I := fun s : State => DistinctIds s.orders)
    (fun s e hds => distinctIds_receiveLive hds e) seen hd

end

/-! ## An older revision after a newer one -/

/-- Parsers that know one order id, one kind and the statuses `pending` and `canceled`. -/
def plainParsers : TagParsers where
  parseUuid := fun s => if s = "1" then some 1 else none
  parseKind := fun s => if s = "sell" then some .sell else none
  parseStatus := fun s =>
    if s = "pending" then some .pending else if s = "canceled" then some .canceled else none

/-- A feed of the node `mostro` without a currency filter. -/
def plainFeed : Feed where
  parsers := plainParsers
  mostroPubkey := "mostro"
  orderEventKind := 38383
  currencies := []

/-- A revision of order 1. -/
def revision (id : Nat) (createdAt : UInt64) (status : String) : Event where
  id := id
  pubkey := "mostro"
  kind := 38383
  createdAt := createdAt
  tags := [["d", "1"], ["k", "sell"], ["s", status]]

/-- An order canceled at 20 whose listing of 10 is delivered late is shown again. -/
theorem live_book_shows_canceled :
    ¬ ∀ (F : Feed) (fetched live : List Event),
      Agrees F (live.foldl (receiveLive F) (firstPoll F fetched)) := by
  intro h
  have hagrees := h plainFeed [] [revision 1 20 "canceled", revision 2 10 "pending"]
  have hmem := (hagrees ((revision 2 10 "pending").order plainParsers)).1 (by decide)
  have hnone : (revision 2 10 "pending").order plainParsers ∉
      batchOrders plainFeed (([revision 1 20 "canceled", revision 2 10 "pending"].foldl
        (receiveLive plainFeed) (firstPoll plainFeed [])).received) := by decide
  exact hnone hmem

end Mostrix.Book
