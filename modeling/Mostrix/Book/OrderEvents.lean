import Mathlib.Data.List.AList
import Mathlib.Data.List.Sort
import Mostrix.Library.SortedSet
import Mostrix.Orders.Store

/-!
# Order events and the book they make

`util/order_utils/helper.rs`: an order event carries an order in its tags; the latest revision of
each order is the newest event about it; the book shows the pending ones that pass the currency
filter. `NostrEvents` is a `BTreeSet<Event>`, sorted newest first and by event id among events of
one time, so that `aggregateLatestOrdersById`, which only replaces what is strictly older, keeps the
event with the smaller id on a tie. `lookup_aggregate` says so in one line: the latest revision of
an order is the greatest of its events, in the rank that `beats` compares.

The parsers of ids, kinds and statuses are those of `uuid` and `mostro-core`. Timestamps are `u64`s,
and the aggregation compares them as `i64`s.
-/

namespace Mostrix.Book

/-- `nostr::Event`, the parts that reach the book. The id is the 32-byte hash, of which the order of
the set compares the value. -/
structure Event where
  id : Nat
  pubkey : PublicKey
  kind : Nat
  createdAt : UInt64
  tags : List (List String)
deriving DecidableEq, Repr

/-- `Ord for Event`: newest first, then by id. -/
def Event.key (e : Event) : Lex (OrderDual Nat × Nat) :=
  toLex (OrderDual.toDual e.createdAt.toNat, e.id)

/-- `NostrEvents`. -/
abbrev NostrEvents := SortedSet Event.key

/-- The parsers of tag values that live in dependencies. -/
structure TagParsers where
  parseUuid : String → Option Uuid
  parseKind : String → Option Kind
  parseStatus : String → Option Status

/-! ## `order_from_tags` -/

/-- The value of a run of decimal digits. -/
def digitsValue (ds : List Char) : Option Int :=
  if ds ≠ [] ∧ ds.all Char.isDigit then
    some (ds.foldl (fun n d => 10 * n + ((d.toNat - '0'.toNat : Nat) : Int)) 0)
  else none

/-- `str::parse::<i64>`. -/
def parseI64 (s : String) : Option Int :=
  let value :=
    match s.toList with
    | '-' :: ds => (digitsValue ds).map (- ·)
    | '+' :: ds => digitsValue ds
    | ds => digitsValue ds
  value.filter fun n => -2 ^ 63 ≤ n ∧ n < 2 ^ 63

section
variable (P : TagParsers)

/-- One round of the loop in `order_from_tags`. -/
def applyTag (order : SmallOrder) : List String → SmallOrder
  | [] => order
  | key :: values =>
    let v := values.headD ""
    if key = "d" then { order with id := P.parseUuid v }
    else if key = "k" then { order with kind := P.parseKind v }
    else if key = "f" then { order with fiatCode := v }
    else if key = "s" then { order with status := (P.parseStatus v).or (some .pending) }
    else if key = "amt" then { order with amount := (parseI64 v).getD 0 }
    else if key = "fa" then
      if '.' ∈ v.toList then order
      else
        match values.tail.head? with
        | some maxStr => { order with minAmount := parseI64 v, maxAmount := parseI64 maxStr }
        | none => { order with fiatAmount := (parseI64 v).getD 0 }
    else if key = "pm" then { order with paymentMethod := ",".intercalate values }
    else if key = "premium" then { order with premium := (parseI64 v).getD 0 }
    else order

/-- `order_from_tags`; it has no error path. -/
def orderFromTags (tags : List (List String)) : SmallOrder := tags.foldl (applyTag P) {}

/-! ## The latest revision of each order -/

/-- `event.created_at.as_secs() as i64`. -/
def Event.ts (e : Event) : Int := asI64 e.createdAt.toNat

/-- The order of an event, dated by the event. -/
def Event.order (e : Event) : SmallOrder := { orderFromTags P e.tags with createdAt := some e.ts }

/-- The id of the order an event revises: none unless its order has an id and a kind. -/
def Event.orderId (e : Event) : Option Uuid :=
  if (orderFromTags P e.tags).kind = none then none else (orderFromTags P e.tags).id

/-- `HashMap<Uuid, SmallOrder>`. -/
abbrev LatestOrders := AList fun _ : Uuid => SmallOrder

/-- One round of the loop in `aggregate_latest_orders_by_id`. -/
def aggregateStep (latestById : LatestOrders) (event : Event) : LatestOrders :=
  let order := orderFromTags P event.tags
  match order.id with
  | none => latestById
  | some orderId =>
    if order.kind = none then latestById
    else
      let order := { order with createdAt := some event.ts }
      match latestById.lookup orderId with
      | none => latestById.insert orderId order
      | some existing =>
        let newTs := order.createdAt.getD 0
        let oldTs := existing.createdAt.getD 0
        if oldTs < newTs then latestById.insert orderId order else latestById

/-- `aggregate_latest_orders_by_id`. -/
def aggregateLatestOrdersById (events : NostrEvents) : LatestOrders :=
  events.toList.foldl (aggregateStep P) ∅

/-- `latest.values()`. -/
def LatestOrders.values (latest : LatestOrders) : List SmallOrder := latest.entries.map (·.2)

/-- The filter on currencies: an empty list, or none, lets everything through. -/
def passesCurrencies (currencies : Option (List String)) (o : SmallOrder) : Bool :=
  match currencies with
  | none => true
  | some currencies => currencies.isEmpty || currencies.contains o.fiatCode

/-- `≤` on `Option<i64>`: `None` comes first. -/
def createdLe : Option Int → Option Int → Bool
  | none, _ => true
  | some _, none => false
  | some a, some b => a ≤ b

/-- `sort_by_key(|b| Reverse(b.created_at))`. -/
def sortNewestFirst (orders : List SmallOrder) : List SmallOrder :=
  orders.insertionSort fun a b => createdLe b.createdAt a.createdAt

/-- `parse_orders_events`. -/
def parseOrdersEvents (events : NostrEvents) (currencies : Option (List String))
    (status : Option Status) (kind : Option Kind) : List SmallOrder :=
  let requested := (aggregateLatestOrdersById P events).values
    |>.filter (fun o => match status with | some s => o.status = some s | none => true)
    |>.filter (passesCurrencies currencies)
    |>.filter (fun o => match kind with | some k => o.kind = some k | none => true)
  sortNewestFirst requested

/-- `pending_orders_for_book`. -/
def pendingOrdersForBook (latest : LatestOrders) (currencies : Option (List String)) :
    List SmallOrder :=
  sortNewestFirst
    (latest.values.filter fun o => o.status = some .pending && passesCurrencies currencies o)

end

/-! ## Order events in their rank -/

/-- The times of two events are equal as `i64`s exactly when they are as `u64`s. -/
theorem Event.createdAt_eq_of_ts_eq {a b : Event} (h : a.ts = b.ts) :
    a.createdAt.toNat = b.createdAt.toNat := by
  unfold Event.ts at h
  exact asI64_inj a.createdAt.toNat_lt b.createdAt.toNat_lt h

/-- What the aggregation compares: the time, and the smaller id on a tie. -/
def Event.rank (e : Event) : Lex (Int × OrderDual Nat) := toLex (e.ts, OrderDual.toDual e.id)

/-- An event is newer than another: a later time, or the same time and a smaller id. -/
def Event.beats (e e' : Event) : Prop := e'.ts < e.ts ∨ e'.ts = e.ts ∧ e.id < e'.id

instance (e e' : Event) : Decidable (e.beats e') := by
  unfold Event.beats
  infer_instance

theorem Event.rank_lt_iff {e e' : Event} : e'.rank < e.rank ↔ e.beats e' := by
  unfold Event.rank Event.beats
  rw [Prod.Lex.toLex_lt_toLex, OrderDual.toDual_lt_toDual]

theorem Event.key_eq_of_rank_eq {a b : Event} (h : a.rank = b.rank) : a.key = b.key := by
  have hpair : (a.ts, OrderDual.toDual a.id) = (b.ts, OrderDual.toDual b.id) := h
  obtain ⟨hts, hid⟩ := Prod.mk.inj hpair
  have hid' : a.id = b.id := hid
  unfold Event.key
  rw [Event.createdAt_eq_of_ts_eq hts, hid']

/-- In the set, a tie in the time is broken as the rank breaks it. -/
theorem Event.ts_lt_or_rank_lt {a b : Event} (h : a.key < b.key) :
    a.ts < b.ts ∨ b.rank < a.rank := by
  rw [Event.rank_lt_iff]
  unfold Event.key at h
  rw [Prod.Lex.toLex_lt_toLex] at h
  rcases lt_trichotomy a.ts b.ts with hlt | heq | hgt
  · exact .inl hlt
  · refine .inr (.inr ⟨heq.symm, ?_⟩)
    rcases h with hne | ⟨-, hid⟩
    · exact absurd (Event.createdAt_eq_of_ts_eq heq).symm (ne_of_lt hne)
    · exact hid
  · exact .inr (.inl hgt)

/-- The events of a set differ in rank. -/
theorem rank_injOn (events : NostrEvents) {a b : Event} (ha : a ∈ events) (hb : b ∈ events)
    (h : a.rank = b.rank) : a = b :=
  events.eq_of_key_eq ha hb (Event.key_eq_of_rank_eq h)

/-! ## The newest event about something

`about` says which order, or which dispute, an event is a revision of. -/

section
variable (about : Event → Option Uuid)

/-- The newest event of a set about `k`. -/
def newestAbout (events : NostrEvents) (k : Uuid) : Option Event :=
  (events.toList.filter fun e => about e = some k).firstMax Event.ts

/-- The event is the newest received about `k`, itself included. -/
def IsNewestAbout (received : NostrEvents) (k : Uuid) (e : Event) : Prop :=
  ∀ b ∈ received, b.key ≠ e.key ∧ (about b = some k → e.beats b)

/-- A round of an aggregation that keeps the newest revision of everything: a value is replaced by a
strictly newer one. -/
def latestStep {β : Type} (value : Event → β) (stamp : β → Int) (latest : AList fun _ : Uuid => β)
    (e : Event) : AList fun _ : Uuid => β :=
  match about e with
  | none => latest
  | some k =>
    match latest.lookup k with
    | none => latest.insert k (value e)
    | some existing => if stamp existing < e.ts then latest.insert k (value e) else latest

variable {about}

/-- What one round leaves about `k`. -/
theorem lookup_latestStep {β : Type} {value : Event → β} {stamp : β → Int}
    (latest : AList fun _ : Uuid => β) (e : Event) (k : Uuid) :
    (latestStep about value stamp latest e).lookup k =
      if about e = some k then
        match latest.lookup k with
        | none => some (value e)
        | some existing => if stamp existing < e.ts then some (value e) else some existing
      else latest.lookup k := by
  unfold latestStep
  cases hid : about e with
  | none => simp
  | some i =>
    by_cases hk : i = k
    · subst hk
      cases hl : latest.lookup i with
      | none => simp [hl]
      | some existing => by_cases hts : stamp existing < e.ts <;> simp [hts, hl]
    · have hk' : k ≠ i := Ne.symm hk
      rw [if_neg fun h => hk (Option.some.inj h)]
      dsimp only
      split
      · exact AList.lookup_insert_ne hk'
      · split
        · exact AList.lookup_insert_ne hk'
        · rfl

/-- Such an aggregation keeps the value of the newest event. -/
theorem lookup_foldl_latestStep {β : Type} (value : Event → β) (stamp : β → Int)
    (hstamp : ∀ e, stamp (value e) = e.ts) (events : NostrEvents) (k : Uuid) :
    (events.toList.foldl (latestStep about value stamp) ∅).lookup k =
      (newestAbout about events k).map value := by
  unfold newestAbout
  induction events.toList using List.reverseRecOn with
  | nil => rfl
  | append_singleton l e ih =>
    rw [List.foldl_append, List.foldl_cons, List.foldl_nil, lookup_latestStep, ih,
      List.filter_append]
    by_cases hk : about e = some k
    · rw [if_pos hk, List.filter_cons_of_pos (by simpa using hk), List.filter_nil,
        List.firstMax_concat]
      cases (l.filter fun e => about e = some k).firstMax Event.ts with
      | none => rfl
      | some c =>
        dsimp only [Option.map_some]
        rw [hstamp]
        split
        · rfl
        · rfl
    · rw [if_neg hk, List.filter_cons_of_neg (by simpa using hk), List.filter_nil, List.append_nil]

/-- The newest event is the greatest in the rank. -/
theorem newestAbout_eq_firstMax_rank (events : NostrEvents) (k : Uuid) :
    newestAbout about events k = (events.toList.filter fun e => about e = some k).firstMax Event.rank :=
  List.firstMax_eq_of_tiebreak (fun _ _ h => Event.rank_lt_iff.2 (.inl h))
    ((events.sorted.imp Event.ts_lt_or_rank_lt).filter _)

/-- The newest event about `k` is in the set and about `k`. -/
theorem newestAbout_mem {events : NostrEvents} {k : Uuid} {e : Event}
    (h : newestAbout about events k = some e) : e ∈ events ∧ about e = some k := by
  have hmem := List.argmax_mem h
  rw [List.mem_filter] at hmem
  exact ⟨hmem.1, by simpa using hmem.2⟩

/-- An event about something else, or with the key of a received one, changes no newest one. -/
theorem newestAbout_insert_of_ne {events : NostrEvents} {e : Event} {k : Uuid}
    (h : about e ≠ some k ∨ ∃ b ∈ events, b.key = e.key) :
    newestAbout about (events.insert e) k = newestAbout about events k := by
  rw [newestAbout_eq_firstMax_rank, newestAbout_eq_firstMax_rank]
  refine List.firstMax_congr_of_mem (fun a ha b hb hab => ?_) fun a => ?_
  · exact rank_injOn events (List.mem_filter.1 ha).1 (List.mem_filter.1 hb).1 hab
  · rw [List.mem_filter, List.mem_filter, SortedSet.mem_toList, SortedSet.mem_toList,
      SortedSet.mem_insert, or_and_right]
    refine or_iff_left ?_
    rintro ⟨⟨rfl, hfree⟩, hk⟩
    rcases h with hne | ⟨b, hb, hkey⟩
    · exact hne (by simpa using hk)
    · exact hfree b hb hkey

/-- A new event about `k` is its newest when it beats the one before. -/
theorem newestAbout_insert {events : NostrEvents} {e : Event} {k : Uuid}
    (hk : about e = some k) (hnew : ∀ b ∈ events, b.key ≠ e.key) :
    newestAbout about (events.insert e) k =
      match newestAbout about events k with
      | none => some e
      | some c => if e.beats c then some e else some c := by
  rw [newestAbout_eq_firstMax_rank, newestAbout_eq_firstMax_rank,
    List.firstMax_of_mem_cons (l := events.toList.filter fun e => about e = some k) (e := e)]
  · cases (events.toList.filter fun e => about e = some k).firstMax Event.rank with
    | none => rfl
    | some c => simp only [Event.rank_lt_iff]
  · intro a ha b hb hab
    exact rank_injOn (events.insert e) (List.mem_filter.1 ha).1 (List.mem_filter.1 hb).1 hab
  · intro a
    rw [List.mem_filter, List.mem_filter, SortedSet.mem_toList, SortedSet.mem_toList,
      SortedSet.mem_insert, or_and_right]
    refine or_congr_right ⟨fun h => h.1.1, ?_⟩
    rintro rfl
    exact ⟨⟨rfl, hnew⟩, by simpa using hk⟩

/-- An event that is the newest about `k` is its latest revision. -/
theorem newestAbout_of_isNewest {received : NostrEvents} {k : Uuid} {e : Event}
    (hk : about e = some k) (h : IsNewestAbout about received k e) :
    newestAbout about (received.insert e) k = some e := by
  rw [newestAbout_insert hk fun b hb => (h b hb).1]
  cases hc : newestAbout about received k with
  | none => rfl
  | some c =>
    obtain ⟨hmem, hck⟩ := newestAbout_mem hc
    exact if_pos ((h c hmem).2 hck)

/-- Any other leaves the latest revision as it is. -/
theorem newestAbout_of_not_isNewest {received : NostrEvents} {k : Uuid} {e : Event}
    (hk : about e = some k) (h : ¬ IsNewestAbout about received k e) :
    newestAbout about (received.insert e) k = newestAbout about received k := by
  by_cases hkey : ∃ b ∈ received, b.key = e.key
  · exact newestAbout_insert_of_ne (.inr hkey)
  · have hnew : ∀ b ∈ received, b.key ≠ e.key := fun b hb hbe => hkey ⟨b, hb, hbe⟩
    obtain ⟨b, hb, hbk, hbeats⟩ : ∃ b ∈ received, about b = some k ∧ ¬ e.beats b := by
      by_contra hall
      refine h fun b hb => ⟨hnew b hb, fun hbk => ?_⟩
      by_contra hbeats
      exact hall ⟨b, hb, hbk, hbeats⟩
    have hbf : b ∈ received.toList.filter fun e => about e = some k :=
      List.mem_filter.2 ⟨hb, by simpa using hbk⟩
    rw [newestAbout_insert hk hnew]
    cases hc : newestAbout about received k with
    | none =>
      rw [List.argmax_eq_none.1 hc] at hbf
      cases hbf
    | some c =>
      rw [newestAbout_eq_firstMax_rank] at hc
      have hle : b.rank ≤ c.rank := List.le_of_mem_argmax hbf hc
      refine if_neg fun hec => hbeats ?_
      exact Event.rank_lt_iff.1 (hle.trans_lt (Event.rank_lt_iff.2 hec))

end

/-! ## The newest event about an order -/

section
variable (P : TagParsers)

/-- The newest event of a set about an order. -/
def newestEvent (events : NostrEvents) (k : Uuid) : Option Event :=
  (events.toList.filter fun e => e.orderId P = some k).firstMax Event.ts

variable {P}

@[simp] theorem Event.order_createdAt (e : Event) : (e.order P).createdAt = some e.ts := rfl

/-- One round of the aggregation, by the order the event revises. -/
theorem aggregateStep_eq (latestById : LatestOrders) (e : Event) :
    aggregateStep P latestById e =
      latestStep (Event.orderId P) (Event.order P) (fun o => o.createdAt.getD 0) latestById e := by
  unfold aggregateStep latestStep Event.orderId
  cases hid : (orderFromTags P e.tags).id with
  | none => simp only [hid, ite_self]
  | some orderId =>
    by_cases hkind : (orderFromTags P e.tags).kind = none
    · simp only [hid, hkind, if_true]
    · cases hl : latestById.lookup orderId with
      | none => simp only [hid, hkind, if_false, hl, Event.order]
      | some existing =>
        simp only [hid, hkind, if_false, hl, Event.order]
        rw [Option.getD_some]

/-- The aggregation keeps the order of the newest event about each order. -/
theorem lookup_aggregate (events : NostrEvents) (k : Uuid) :
    (aggregateLatestOrdersById P events).lookup k =
      (newestEvent P events k).map (Event.order P) := by
  have hstep : aggregateStep P =
      latestStep (Event.orderId P) (Event.order P) fun o => o.createdAt.getD 0 := by
    funext latestById e
    exact aggregateStep_eq latestById e
  have hstamp : ∀ e : Event, (e.order P).createdAt.getD 0 = e.ts := fun e => by
    rw [Event.order_createdAt, Option.getD_some]
  rw [aggregateLatestOrdersById, hstep]
  exact lookup_foldl_latestStep (Event.order P) (fun o => o.createdAt.getD 0) hstamp events k

/-- The newest event about an order is in the set and revises that order. -/
theorem newestEvent_mem {events : NostrEvents} {k : Uuid} {e : Event}
    (h : newestEvent P events k = some e) : e ∈ events ∧ e.orderId P = some k :=
  newestAbout_mem h

/-- An event about another order changes no order's newest. -/
theorem newestEvent_insert_of_ne {events : NostrEvents} {e : Event} {k : Uuid}
    (h : e.orderId P ≠ some k) :
    newestEvent P (events.insert e) k = newestEvent P events k :=
  newestAbout_insert_of_ne (.inl h)

/-- The order of an event that revises `k` has the id `k`. -/
theorem Event.order_id {e : Event} {k : Uuid} (h : e.orderId P = some k) :
    (e.order P).id = some k := by
  unfold Event.orderId at h
  split at h
  · cases h
  · exact h

end

end Mostrix.Book
