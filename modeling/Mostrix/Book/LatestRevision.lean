import Mostrix.Library.MaxByKey
import Mostrix.Disputes.Live

/-!
# The latest revision, in bulk and by id

`util/order_utils/helper.rs` selects the latest revision of an order, or of a dispute, twice. The
bulk path (`aggregate_latest_orders_by_id`, `parse_disputes_events`) goes over the whole set, leaves
out what does not parse and keeps the first of the newest. The targeted one
(`fetch_small_order_by_id_from_relay`, `fetch_dispute_by_id_from_relay`) takes the last of the
newest, parsed or not, and parses it then. The set has the events of one time in the order of their
ids, so the two differ on a tie, and on a newest event that does not parse.

`selectors_agree_iff` says when both yield the same status, and `latestAgree_of_unique` that they do
where the newest time has one event and that event parses.
-/

namespace Mostrix.Book

open Disputes (Dispute disputeFromTags eventDispute eventDisputeId parseDisputesEvents
  entry_parseDisputesEvents)

section
variable (P : TagParsers)

/-- `filter(|e| e.pubkey == mostro_pubkey)`. -/
def authoredBy (mostroPubkey : PublicKey) (events : NostrEvents) : NostrEvents :=
  ⟨events.toList.filter (·.pubkey = mostroPubkey), events.sorted.filter _⟩

/-- The last of the newest events: `max_by_key(|e| e.created_at)`. -/
def lastNewest (events : NostrEvents) : Option Event :=
  events.toList.maxByKey fun e => e.createdAt.toNat

/-- `fetch_small_order_by_id_from_relay`, from the events fetched on. -/
def fetchSmallOrderById (mostroPubkey : PublicKey) (events : NostrEvents) : Option SmallOrder :=
  (lastNewest (authoredBy mostroPubkey events)).map fun best => orderFromTags P best.tags

/-- `fetch_dispute_by_id_from_relay`, from the events fetched on. -/
def fetchDisputeById (mostroPubkey : PublicKey) (events : NostrEvents) :
    Except String (Option Dispute) :=
  match lastNewest (authoredBy mostroPubkey events) with
  | none => .ok none
  | some best =>
    match disputeFromTags P best.tags with
    | .ok dispute =>
      .ok (some (if dispute.createdAt ≤ 0 then { dispute with createdAt := best.ts } else dispute))
    | .error e => .error e

/-- The status the bulk path finds for an order. -/
def bulkOrderStatus (mostroPubkey : PublicKey) (events : NostrEvents) (k : Uuid) : Option Status :=
  ((aggregateLatestOrdersById P (authoredBy mostroPubkey events)).lookup k).bind (·.status)

/-- The status the targeted path finds for an order. -/
def targetedOrderStatus (mostroPubkey : PublicKey) (events : NostrEvents) : Option Status :=
  (fetchSmallOrderById P mostroPubkey events).bind (·.status)

/-- The status the bulk path finds for a dispute. -/
def bulkDisputeStatus (mostroPubkey : PublicKey) (events : NostrEvents) (k : Uuid) :
    Option String :=
  (Disputes.entry (parseDisputesEvents P (authoredBy mostroPubkey events)) k).map (·.status)

/-- The status the targeted path finds for a dispute; a parse error gives none. -/
def targetedDisputeStatus (mostroPubkey : PublicKey) (events : NostrEvents) : Option String :=
  match fetchDisputeById P mostroPubkey events with
  | .ok dispute => dispute.map (·.status)
  | .error _ => none

/-- The status an event shows for its order. -/
def Event.orderStatus (e : Event) : Option Status := (orderFromTags P e.tags).status

/-- The status an event shows for its dispute: none where it does not parse. -/
def Event.disputeStatus (e : Event) : Option String := (eventDispute P e).map (·.status)

end

/-! ## The two picks -/

/-- The event is the last of the newest: no other is newer, and of those of its time it has the
greatest id. -/
def IsLastNewest (events : NostrEvents) (e : Event) : Prop :=
  e ∈ events ∧ ∀ b ∈ events, b = e ∨ b.createdAt.toNat < e.createdAt.toNat ∨
    b.createdAt.toNat = e.createdAt.toNat ∧ b.id < e.id

/-- The event is the first of the newest that revise `k`: no other of these is newer, and of those
of its time it has the smallest id. -/
def IsFirstNewest (about : Event → Option Uuid) (events : NostrEvents) (k : Uuid) (e : Event) :
    Prop :=
  e ∈ events ∧ about e = some k ∧ ∀ b ∈ events, about b = some k → b = e ∨ e.beats b

/-- What the last of the newest events shows is what the first of the newest that revise `k` shows,
or nothing where none revises `k`. -/
def LatestAgree {β : Type} (about : Event → Option Uuid) (status : Event → Option β)
    (events : NostrEvents) (k : Uuid) : Prop :=
  ∀ last, IsLastNewest events last →
    (∀ first, IsFirstNewest about events k first → status first = status last) ∧
      ((∀ first, ¬ IsFirstNewest about events k first) → status last = none)

section
variable {about : Event → Option Uuid} {events : NostrEvents} {k : Uuid}

/-- The targeted path picks the last of the newest. -/
theorem lastNewest_spec {e : Event} (h : lastNewest events = some e) : IsLastNewest events e := by
  obtain ⟨l₁, l₂, hl, hle, hlt⟩ := List.maxByKey_last h
  have hsorted := events.sorted
  rw [hl] at hsorted
  have hbefore : ∀ b ∈ l₁, b.key < e.key := fun b hb =>
    (List.pairwise_append.1 hsorted).2.2 b hb e List.mem_cons_self
  refine ⟨?_, fun b hb => ?_⟩
  · rw [← SortedSet.mem_toList, hl]
    exact List.mem_append_right _ List.mem_cons_self
  · rw [← SortedSet.mem_toList, hl, List.mem_append, List.mem_cons] at hb
    rcases hb with hb | rfl | hb
    · -- before the pick: not newer, and of its time only with a smaller id
      have hkey := hbefore b hb
      unfold Event.key at hkey
      rw [Prod.Lex.toLex_lt_toLex] at hkey
      rcases hkey with hnewer | ⟨htime, hid⟩
      · exact absurd (hle b hb) (not_le.2 (OrderDual.toDual_lt_toDual.1 hnewer))
      · exact .inr (.inr ⟨OrderDual.toDual_inj.1 htime, hid⟩)
    · exact .inl rfl
    · exact .inr (.inl (hlt b hb))

/-- There is one last of the newest. -/
theorem isLastNewest_unique {e e' : Event} (h : IsLastNewest events e)
    (h' : IsLastNewest events e') : e = e' := by
  rcases h'.2 e h.1 with heq | hlt | ⟨hts, hid⟩
  · exact heq
  · rcases h.2 e' h'.1 with heq | hlt' | ⟨hts', -⟩
    · exact heq.symm
    · omega
    · omega
  · rcases h.2 e' h'.1 with heq | hlt' | ⟨-, hid'⟩
    · exact heq.symm
    · omega
    · omega

/-- The bulk path picks the first of the newest that revise `k`. -/
theorem newestAbout_eq_some_iff {e : Event} :
    newestAbout about events k = some e ↔ IsFirstNewest about events k e := by
  have hmem : ∀ b, b ∈ events.toList.filter (fun e => about e = some k) ↔
      b ∈ events ∧ about b = some k := fun b => by
    rw [List.mem_filter, SortedSet.mem_toList, decide_eq_true_eq]
  rw [newestAbout_eq_firstMax_rank, List.firstMax_eq_some_iff_of_injOn, hmem, and_assoc]
  · refine and_congr_right fun he => and_congr_right fun _ => ?_
    simp only [hmem, and_imp]
    refine forall_congr' fun b => forall_congr' fun hb => forall_congr' fun _ => ?_
    rw [le_iff_lt_or_eq, Event.rank_lt_iff, or_comm]
    refine or_congr_left ⟨fun h => rank_injOn events hb he h, ?_⟩
    rintro rfl
    rfl
  · intro a ha b hb hab
    exact rank_injOn events ((hmem a).1 ha).1 ((hmem b).1 hb).1 hab

/-- Both picks show the same exactly when they agree on what they show. -/
theorem picks_agree_iff {β : Type} (status : Event → Option β) :
    (newestAbout about events k).bind status = (lastNewest events).bind status ↔
      LatestAgree about status events k := by
  cases hlast : lastNewest events with
  | none =>
    have hnil : events.toList = [] := List.maxByKey_eq_none_iff.1 hlast
    have hnone : newestAbout about events k = none := by
      unfold newestAbout
      rw [hnil]
      rfl
    rw [hnone]
    refine ⟨fun _ last h => ?_, fun _ => rfl⟩
    have hmem := SortedSet.mem_toList.2 h.1
    rw [hnil] at hmem
    cases hmem
  | some last =>
    have hspec := lastNewest_spec hlast
    have hagree : LatestAgree about status events k ↔
        (∀ first, IsFirstNewest about events k first → status first = status last) ∧
          ((∀ first, ¬ IsFirstNewest about events k first) → status last = none) := by
      refine ⟨fun h => h last hspec, fun h last' h' => ?_⟩
      obtain rfl := isLastNewest_unique hspec h'
      exact h
    rw [hagree]
    simp only [← newestAbout_eq_some_iff]
    cases newestAbout about events k with
    | none => simp [eq_comm]
    | some first => simp

/-- The bulk path finds what the first of the newest shows. -/
theorem bulkOrderStatus_eq (P : TagParsers) (mostroPubkey : PublicKey) (events : NostrEvents)
    (k : Uuid) : bulkOrderStatus P mostroPubkey events k =
      (newestAbout (Event.orderId P) (authoredBy mostroPubkey events) k).bind
        (Event.orderStatus P) := by
  have hlookup : (aggregateLatestOrdersById P (authoredBy mostroPubkey events)).lookup k =
      (newestAbout (Event.orderId P) (authoredBy mostroPubkey events) k).map (Event.order P) :=
    lookup_aggregate (authoredBy mostroPubkey events) k
  rw [bulkOrderStatus, hlookup]
  cases newestAbout (Event.orderId P) (authoredBy mostroPubkey events) k <;> rfl

/-- So it does for disputes. -/
theorem bulkDisputeStatus_eq (P : TagParsers) (mostroPubkey : PublicKey) (events : NostrEvents)
    (k : Uuid) : bulkDisputeStatus P mostroPubkey events k =
      (newestAbout (eventDisputeId P) (authoredBy mostroPubkey events) k).bind
        (Event.disputeStatus P) := by
  rw [bulkDisputeStatus, entry_parseDisputesEvents, Option.map_bind]
  rfl

/-- The targeted path finds what the last of the newest shows. -/
theorem targetedOrderStatus_eq (P : TagParsers) (mostroPubkey : PublicKey) (events : NostrEvents) :
    targetedOrderStatus P mostroPubkey events =
      (lastNewest (authoredBy mostroPubkey events)).bind (Event.orderStatus P) := by
  unfold targetedOrderStatus fetchSmallOrderById
  cases lastNewest (authoredBy mostroPubkey events) <;> rfl

/-- So it does for disputes. -/
theorem targetedDisputeStatus_eq (P : TagParsers) (mostroPubkey : PublicKey)
    (events : NostrEvents) :
    targetedDisputeStatus P mostroPubkey events =
      (lastNewest (authoredBy mostroPubkey events)).bind (Event.disputeStatus P) := by
  unfold targetedDisputeStatus fetchDisputeById Event.disputeStatus eventDispute
  cases lastNewest (authoredBy mostroPubkey events) with
  | none => rfl
  | some best =>
    cases hd : disputeFromTags P best.tags with
    | error e => simp [hd]
    | ok dispute => simp [hd]

/-- A newest event that is alone at its time and parses is both picks. -/
theorem latestAgree_of_unique {β : Type} (status : Event → Option β) {e : Event}
    (he : e ∈ events) (hk : about e = some k)
    (hnewest : ∀ b ∈ events, b = e ∨ b.createdAt.toNat < e.createdAt.toNat ∧ b.ts < e.ts) :
    LatestAgree about status events k := by
  have hlast : IsLastNewest events e :=
    ⟨he, fun b hb => (hnewest b hb).imp_right fun h => .inl h.1⟩
  have hfirst : IsFirstNewest about events k e :=
    ⟨he, hk, fun b hb _ => (hnewest b hb).imp_right fun h => .inl h.2⟩
  rintro last hl
  obtain rfl := isLastNewest_unique hlast hl
  refine ⟨fun first hf => ?_, fun hno => absurd hfirst (hno _)⟩
  have heq : some first = some e :=
    (newestAbout_eq_some_iff.2 hf).symm.trans (newestAbout_eq_some_iff.2 hfirst)
  rw [Option.some.inj heq]

/-- The two selectors of an order, and those of a dispute, yield one status exactly when the last of
the newest events shows what the first of the newest that revise it shows. -/
theorem selectors_agree_iff (P : TagParsers) (mostroPubkey : PublicKey) (events : NostrEvents)
    (k : Uuid) :
    (bulkOrderStatus P mostroPubkey events k = targetedOrderStatus P mostroPubkey events ↔
      LatestAgree (Event.orderId P) (Event.orderStatus P) (authoredBy mostroPubkey events) k) ∧
    (bulkDisputeStatus P mostroPubkey events k = targetedDisputeStatus P mostroPubkey events ↔
      LatestAgree (eventDisputeId P) (Event.disputeStatus P) (authoredBy mostroPubkey events)
        k) := by
  refine ⟨?_, ?_⟩
  · rw [bulkOrderStatus_eq, targetedOrderStatus_eq]
    exact picks_agree_iff _
  · rw [bulkDisputeStatus_eq, targetedDisputeStatus_eq]
    exact picks_agree_iff _

end

/-- Two revisions of one second: the bulk path finds the one with the smaller id, the targeted path
the other. -/
theorem tied_revisions_differ :
    let parsers : TagParsers :=
      { parseUuid := fun _ => some 1
        parseKind := fun _ => some .buy
        parseStatus := fun s => if s = "success" then some .success else some .canceled }
    let revision (id : Nat) (status : String) : Event :=
      { id, pubkey := "mostro", kind := 38383, createdAt := 100
        tags := [["d", "1"], ["k", "buy"], ["s", status]] }
    let events : NostrEvents :=
      SortedSet.ofList Event.key [revision 1 "success", revision 2 "canceled"]
    bulkOrderStatus parsers "mostro" events 1 = some .success ∧
      targetedOrderStatus parsers "mostro" events = some .canceled := by
  intro parsers revision events
  have hlist : (authoredBy "mostro" events).toList =
      [revision 1 "success", revision 2 "canceled"] := by decide
  refine ⟨?_, ?_⟩
  · rw [bulkOrderStatus, aggregateLatestOrdersById, hlist]
    decide
  · rw [targetedOrderStatus, fetchSmallOrderById, lastNewest, hlist]
    decide

end Mostrix.Book
