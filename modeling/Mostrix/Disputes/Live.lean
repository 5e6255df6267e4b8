import Mostrix.Library.KeyedList
import Mostrix.Library.Run
import Mostrix.Book.OrderEvents
import Mostrix.Disputes.AdminDispute

/-!
# The dispute list

`util/order_utils/helper.rs` and `fetch_scheduler.rs`: a dispute event carries a dispute in its
tags. The list the admin sees starts as the batch one, made from the latest revision of each
dispute, and each event that arrives is folded into it by `applyLiveDisputeUpdateInner`. The time
that decides which revision is the latest is the event's, while the dispute's `created_at` is the
time it was opened, so the list itself does not know how new its entries are, and the live path
replaces an entry whatever the event's time.

`agrees_receive_iff` is the step lemma: from a list that agrees with the batch one, an event leaves
the two in agreement exactly when it is the newest about its dispute or changes nothing.
`live_disputes_refine_iff` lifts that to runs.
-/

namespace Mostrix.Disputes

open Book (Event NostrEvents TagParsers parseI64 newestAbout IsNewestAbout latestStep)

/-! ## `parse_disputes_events` -/

section
variable (P : TagParsers)

/-- One round of the loop in `dispute_from_tags`. A tag without a value is skipped. -/
def applyDisputeTag (dispute : Dispute) : List String → Except String Dispute
  | key :: value :: _ =>
    if key = "d" then
      match P.parseUuid value with
      | some id => .ok { dispute with id := id }
      | none => .error "Invalid dispute id"
    else if key = "s" then
      match DisputeStatus.fromStr value with
      | some status => .ok { dispute with status := status.text }
      | none => .error "Invalid dispute status"
    else if key = "created_at" then
      match parseI64 value with
      | some ts => if 0 < ts then .ok { dispute with createdAt := ts } else .ok dispute
      | none => .ok dispute
    else .ok dispute
  | _ => .ok dispute

/-- `dispute_from_tags`. -/
def disputeFromTags (tags : List (List String)) : Except String Dispute :=
  tags.foldlM (applyDisputeTag P) {}

/-- The dispute an event shows: opened when its tag says, or else when the event was published. -/
def eventDispute (e : Event) : Option Dispute :=
  match disputeFromTags P e.tags with
  | .ok dispute => some (if dispute.createdAt ≤ 0 then { dispute with createdAt := e.ts } else dispute)
  | .error _ => none

/-- The dispute an event is a revision of. -/
def eventDisputeId (e : Event) : Option Uuid := (eventDispute P e).map (·.id)

/-- One round of the loop in `parse_disputes_events`: the map holds the publishing time of the
revision beside it. -/
def keepLatestDispute (latestById : AList fun _ : Uuid => Int × Dispute) (event : Event) :
    AList fun _ : Uuid => Int × Dispute :=
  match eventDispute P event with
  | none => latestById
  | some dispute =>
    let publishedAt := event.ts
    match latestById.lookup dispute.id with
    | some (existingPublishedAt, _) =>
      if existingPublishedAt < publishedAt then latestById.insert dispute.id (publishedAt, dispute)
      else latestById
    | none => latestById.insert dispute.id (publishedAt, dispute)

/-- `sort_by_key(|b| Reverse(b.created_at))`. -/
def sortByOpened (disputes : List Dispute) : List Dispute :=
  disputes.insertionSort fun a b => decide (b.createdAt ≤ a.createdAt)

/-- `parse_disputes_events`. -/
def parseDisputesEvents (events : NostrEvents) : List Dispute :=
  let latestById := events.toList.foldl (keepLatestDispute P) ∅
  sortByOpened (latestById.entries.map (·.2.2))

end

/-! ## The live list -/

/-- The list shown, and the events it was made from. -/
structure DisputeList where
  received : NostrEvents
  disputes : List Dispute

/-- The dispute of the list with an id. -/
abbrev entry (disputes : List Dispute) (k : Uuid) : Option Dispute :=
  KeyedList.entry Dispute.id disputes k

/-- `apply_live_dispute_update_inner`. -/
def applyLiveDisputeUpdateInner (disputes : List Dispute) (dispute : Dispute) : List Dispute :=
  sortByOpened (KeyedList.upsert Dispute.id disputes dispute)

section
variable (P : TagParsers)

/-- One live event: parsed as a batch of one, and its dispute folded into the list. -/
def receive (s : DisputeList) (event : Event) : DisputeList where
  received := s.received.insert event
  disputes :=
    match (parseDisputesEvents P (SortedSet.empty.insert event)).getLast? with
    | some dispute => applyLiveDisputeUpdateInner s.disputes dispute
    | none => s.disputes

/-- The list a poll leaves. -/
def polled (fetched : List Event) : DisputeList :=
  let received := SortedSet.ofList Event.key fetched
  { received := received, disputes := parseDisputesEvents P received }

/-- The live list has the batch one's disputes. -/
def Agrees (s : DisputeList) : Prop :=
  ∀ k, entry s.disputes k = entry (parseDisputesEvents P s.received) k

/-- The condition on an event: it shows no dispute, or it is the newest received about its dispute,
or the list holds the same data already. -/
def Refines (s : DisputeList) (e : Event) : Prop :=
  ∀ dispute, eventDispute P e = some dispute →
    IsNewestAbout (eventDisputeId P) s.received dispute.id e ∨
      entry s.disputes dispute.id = some dispute

/-! ## The batch list, dispute by dispute -/

variable {P}

/-- A round of the batch keeps the newest revision of everything. -/
theorem keepLatestDispute_eq (latestById : AList fun _ : Uuid => Int × Dispute) (e : Event) :
    keepLatestDispute P latestById e =
      latestStep (eventDisputeId P) (fun e => (e.ts, (eventDispute P e).getD {})) (·.1) latestById
        e := by
  unfold keepLatestDispute latestStep eventDisputeId
  cases hd : eventDispute P e with
  | none => rfl
  | some dispute =>
    cases hl : latestById.lookup dispute.id with
    | none => simp only [hl, hd, Option.map_some, Option.getD_some]
    | some existing => simp only [hl, hd, Option.map_some, Option.getD_some]

/-- What the batch map holds of a dispute: its newest revision. -/
theorem lookup_keepLatestDispute (events : NostrEvents) (k : Uuid) :
    (events.toList.foldl (keepLatestDispute P) ∅).lookup k =
      (newestAbout (eventDisputeId P) events k).map
        fun e => (e.ts, (eventDispute P e).getD {}) := by
  have hstep : keepLatestDispute P =
      latestStep (eventDisputeId P) (fun e => (e.ts, (eventDispute P e).getD {})) (·.1) := by
    funext latestById e
    exact keepLatestDispute_eq latestById e
  rw [hstep]
  exact Book.lookup_foldl_latestStep _ _ (fun _ => by dsimp only) events k

/-- A dispute event's dispute has the id it is about. -/
theorem eventDispute_id {e : Event} {k : Uuid} (h : eventDisputeId P e = some k) :
    ∃ dispute, eventDispute P e = some dispute ∧ dispute.id = k := Option.map_eq_some_iff.1 h

/-- The disputes of the batch list before sorting. -/
def batchValues (P : TagParsers) (events : NostrEvents) : List Dispute :=
  (events.toList.foldl (keepLatestDispute P) ∅).entries.map (·.2.2)

/-- They are the newest revisions. -/
theorem mem_batchValues {events : NostrEvents} {dispute : Dispute} :
    dispute ∈ batchValues P events ↔
      ∃ e, newestAbout (eventDisputeId P) events dispute.id = some e ∧
        eventDispute P e = some dispute := by
  unfold batchValues
  rw [List.mem_map]
  refine ⟨?_, ?_⟩
  · rintro ⟨⟨k, v⟩, hmem, rfl⟩
    have hl := AList.mem_lookup_iff.2 hmem
    rw [lookup_keepLatestDispute] at hl
    obtain ⟨e, he, rfl⟩ := Option.map_eq_some_iff.1 hl
    obtain ⟨dispute, hd, rfl⟩ := eventDispute_id (Book.newestAbout_mem he).2
    refine ⟨e, ?_, ?_⟩
    · simpa [hd] using he
    · simp [hd]
  · rintro ⟨e, he, hd⟩
    refine ⟨⟨dispute.id, (e.ts, dispute)⟩, AList.mem_lookup_iff.1 ?_, rfl⟩
    rw [lookup_keepLatestDispute, he, Option.map_some, hd, Option.getD_some]
    rfl

/-- One for each dispute. -/
theorem distinct_batchValues (events : NostrEvents) :
    KeyedList.Distinct Dispute.id (batchValues P events) := by
  have hkeys : ∀ x ∈ (events.toList.foldl (keepLatestDispute P) ∅).entries, x.2.2.id = x.1 := by
    rintro ⟨k, v⟩ hmem
    have hl := AList.mem_lookup_iff.2 hmem
    rw [lookup_keepLatestDispute] at hl
    obtain ⟨e, he, rfl⟩ := Option.map_eq_some_iff.1 hl
    obtain ⟨dispute, hd, rfl⟩ := eventDispute_id (Book.newestAbout_mem he).2
    simp [hd]
  rw [KeyedList.distinct_iff_nodup, batchValues, List.map_map,
    List.map_congr_left (g := fun x => x.1) hkeys]
  exact (events.toList.foldl (keepLatestDispute P) ∅).nodupKeys

/-- The batch list shows the newest revision of each dispute. -/
theorem entry_parseDisputesEvents (events : NostrEvents) (k : Uuid) :
    entry (parseDisputesEvents P events) k =
      (newestAbout (eventDisputeId P) events k).bind (eventDispute P) := by
  have hperm : (batchValues P events).Perm (parseDisputesEvents P events) :=
    (List.perm_insertionSort _ _).symm
  have hd := distinct_batchValues (P := P) events
  rw [entry, ← KeyedList.entry_perm hd hperm]
  refine Option.ext fun dispute => ?_
  rw [KeyedList.entry_eq_some_iff hd, mem_batchValues, Option.bind_eq_some_iff]
  refine ⟨?_, ?_⟩
  · rintro ⟨⟨e, he, hdispute⟩, rfl⟩
    exact ⟨e, he, hdispute⟩
  · rintro ⟨e, he, hdispute⟩
    obtain ⟨dispute', hd', rfl⟩ := eventDispute_id (Book.newestAbout_mem he).2
    obtain rfl := Option.some.inj (hd'.symm.trans hdispute)
    exact ⟨⟨e, he, hdispute⟩, rfl⟩

theorem distinct_parseDisputesEvents (events : NostrEvents) :
    KeyedList.Distinct Dispute.id (parseDisputesEvents P events) :=
  KeyedList.distinct_perm (distinct_batchValues events) (List.perm_insertionSort _ _).symm

/-- The batch of one event shows its dispute. -/
theorem parse_one (e : Event) :
    (parseDisputesEvents P (SortedSet.empty.insert e)).getLast? = eventDispute P e := by
  have hfold : (SortedSet.empty.insert e : NostrEvents).toList.foldl (keepLatestDispute P) ∅ =
      keepLatestDispute P ∅ e := rfl
  unfold parseDisputesEvents
  rw [hfold, keepLatestDispute]
  cases hd : eventDispute P e with
  | none => rfl
  | some dispute => simp [AList.lookup_empty, sortByOpened, AList.insert]

/-! ## One event -/

/-- A live update sets the entry of its dispute and no other. -/
theorem entry_applyLive {disputes : List Dispute}
    (h : KeyedList.Distinct Dispute.id disputes) (dispute : Dispute) (k : Uuid) :
    entry (applyLiveDisputeUpdateInner disputes dispute) k =
      if dispute.id = k then some dispute else entry disputes k := by
  unfold applyLiveDisputeUpdateInner sortByOpened
  rw [entry, ← KeyedList.entry_perm (KeyedList.distinct_upsert h) (List.perm_insertionSort _ _).symm,
    KeyedList.entry_upsert]

theorem distinct_receive {s : DisputeList} (h : KeyedList.Distinct Dispute.id s.disputes)
    (e : Event) : KeyedList.Distinct Dispute.id (receive P s e).disputes := by
  unfold receive
  dsimp only
  split
  · exact KeyedList.distinct_perm (KeyedList.distinct_upsert h) (List.perm_insertionSort _ _).symm
  · exact h

/-- **One event.** From a list that agrees with the batch one, an event leaves the two in agreement
exactly when it refines it. -/
theorem agrees_receive_iff {s : DisputeList} (hdistinct : KeyedList.Distinct Dispute.id s.disputes)
    (hagrees : Agrees P s) (e : Event) : Agrees P (receive P s e) ↔ Refines P s e := by
  have hbatch : ∀ k, entry s.disputes k =
      (newestAbout (eventDisputeId P) s.received k).bind (eventDispute P) := fun k =>
    (hagrees k).trans (entry_parseDisputesEvents s.received k)
  unfold Agrees receive Refines
  simp only [parse_one, entry_parseDisputesEvents]
  cases hd : eventDispute P e with
  | none =>
    refine iff_of_true (fun k => ?_) (by simp)
    rw [hbatch, Book.newestAbout_insert_of_ne (.inl (by simp [eventDisputeId, hd]))]
  | some dispute =>
    have habout : eventDisputeId P e = some dispute.id := by simp [eventDisputeId, hd]
    simp only [Option.some.injEq, forall_eq', entry_applyLive hdistinct]
    refine ⟨fun h => ?_, fun h k => ?_⟩
    · by_cases hnewest : IsNewestAbout (eventDisputeId P) s.received dispute.id e
      · exact .inl hnewest
      · have hid := h dispute.id
        rw [if_pos rfl, Book.newestAbout_of_not_isNewest habout hnewest, ← hbatch] at hid
        exact .inr hid.symm
    · by_cases hk : dispute.id = k
      · subst hk
        rw [if_pos rfl]
        by_cases hnewest : IsNewestAbout (eventDisputeId P) s.received dispute.id e
        · rw [Book.newestAbout_of_isNewest habout hnewest, Option.bind_some, hd]
        · rw [Book.newestAbout_of_not_isNewest habout hnewest, ← hbatch]
          exact (h.resolve_left hnewest).symm
      · have hne : eventDisputeId P e ≠ some k := by simpa [habout] using hk
        rw [if_neg hk, Book.newestAbout_insert_of_ne (.inl hne), hbatch]

/-- A poll leaves the batch list. -/
theorem agrees_polled (fetched : List Event) : Agrees P (polled P fetched) := fun _ => rfl

/-- **The live dispute list.** After any poll and over any sequence of live events, in any order and
with duplicates, the live list has the batch one's disputes throughout exactly when every event
refines the list it meets. -/
theorem live_disputes_refine_iff (fetched deliveries : List Event) :
    (∀ received rest, deliveries = received ++ rest →
      Agrees P (received.foldl (receive P) (polled P fetched))) ↔
      Run.Guarded (receive P) (Refines P) (polled P fetched) deliveries := by
  let Good := fun s : DisputeList => KeyedList.Distinct Dispute.id s.disputes ∧ Agrees P s
  have hstart : Good (polled P fetched) :=
    ⟨distinct_parseDisputesEvents _, agrees_polled fetched⟩
  have hiff : Run.Guarded (receive P) (Refines P) (polled P fetched) deliveries ↔
      ∀ received rest, deliveries = received ++ rest →
        Good (received.foldl (receive P) (polled P fetched)) :=
    Run.Guarded.iff_invariant (fun s e hs =>
      (and_iff_right (distinct_receive hs.1 e)).trans (agrees_receive_iff hs.1 hs.2 e))
      hstart deliveries
  rw [hiff]
  refine ⟨fun h received rest hrun => ⟨?_, h received rest hrun⟩, fun h received rest hrun =>
    (h received rest hrun).2⟩
  exact Run.invariant (I := fun s : DisputeList => KeyedList.Distinct Dispute.id s.disputes)
    (fun s e hs => distinct_receive hs e) received hstart.1

end

/-- Parsers that read a decimal number as an id. -/
def decimalParsers : TagParsers where
  parseUuid := fun s => (parseI64 s).map Int.toNat
  parseKind := fun _ => none
  parseStatus := fun _ => none

/-- Two revisions of dispute 7: initiated at 10, settled at 20. -/
def settledDispute (createdAt : UInt64) (status : String) : Event where
  id := createdAt.toNat
  pubkey := "mostro"
  kind := 38386
  createdAt := createdAt
  tags := [["d", "7"], ["s", status]]

/-- A revision that is delivered late replaces the newer one: the live list shows a settled dispute
as initiated. -/
theorem live_list_shows_old_revision :
    ¬ ∀ (P : TagParsers) (fetched deliveries received rest : List Event),
      deliveries = received ++ rest →
        Agrees P (received.foldl (receive P) (polled P fetched)) := by
  intro h
  have hagrees := h decimalParsers [] _ [settledDispute 20 "settled", settledDispute 10 "initiated"]
    [] rfl 7
  rw [entry_parseDisputesEvents] at hagrees
  exact absurd hagrees (by decide)

end Mostrix.Disputes
