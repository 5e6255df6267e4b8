import Mostrix.Book.LatestRevision
import Mostrix.Library.Except

/-!
# One dispute for each identifier

`parse_disputes_events` is to show one dispute for each identifier its events name in a `d` tag, as
the latest revision shows it. `dispute_from_tags` skips a `d` tag without a value and does not ask
for one at all, so an event that names no identifier is filed under the default one, the nil id,
and merges with whatever else is filed there; `aggregate_latest_orders_by_id` skips the orders
without an id. And the stamps of the events, which are `u64`s, are compared as `i64`s.

`onePerIdentifier_iff` says exactly when this shows.
-/

namespace Mostrix.Disputes

open Book (Event NostrEvents TagParsers newestAbout IsFirstNewest)

variable (P : TagParsers)

/-! ## Identifiers and revisions -/

/-- The values of the `d` tags that have one. -/
def dValues (tags : List (List String)) : List String :=
  tags.filterMap fun
    | key :: value :: _ => if key = "d" then some value else none
    | _ => none

/-- The identifier the tags name: the last `d` tag decides. -/
def dIdentifier (tags : List (List String)) : Option Uuid :=
  (dValues tags).getLast?.bind P.parseUuid

/-- The event is a revision of the dispute `k`: its tags are accepted and name `k`. -/
def Revises (k : Uuid) (e : Event) : Prop :=
  (eventDispute P e).isSome ∧ dIdentifier P e.tags = some k

/-- The event is the latest revision of `k`: no other has a later stamp, nor the same stamp and a
smaller id. -/
def IsLatestRevision (events : NostrEvents) (k : Uuid) (e : Event) : Prop :=
  e ∈ events ∧ Revises P k e ∧ ∀ b ∈ events, Revises P k b →
    b = e ∨ b.createdAt.toNat < e.createdAt.toNat ∨
      b.createdAt.toNat = e.createdAt.toNat ∧ e.id < b.id

/-- The list has one dispute for each identifier of the events, as the latest revision shows it, and
no other. -/
structure OnePerIdentifier (events : NostrEvents) (disputes : List Dispute) : Prop where
  distinct : KeyedList.Distinct Dispute.id disputes
  shown : ∀ {k e dispute}, IsLatestRevision P events k e → eventDispute P e = some dispute →
    dispute ∈ disputes
  only : ∀ dispute ∈ disputes, ∃ e, IsLatestRevision P events dispute.id e ∧
    eventDispute P e = some dispute

/-- An accepted event without an identifier is outdated by another one that is filed under the nil
id, or shows what the latest revision of the nil id shows. -/
def StraysOutdated (events : NostrEvents) : Prop :=
  ∀ s ∈ events, (eventDispute P s).isSome → dIdentifier P s.tags = none →
    (∃ b ∈ events, eventDisputeId P b = some 0 ∧ b.beats s) ∨
      ∃ r, IsLatestRevision P events 0 r ∧ eventDispute P r = eventDispute P s

/-- Where a dispute has revisions stamped before `2 ^ 63` and from then on, the newest of all those
filed under its id, when it is one stamped before, shows what the latest revision shows. -/
def StampsAgree (events : NostrEvents) : Prop :=
  ∀ k a r, IsFirstNewest (eventDisputeId P) events k a → Revises P k a →
    IsLatestRevision P events k r → a.createdAt.toNat < 2 ^ 63 → 2 ^ 63 ≤ r.createdAt.toNat →
    eventDispute P a = eventDispute P r

variable {P}

/-- What one tag does: a `d` tag with a value sets the id, and no other does. -/
theorem applyDisputeTag_id {init next : Dispute} {tag : List String}
    (h : applyDisputeTag P init tag = .ok next) :
    (∃ value rest, tag = "d" :: value :: rest ∧ P.parseUuid value = some next.id) ∨
      (dValues [tag] = [] ∧ next.id = init.id) := by
  match tag with
  | [] | [_] =>
    cases h
    exact .inr ⟨rfl, rfl⟩
  | key :: value :: rest =>
    by_cases hkey : key = "d"
    · subst hkey
      cases hid : P.parseUuid value with
      | none => simp [applyDisputeTag, hid] at h
      | some id =>
        simp only [applyDisputeTag, hid, if_pos] at h
        cases h
        exact .inl ⟨value, rest, rfl, hid⟩
    · refine .inr ⟨by simp [dValues, hkey], ?_⟩
      simp only [applyDisputeTag, if_neg hkey] at h
      split at h
      · split at h
        · cases h
          rfl
        · cases h
      · split at h
        · split at h
          · split at h <;> cases h <;> rfl
          · cases h
            rfl
        · cases h
          rfl

theorem dValues_cons (tag : List String) (tags : List (List String)) :
    dValues (tag :: tags) = dValues [tag] ++ dValues tags := by
  unfold dValues
  rw [← List.filterMap_append, List.singleton_append]

/-- Tags that are accepted have readable identifiers only, and the last one is the dispute's. -/
theorem foldlM_applyDisputeTag {tags : List (List String)} {init dispute : Dispute}
    (h : tags.foldlM (applyDisputeTag P) init = .ok dispute) :
    (∀ v ∈ dValues tags, (P.parseUuid v).isSome) ∧
      dispute.id = (dIdentifier P tags).getD init.id := by
  induction tags generalizing init with
  | nil =>
    cases h
    exact ⟨by simp [dValues], rfl⟩
  | cons tag tags ih =>
    rw [List.foldlM_cons] at h
    obtain ⟨next, htag, hrest⟩ := Except.ok_of_bind h
    obtain ⟨hreadable, hid⟩ := ih hrest
    rw [dIdentifier] at hid
    rw [dIdentifier, dValues_cons]
    rcases applyDisputeTag_id htag with ⟨value, rest, rfl, hvalue⟩ | ⟨hnone, hsame⟩
    · refine ⟨?_, ?_⟩
      · intro v hv
        rcases List.mem_cons.1 hv with rfl | hv
        · rw [hvalue]
          rfl
        · exact hreadable v hv
      · -- The last identifier is that of the other tags, if these have one.
        have hlast : (dValues ["d" :: value :: rest] ++ dValues tags).getLast? =
            some ((dValues tags).getLast?.getD value) := List.getLast?_cons
        rw [hlast, hid, Option.bind_some]
        cases htags : (dValues tags).getLast? with
        | none =>
          rw [Option.getD_none, hvalue]
          rfl
        | some v =>
          obtain ⟨id, hv⟩ := Option.isSome_iff_exists.1
            (hreadable v (List.mem_of_getLast? htags))
          rw [Option.getD_some, Option.bind_some, hv]
          rfl
    · rw [hnone, List.nil_append, ← hsame]
      exact ⟨hreadable, hid⟩

/-- The id an accepted event is filed under. -/
theorem eventDispute_filed {e : Event} {dispute : Dispute} (h : eventDispute P e = some dispute) :
    dispute.id = (dIdentifier P e.tags).getD 0 := by
  unfold eventDispute at h
  split at h
  · next accepted haccepted =>
    have hid := (foldlM_applyDisputeTag haccepted).2
    obtain rfl := Option.some.inj h
    split
    · exact hid
    · exact hid
  · cases h

theorem eventDisputeId_eq_some_iff {e : Event} {k : Uuid} :
    eventDisputeId P e = some k ↔
      (eventDispute P e).isSome ∧ (dIdentifier P e.tags).getD 0 = k := by
  unfold eventDisputeId
  cases h : eventDispute P e with
  | none => simp
  | some dispute => simp [eventDispute_filed h]

/-- A revision of `k` is filed under `k`. -/
theorem Revises.filed {k : Uuid} {e : Event} (h : Revises P k e) : eventDisputeId P e = some k :=
  eventDisputeId_eq_some_iff.2 ⟨h.1, by rw [h.2]; rfl⟩

/-- What is filed under an id names it, or is a stray under the nil id. -/
theorem revises_or_stray {k : Uuid} {e : Event} (h : eventDisputeId P e = some k) :
    Revises P k e ∨ dIdentifier P e.tags = none ∧ k = 0 := by
  obtain ⟨haccepted, hid⟩ := eventDisputeId_eq_some_iff.1 h
  cases hd : dIdentifier P e.tags with
  | none =>
    rw [hd] at hid
    exact .inr ⟨rfl, hid.symm⟩
  | some id =>
    rw [hd] at hid
    exact .inl ⟨haccepted, hd.trans (congrArg some hid)⟩

/-! ## The latest revision -/

section
variable {events : NostrEvents} {k : Uuid}

/-- A dispute with a revision has a latest one. -/
theorem exists_latestRevision {e : Event} (he : e ∈ events) (h : Revises P k e) :
    ∃ r, IsLatestRevision P events k r := by
  classical
  have hsome : (events.toList.find? fun b => decide (Revises P k b)).isSome :=
    List.find?_isSome.2 ⟨e, he, decide_eq_true h⟩
  obtain ⟨r, hr⟩ := Option.isSome_iff_exists.1 hsome
  obtain ⟨hrev, before, after, hsplit, hbefore⟩ := List.find?_eq_some_iff_append.1 hr
  refine ⟨r, ?_, of_decide_eq_true hrev, fun b hb hbrev => ?_⟩
  · rw [← SortedSet.mem_toList, hsplit]
    exact List.mem_append_right _ List.mem_cons_self
  · -- The set has the latest events first, those of one stamp by their ids.
    have hsorted := events.sorted
    rw [hsplit] at hsorted
    rw [← SortedSet.mem_toList, hsplit, List.mem_append, List.mem_cons] at hb
    rcases hb with hb | rfl | hb
    · have hnot := hbefore b hb
      simp [hbrev] at hnot
    · exact .inl rfl
    · have hkey := (List.pairwise_cons.1 (List.pairwise_append.1 hsorted).2.1).1 b hb
      unfold Event.key at hkey
      rw [Prod.Lex.toLex_lt_toLex] at hkey
      rcases hkey with hlater | ⟨htime, hid⟩
      · exact .inr (.inl (OrderDual.toDual_lt_toDual.1 hlater))
      · exact .inr (.inr ⟨(OrderDual.toDual_inj.1 htime).symm, hid⟩)

/-- There is one latest revision. -/
theorem latestRevision_unique {e e' : Event} (h : IsLatestRevision P events k e)
    (h' : IsLatestRevision P events k e') : e = e' := by
  rcases h'.2.2 e h.1 h.2.1 with heq | hlt | ⟨hts, hid⟩
  · exact heq
  · rcases h.2.2 e' h'.1 h'.2.1 with heq | hlt' | ⟨hts', -⟩
    · exact heq.symm
    · omega
    · omega
  · rcases h.2.2 e' h'.1 h'.2.1 with heq | hlt' | ⟨-, hid'⟩
    · exact heq.symm
    · omega
    · omega

/-- A stamp is below `2 ^ 64`, and the larger half counts as negative. -/
theorem ts_cases (e : Event) :
    e.createdAt.toNat < 2 ^ 63 ∧ e.ts = e.createdAt.toNat ∨
      2 ^ 63 ≤ e.createdAt.toNat ∧ e.ts = e.createdAt.toNat - 2 ^ 64 := by
  have hlt : e.createdAt.toNat < 2 ^ 64 := e.createdAt.toNat_lt
  unfold Book.Event.ts asI64
  rw [Int.bmod_def]
  omega

theorem not_beats_of_beats {a b : Event} (h : a.beats b) : ¬ b.beats a := by
  unfold Book.Event.beats at *
  omega

/-- The two orders of stamps differ only across `2 ^ 63`. -/
theorem stamps_of_beats {a r : Event} (hbeats : a.beats r)
    (hlatest : a.createdAt.toNat < r.createdAt.toNat ∨
      a.createdAt.toNat = r.createdAt.toNat ∧ r.id < a.id) :
    a.createdAt.toNat < 2 ^ 63 ∧ 2 ^ 63 ≤ r.createdAt.toNat := by
  unfold Book.Event.beats at hbeats
  have ha := ts_cases a
  have hr := ts_cases r
  omega

/-! ## The list -/

/-- What the list shows: for each id, the newest event filed under it. -/
theorem mem_parseDisputesEvents {dispute : Dispute} :
    dispute ∈ parseDisputesEvents P events ↔
      ∃ e, IsFirstNewest (eventDisputeId P) events dispute.id e ∧
        eventDispute P e = some dispute := by
  have hperm : (parseDisputesEvents P events).Perm (batchValues P events) :=
    List.perm_insertionSort _ _
  rw [hperm.mem_iff, mem_batchValues]
  simp only [Book.newestAbout_eq_some_iff]

/-- Under an id with an event, one is the newest. -/
theorem exists_firstNewest {e : Event} (he : e ∈ events) (h : eventDisputeId P e = some k) :
    ∃ c, IsFirstNewest (eventDisputeId P) events k c := by
  cases hc : newestAbout (eventDisputeId P) events k with
  | some c => exact ⟨c, Book.newestAbout_eq_some_iff.1 hc⟩
  | none =>
    rw [Book.newestAbout_eq_firstMax_rank] at hc
    have hmem : e ∈ events.toList.filter fun e => eventDisputeId P e = some k :=
      List.mem_filter.2 ⟨he, by simpa using h⟩
    rw [List.argmax_eq_none.1 hc] at hmem
    cases hmem

end

/-- Under the two conditions, the newest event filed under an id shows what its latest revision
shows. -/
theorem newest_shows_latest {events : NostrEvents} (hstrays : StraysOutdated P events)
    (hstamps : StampsAgree P events) {k : Uuid} {c : Event}
    (hc : IsFirstNewest (eventDisputeId P) events k c) :
    ∃ r, IsLatestRevision P events k r ∧ eventDispute P r = eventDispute P c := by
  obtain ⟨hmem, hfiled, hnewest⟩ := hc
  rcases revises_or_stray hfiled with hrev | ⟨hstray, rfl⟩
  · obtain ⟨r, hr⟩ := exists_latestRevision hmem hrev
    refine ⟨r, hr, ?_⟩
    rcases hnewest r hr.1 hr.2.1.filed with rfl | hbeats
    · rfl
    · rcases hr.2.2 c hmem hrev with rfl | hlatest
      · rfl
      · obtain ⟨hbefore, hfrom⟩ := stamps_of_beats hbeats hlatest
        exact (hstamps k c r ⟨hmem, hfiled, hnewest⟩ hrev hr hbefore hfrom).symm
  · rcases hstrays c hmem (eventDisputeId_eq_some_iff.1 hfiled).1 hstray with
      ⟨b, hb, hbfiled, hbeats⟩ | hshows
    · rcases hnewest b hb hbfiled with rfl | hbeaten
      · exact absurd hbeats (not_beats_of_beats hbeats)
      · exact absurd hbeaten (not_beats_of_beats hbeats)
    · exact hshows

/-- The list has one dispute for each identifier of the events, as its latest revision shows it, and
no other, exactly when every event without an identifier is outdated by another one under the nil
id or shows its latest revision, and the stamps agree. -/
theorem onePerIdentifier_iff (P : TagParsers) (events : NostrEvents) :
    OnePerIdentifier P events (parseDisputesEvents P events) ↔
      StraysOutdated P events ∧ StampsAgree P events := by
  refine ⟨fun h => ⟨?_, ?_⟩, fun ⟨hstrays, hstamps⟩ => ?_⟩
  · intro s hs haccepted hstray
    have hfiled : eventDisputeId P s = some 0 :=
      eventDisputeId_eq_some_iff.2 ⟨haccepted, by rw [hstray]; rfl⟩
    obtain ⟨c, hc⟩ := exists_firstNewest hs hfiled
    rcases hc.2.2 s hs hfiled with rfl | hbeats
    · obtain ⟨dispute, hd, hid⟩ := eventDispute_id hfiled
      have hmem : dispute ∈ parseDisputesEvents P events :=
        mem_parseDisputesEvents.2 ⟨s, by rwa [hid], hd⟩
      obtain ⟨r, hr, hshows⟩ := h.only dispute hmem
      rw [hid] at hr
      exact .inr ⟨r, hr, hshows.trans hd.symm⟩
    · exact .inl ⟨c, hc.1, hc.2.1, hbeats⟩
  · intro k a r ha hrev hr _ _
    obtain ⟨dispute, hd, hid⟩ := eventDispute_id ha.2.1
    have hmem : dispute ∈ parseDisputesEvents P events :=
      mem_parseDisputesEvents.2 ⟨a, by rwa [hid], hd⟩
    obtain ⟨r', hr', hshows⟩ := h.only dispute hmem
    rw [hid] at hr'
    rw [latestRevision_unique hr hr', hshows, hd]
  · have honly : ∀ dispute ∈ parseDisputesEvents P events, ∃ e,
        IsLatestRevision P events dispute.id e ∧ eventDispute P e = some dispute := by
      intro dispute hmem
      obtain ⟨c, hc, hd⟩ := mem_parseDisputesEvents.1 hmem
      obtain ⟨r, hr, hshows⟩ := newest_shows_latest hstrays hstamps hc
      exact ⟨r, hr, hshows.trans hd⟩
    refine ⟨distinct_parseDisputesEvents events, fun {k e dispute} he hd => ?_, honly⟩
    obtain ⟨c, hc⟩ := exists_firstNewest he.1 he.2.1.filed
    obtain ⟨shown, hshown, hid⟩ := eventDispute_id hc.2.1
    have hmem : shown ∈ parseDisputesEvents P events :=
      mem_parseDisputesEvents.2 ⟨c, by rwa [hid], hshown⟩
    obtain ⟨r, hr, hshows⟩ := honly shown hmem
    rw [hid] at hr
    obtain rfl := latestRevision_unique he hr
    obtain rfl := Option.some.inj (hd.symm.trans hshows)
    exact hmem

/-- Events that all name an identifier, and were published before `2 ^ 63`, are shown as they
should be. -/
theorem onePerIdentifier_of_tagged {events : NostrEvents}
    (htagged : ∀ e ∈ events, (eventDispute P e).isSome → (dIdentifier P e.tags).isSome)
    (hstamps : ∀ e ∈ events, e.createdAt.toNat < 2 ^ 63) :
    OnePerIdentifier P events (parseDisputesEvents P events) := by
  refine (onePerIdentifier_iff P events).2 ⟨?_, ?_⟩
  · intro s hs haccepted hstray
    have hsome := htagged s hs haccepted
    rw [hstray] at hsome
    cases hsome
  · intro k a r _ _ hr _ hfrom
    exact absurd (hstamps r hr.1) (not_lt.2 hfrom)

/-- An event that shows a dispute with a status and no identifier. -/
def untaggedDispute (createdAt : UInt64) (status : String) : Event where
  id := createdAt.toNat
  pubkey := "mostro"
  kind := 38386
  createdAt := createdAt
  tags := [["s", status]]

/-- Two disputes that name no identifier. -/
def untaggedDisputes : NostrEvents :=
  SortedSet.ofList Event.key [untaggedDispute 10 "initiated", untaggedDispute 20 "settled"]

/-- They are shown as one, with the nil id. -/
theorem untagged_disputes_merge :
    parseDisputesEvents decimalParsers untaggedDisputes =
        [{ id := 0, status := "settled", createdAt := 20 }] ∧
      ¬ OnePerIdentifier decimalParsers untaggedDisputes
        (parseDisputesEvents decimalParsers untaggedDisputes) := by
  have hlist : parseDisputesEvents decimalParsers untaggedDisputes =
      [{ id := 0, status := "settled", createdAt := 20 }] := by decide
  refine ⟨hlist, fun h => ?_⟩
  obtain ⟨e, he, -⟩ := h.only { id := 0, status := "settled", createdAt := 20 } (by simp [hlist])
  have hnone : ∀ e ∈ untaggedDisputes.toList, dIdentifier decimalParsers e.tags = none := by decide
  have hsome := he.2.1.2
  rw [hnone e he.1] at hsome
  cases hsome

end Mostrix.Disputes
