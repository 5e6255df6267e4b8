import Mostrix.Chat.Envelope

/-!
# What a chat's history holds

The history of a chat is read from the relays under two envelopes, and one of the two queries may
fail (`fetch_chat_messages_for_shared_key`). `history_dual_read` says what comes out: an error only
where both fail, and else every message that either answer holds, once, in the order of time, and
none that the allow-list does not name.

The two parties of an order derive the secret of their chat on their own, each from its own row.
`order_chat_joins_parties` puts that together with the reading: what one of them sends the other
reads, from the author's key and unchanged, and neither reads anyone else.
-/

namespace Mostrix.Chat

open Text

variable {ops : EnvelopeOps}

/-! ## The two answers -/

/-- What is documented of the relay client's answers: a set of events, whose id is a hash of
theirs. -/
structure RelayAnswers (fetch : ChatFilter → Except String (List ChatEvent)) : Prop where
  distinct : ∀ {filter events}, fetch filter = .ok events → KeyedList.Distinct (·.id) events
  hash : ∀ {filter filter' events events'}, fetch filter = .ok events →
    fetch filter' = .ok events' → ∀ e ∈ events, ∀ e' ∈ events', e.id = e'.id → e = e'

/-- The filters of a chat's history. -/
def historyFilters (sharedKeys sign : Keys) (since : Option Int) (localNow : Int) :
    List ChatFilter :=
  [kind14Filter sign.publicKey (asU64 (hydrateSince since localNow)),
    { kind := giftWrap, pTags := [sharedKeys.publicKey],
      since := (max (localNow - lookbackSecs) 0).toNat }]

/-- An event of one of the answers. -/
def Answered (fetch : ChatFilter → Except String (List ChatEvent)) (filters : List ChatFilter)
    (e : ChatEvent) : Prop :=
  ∃ filter ∈ filters, ∃ events, fetch filter = .ok events ∧ e ∈ events

theorem fetchChatEvents_eq (fetch : ChatFilter → Except String (List ChatEvent))
    (sharedKeys sign : Keys) (since : Option Int) (localNow : Int) :
    ∃ f g, historyFilters sharedKeys sign since localNow = [f, g] ∧
      fetchChatEvents fetch sharedKeys sign since localNow =
        mergeDualReadEvents (fetch f) (fetch g) :=
  ⟨_, _, rfl, rfl⟩

/-- A merge fails only where both reads do. -/
theorem mergeDualReadEvents_error_iff {kind14 legacy : Except String (List ChatEvent)} :
    (∃ e, mergeDualReadEvents kind14 legacy = .error e) ↔
      (∃ e, kind14 = .error e) ∧ ∃ e, legacy = .error e := by
  cases kind14 <;> cases legacy <;> simp [mergeDualReadEvents]

/-- A merge holds the events of both answers, each once. -/
theorem mergeDualReadEvents_ok {fetch : ChatFilter → Except String (List ChatEvent)}
    (hfetch : RelayAnswers fetch) {f g : ChatFilter} {events : List ChatEvent}
    (h : mergeDualReadEvents (fetch f) (fetch g) = .ok events) :
    KeyedList.Distinct (·.id) events ∧ ∀ e, e ∈ events ↔ Answered fetch [f, g] e := by
  have hsplit : ∀ e, Answered fetch [f, g] e ↔
      (∃ l, fetch f = .ok l ∧ e ∈ l) ∨ ∃ l, fetch g = .ok l ∧ e ∈ l := by
    intro e
    simp [Answered]
  simp only [hsplit]
  cases hf : fetch f with
  | ok a =>
    have ha := hfetch.distinct hf
    cases hg : fetch g with
    | ok b =>
      rw [hf, hg] at h
      cases h
      refine ⟨KeyedList.distinct_extend ha b, fun e => ⟨fun he => ?_, fun he => ?_⟩⟩
      · rcases KeyedList.mem_of_mem_extend he with he | he
        · exact .inl ⟨a, rfl, he⟩
        · exact .inr ⟨b, rfl, he⟩
      · rcases he with ⟨l, hl, he⟩ | ⟨l, hl, he⟩
        · cases hl
          exact KeyedList.mem_extend_of_mem b he
        · cases hl
          have hkey : ∃ e' ∈ KeyedList.extend (fun e : ChatEvent => e.id) a b, e'.id = e.id :=
            KeyedList.exists_key_mem_extend he
          obtain ⟨e', he', hid⟩ := hkey
          -- the event under that id is the same one
          have heq : e' = e := by
            rcases KeyedList.mem_of_mem_extend he' with hmem | hmem
            · exact hfetch.hash hf hg e' hmem e he hid
            · exact hfetch.hash hg hg e' hmem e he hid
          exact heq ▸ he'
    | error err =>
      rw [hf, hg] at h
      cases h
      exact ⟨ha, fun e => by simp⟩
  | error err =>
    cases hg : fetch g with
    | ok b =>
      rw [hf, hg] at h
      cases h
      exact ⟨hfetch.distinct hg, fun e => by simp⟩
    | error err' =>
      rw [hf, hg] at h
      cases h

/-! ## The messages -/

theorem sortByTimestamp_perm (msgs : List DecodedChatMessage) :
    (sortByTimestamp msgs).Perm msgs := List.mergeSort_perm ..

/-- A sort by a time. -/
theorem mergeSort_sorted {α : Type} (time : α → Int) (l : List α) :
    (l.mergeSort fun a b => decide (time a ≤ time b)).Pairwise fun a b => time a ≤ time b := by
  have h : (l.mergeSort fun a b => decide (time a ≤ time b)).Pairwise
      fun a b => decide (time a ≤ time b) = true := by
    refine List.pairwise_mergeSort (fun a b c hab hbc => ?_) (fun a b => ?_) l
    · simp only [decide_eq_true_eq] at *
      omega
    · simp only [Bool.or_eq_true, decide_eq_true_eq]
      omega
  simpa using h

theorem sortByTimestamp_sorted (msgs : List DecodedChatMessage) :
    (sortByTimestamp msgs).Pairwise fun a b => a.timestamp ≤ b.timestamp :=
  mergeSort_sorted (·.timestamp) msgs

/-- What an event of the history opens to. -/
def opened (ops : EnvelopeOps) (sharedKeys : Keys) (allowedSigners : List PublicKey)
    (openedAt : Int) (e : ChatEvent) : Option DecodedChatMessage :=
  (unwrapGiftwrapWithSharedKey ops sharedKeys e allowedSigners openedAt).toOption

theorem opened_eq_some_iff {sharedKeys : Keys} {allowedSigners : List PublicKey} {openedAt : Int}
    {e : ChatEvent} {m : DecodedChatMessage} :
    opened ops sharedKeys allowedSigners openedAt e = some m ↔
      unwrapGiftwrapWithSharedKey ops sharedKeys e allowedSigners openedAt = .ok m := by
  unfold opened
  cases unwrapGiftwrapWithSharedKey ops sharedKeys e allowedSigners openedAt <;>
    simp [Except.toOption]

/-- What the history of a chat owes, for the filters asked and a list of messages. -/
structure ReadsHistory (ops : EnvelopeOps) (fetch : ChatFilter → Except String (List ChatEvent))
    (filters : List ChatFilter) (sharedKeys : Keys) (allowedSigners : List PublicKey)
    (openedAt : Int) (msgs : List DecodedChatMessage) : Prop where
  sorted : msgs.Pairwise fun a b => a.timestamp ≤ b.timestamp
  /-- Nobody is read who is not allowed. -/
  allowed : ∀ m ∈ msgs, m.sender ∈ allowedSigners
  /-- What an answer holds and can be opened is read. -/
  complete : ∀ e, Answered fetch filters e → ∀ m,
    unwrapGiftwrapWithSharedKey ops sharedKeys e allowedSigners openedAt = .ok m → m ∈ msgs
  /-- Each message comes from an event of its own. -/
  once : ∃ events : List ChatEvent, KeyedList.Distinct (·.id) events ∧
    (∀ e ∈ events, Answered fetch filters e) ∧
    msgs.Perm (events.filterMap (opened ops sharedKeys allowedSigners openedAt))

/-- The window that is asked for: seven days at most, and nothing after the clock. -/
theorem historyFilters_window {sharedKeys sign : Keys} {since : Option Int} {localNow : Int}
    (hclock : lookbackSecs ≤ localNow) (hrange : localNow < 2 ^ 63) :
    ∀ filter ∈ historyFilters sharedKeys sign since localNow,
      localNow - lookbackSecs ≤ filter.since ∧ (filter.since : Int) ≤ localNow := by
  have hlookback : lookbackSecs = 604800 := rfl
  have hsince : localNow - lookbackSecs ≤ hydrateSince since localNow ∧
      hydrateSince since localNow ≤ localNow := by
    unfold hydrateSince clampChatSinceCursor
    cases since with
    | none => simp only; omega
    | some ts => simp only; omega
  intro filter hfilter
  simp only [historyFilters, List.mem_cons, List.not_mem_nil, or_false] at hfilter
  rcases hfilter with rfl | rfl
  · simp only [kind14Filter, asU64]
    rw [Int.emod_eq_of_lt (by omega) (by omega)]
    omega
  · simp only
    omega

section
variable {fetch : ChatFilter → Except String (List ChatEvent)} {sharedKeys : Keys}
  {allowedSigners : List PublicKey} {since : Option Int} {localNow openedAt : Int}
  {msgs : List DecodedChatMessage}

/-- Whatever the relays answer, nobody is read who is not allowed. -/
theorem history_allowed (hops : ops.Lawful)
    (h : fetchChatMessagesForSharedKey ops fetch sharedKeys allowedSigners since localNow openedAt =
      .ok msgs) : ∀ m ∈ msgs, m.sender ∈ allowedSigners := by
  unfold fetchChatMessagesForSharedKey at h
  intro m hm
  split at h
  · cases h
  split at h
  · cases h
  next events hevents =>
    cases h
    obtain ⟨e, -, hopen⟩ := List.mem_filterMap.1 ((sortByTimestamp_perm _).mem_iff.1 hm)
    exact sender_mem_of_unwrap hops (opened_eq_some_iff.1 hopen)

/-- A history that is read. -/
theorem history_reads (hops : ops.Lawful) (hfetch : RelayAnswers fetch) {conv sign : Keys}
    (hkeys : ops.chatKeys sharedKeys = some (conv, sign))
    (h : fetchChatMessagesForSharedKey ops fetch sharedKeys allowedSigners since localNow openedAt =
      .ok msgs) :
    ReadsHistory ops fetch (historyFilters sharedKeys sign since localNow) sharedKeys
      allowedSigners openedAt msgs := by
  have hallowed := history_allowed hops h
  unfold fetchChatMessagesForSharedKey at h
  obtain ⟨f, g, hfilters, hevents⟩ := fetchChatEvents_eq fetch sharedKeys sign since localNow
  simp only [hkeys, hevents] at h
  rw [hfilters]
  cases hmerge : mergeDualReadEvents (fetch f) (fetch g) with
  | error err =>
    rw [hmerge] at h
    cases h
  | ok events =>
    rw [hmerge] at h
    cases h
    obtain ⟨hdistinct, hmem⟩ := mergeDualReadEvents_ok hfetch hmerge
    have hperm := sortByTimestamp_perm
      (events.filterMap (opened ops sharedKeys allowedSigners openedAt))
    refine ⟨sortByTimestamp_sorted _, hallowed, fun e he m hm => ?_,
      events, hdistinct, fun e he => (hmem e).1 he, hperm⟩
    exact hperm.mem_iff.2
      (List.mem_filterMap.2 ⟨e, (hmem e).2 he, opened_eq_some_iff.2 hm⟩)

/-- A history that is not. -/
theorem history_fails_iff {conv sign : Keys}
    (hkeys : ops.chatKeys sharedKeys = some (conv, sign)) :
    (∃ e, fetchChatMessagesForSharedKey ops fetch sharedKeys allowedSigners since localNow openedAt =
      .error e) ↔
      ∀ filter ∈ historyFilters sharedKeys sign since localNow, ∃ e, fetch filter = .error e := by
  obtain ⟨f, g, hfilters, hevents⟩ := fetchChatEvents_eq fetch sharedKeys sign since localNow
  unfold fetchChatMessagesForSharedKey
  simp only [hkeys, hevents, hfilters]
  have hmerge : (∃ e, mergeDualReadEvents (fetch f) (fetch g) = .error e) ↔
      (∃ e, fetch f = .error e) ∧ ∃ e, fetch g = .error e := mergeDualReadEvents_error_iff
  cases hresult : mergeDualReadEvents (fetch f) (fetch g) with
  | error err =>
    rw [hresult] at hmerge
    refine iff_of_true ⟨err, rfl⟩ ?_
    simpa using hmerge.1 ⟨err, rfl⟩
  | ok events =>
    rw [hresult] at hmerge
    refine iff_of_false (by simp) fun hall => ?_
    obtain ⟨e, he⟩ := hmerge.2 ⟨hall f (by simp), hall g (by simp)⟩
    cases he

end

/-- Reading a chat's history: it fails only where the secret gives no keys or both queries fail;
else it holds what `ReadsHistory` says, from the last seven days. -/
theorem history_dual_read (hops : ops.Lawful)
    {fetch : ChatFilter → Except String (List ChatEvent)} (hfetch : RelayAnswers fetch)
    (sharedKeys : Keys) (allowedSigners : List PublicKey) (since : Option Int)
    (localNow openedAt : Int) (hclock : lookbackSecs ≤ localNow ∧ localNow < 2 ^ 63) :
    match ops.chatKeys sharedKeys with
    | none => ∃ e, fetchChatMessagesForSharedKey ops fetch sharedKeys allowedSigners since localNow
        openedAt = .error e
    | some (_, sign) =>
      (∀ filter ∈ historyFilters sharedKeys sign since localNow,
        localNow - lookbackSecs ≤ filter.since ∧ (filter.since : Int) ≤ localNow) ∧
      ((∃ e, fetchChatMessagesForSharedKey ops fetch sharedKeys allowedSigners since localNow
          openedAt = .error e) ↔
        ∀ filter ∈ historyFilters sharedKeys sign since localNow, ∃ e, fetch filter = .error e) ∧
      ∀ msgs, fetchChatMessagesForSharedKey ops fetch sharedKeys allowedSigners since localNow
          openedAt = .ok msgs →
        ReadsHistory ops fetch (historyFilters sharedKeys sign since localNow) sharedKeys
          allowedSigners openedAt msgs := by
  cases hkeys : ops.chatKeys sharedKeys with
  | none =>
    exact ⟨"Failed to derive K_conv / K_sign from shared key",
      by simp only [fetchChatMessagesForSharedKey, hkeys]⟩
  | some keys =>
    obtain ⟨conv, sign⟩ := keys
    exact ⟨historyFilters_window hclock.1 hclock.2, history_fails_iff hkeys,
      fun msgs h => history_reads hops hfetch hkeys h⟩

/-! ## The two parties of an order -/

/-- An order that names the trade keys of its two parties. -/
structure TradeParties (ops : EnvelopeOps) (o : SmallOrder) (buyer seller : Keys) : Prop where
  buyerNamed : ∃ text, o.buyerTradePubkey = some text ∧ text ≠ "" ∧
    ops.parsePubkey text = some buyer.publicKey
  sellerNamed : ∃ text, o.sellerTradePubkey = some text ∧ text ≠ "" ∧
    ops.parsePubkey text = some seller.publicKey
  buyerKeys : ops.parseKeys buyer.secretHex = some buyer
  sellerKeys : ops.parseKeys seller.secretHex = some seller
  apart : buyer.publicKey ≠ seller.publicKey

/-- A party and the other one. -/
inductive Sides (buyer seller : Keys) : Keys → Keys → Prop
  | asBuyer : Sides buyer seller buyer seller
  | asSeller : Sides buyer seller seller buyer

theorem Sides.swap {buyer seller me other : Keys} (h : Sides buyer seller me other) :
    Sides buyer seller other me := by
  cases h with
  | asBuyer => exact .asSeller
  | asSeller => exact .asBuyer

section
variable {o : SmallOrder} {buyer seller me other : Keys}

/-- A party stores the other's key and the secret it derives with it. -/
theorem TradeParties.resolves (h : TradeParties ops o buyer seller)
    (hsides : Sides buyer seller me other) :
    ∃ text, ops.parsePubkey text = some other.publicKey ∧
      orderChatCounterpartyAndSharedHex ops.chatOps me o =
        (ops.derive me other.publicKey).map fun shared => (text, shared.secretHex) := by
  obtain ⟨buyerText, hbuyer, hbuyerNe, hbuyerPk⟩ := h.buyerNamed
  obtain ⟨sellerText, hseller, hsellerNe, hsellerPk⟩ := h.sellerNamed
  cases hsides with
  | asBuyer =>
    refine ⟨sellerText, hsellerPk, ?_⟩
    simp only [orderChatCounterpartyAndSharedHex, deriveSharedKeyHex, EnvelopeOps.chatOps, hbuyer,
      hseller, hbuyerNe, hsellerNe, hbuyerPk, hsellerPk, or_self, if_false, if_true,
      Option.bind_eq_bind, Option.bind_some]
    cases ops.derive buyer seller.publicKey <;> rfl
  | asSeller =>
    refine ⟨buyerText, hbuyerPk, ?_⟩
    simp only [orderChatCounterpartyAndSharedHex, deriveSharedKeyHex, EnvelopeOps.chatOps, hbuyer,
      hseller, hbuyerNe, hsellerNe, hbuyerPk, hsellerPk, or_self, if_false, if_true,
      Ne.symm h.apart, Option.bind_eq_bind, Option.bind_some]
    cases ops.derive seller buyer.publicKey <;> rfl

/-- Nobody else resolves the order's chat. -/
theorem TradeParties.stranger (h : TradeParties ops o buyer seller) {k : Keys}
    (hbuyer : k.publicKey ≠ buyer.publicKey) (hseller : k.publicKey ≠ seller.publicKey) :
    orderChatCounterpartyAndSharedHex ops.chatOps k o = none := by
  obtain ⟨buyerText, hb, hbuyerNe, hbuyerPk⟩ := h.buyerNamed
  obtain ⟨sellerText, hs, hsellerNe, hsellerPk⟩ := h.sellerNamed
  simp only [orderChatCounterpartyAndSharedHex, EnvelopeOps.chatOps, hb, hs, hbuyerNe, hsellerNe,
    hbuyerPk, hsellerPk, or_self, if_false, hbuyer, hseller, Option.bind_eq_bind, Option.bind_some]

/-- Both parties derive one secret. -/
theorem TradeParties.derive_eq (hops : ops.Lawful) (h : TradeParties ops o buyer seller)
    (hsides : Sides buyer seller me other) :
    ops.derive me other.publicKey = ops.derive other me.publicKey := by
  cases hsides with
  | asBuyer => exact hops.derive_comm h.buyerKeys h.sellerKeys
  | asSeller => exact hops.derive_comm h.sellerKeys h.buyerKeys

theorem TradeParties.ne (h : TradeParties ops o buyer seller)
    (hsides : Sides buyer seller me other) : other.publicKey ≠ me.publicKey := by
  cases hsides with
  | asBuyer => exact Ne.symm h.apart
  | asSeller => exact h.apart

/-- A row that holds the chat of an order, as a party stores it. -/
structure ChatRow (ops : EnvelopeOps) (me other shared : Keys) (text : String)
    (allowedSigners : List PublicKey) : Prop where
  secret : ops.fromHex shared.secretHex = some shared
  allowed : orderChatAllowedSigners ops me.publicKey (some text) = some allowedSigners
  /-- The two parties, and nobody else. -/
  mem : ∀ pk, pk ∈ allowedSigners ↔ pk = me.publicKey ∨ pk = other.publicKey

theorem TradeParties.chatRow (hops : ops.Lawful) (h : TradeParties ops o buyer seller)
    (hsides : Sides buyer seller me other) {shared : Keys} {text : String}
    (hshared : ops.derive me other.publicKey = some shared)
    (htext : ops.parsePubkey text = some other.publicKey) :
    ChatRow ops me other shared text [me.publicKey, other.publicKey] where
  secret := hops.fromHex_derive hshared
  allowed := (orderChatAllowedSigners_iff ops).2 ⟨other.publicKey, htext, h.ne hsides, rfl⟩
  mem := by simp

/-- The chat of an order joins its two parties: where one of them resolves it, the other resolves
the same secret, and what either of them then sends, the other reads in its history as the sender's
and unchanged. Neither reads anyone else, and nobody else resolves it. -/
theorem order_chat_joins_parties (hops : ops.Lawful) (h : TradeParties ops o buyer seller)
    (hsides : Sides buyer seller me other) {text hex : String}
    (hme : orderChatCounterpartyAndSharedHex ops.chatOps me o = some (text, hex)) :
    (∀ k : Keys, k.publicKey ≠ buyer.publicKey → k.publicKey ≠ seller.publicKey →
      orderChatCounterpartyAndSharedHex ops.chatOps k o = none) ∧
    ∃ text' shared mine others, hex = shared.secretHex ∧
      orderChatCounterpartyAndSharedHex ops.chatOps other o = some (text', hex) ∧
      ChatRow ops me other shared text mine ∧ ChatRow ops other me shared text' others ∧
      (∀ stamp content event,
        sendChatMessageViaSharedKey ops stamp me shared content = .ok event →
        ∃ id, ∀ fetch since localNow openedAt msgs sign, RelayAnswers fetch →
          (∃ conv, ops.chatKeys shared = some (conv, sign)) →
          Answered fetch (historyFilters shared sign since localNow) event →
          stamp.now ≤ openedAt →
          fetchChatMessagesForSharedKey ops fetch shared others since localNow openedAt =
            .ok msgs →
          ⟨me.publicKey, String.ofList (trim content.toList), stamp.now, id⟩ ∈ msgs) ∧
      ∀ fetch since localNow openedAt msgs,
        fetchChatMessagesForSharedKey ops fetch shared others since localNow openedAt = .ok msgs →
        ∀ m ∈ msgs, m.sender = me.publicKey ∨ m.sender = other.publicKey := by
  refine ⟨fun k hbuyer hseller => h.stranger hbuyer hseller, ?_⟩
  obtain ⟨t, ht, hresolve⟩ := h.resolves hsides
  obtain ⟨t', ht', hresolve'⟩ := h.resolves hsides.swap
  rw [hresolve] at hme
  obtain ⟨shared, hshared, hpair⟩ := Option.map_eq_some_iff.1 hme
  cases hpair
  have hshared' : ops.derive other me.publicKey = some shared :=
    (h.derive_eq hops hsides) ▸ hshared
  have hrow := h.chatRow hops hsides hshared ht
  have hrow' := h.chatRow hops hsides.swap hshared' ht'
  refine ⟨t', shared, _, _, rfl, by rw [hresolve', hshared', Option.map_some], hrow, hrow',
    fun stamp content event hsend => ?_, fun fetch since localNow openedAt msgs hfetch m hm => ?_⟩
  · obtain ⟨id, hopens⟩ := unwrap_of_send hops hsend
    refine ⟨id, fun fetch since localNow openedAt msgs sign hanswers hkeys hanswered hnow
      hfetch => ?_⟩
    obtain ⟨conv, hkeys⟩ := hkeys
    have hread := history_reads hops hanswers hkeys hfetch
    exact hread.complete event hanswered _ (hopens _ _ _ (by simp) hnow)
  · have hsender := history_allowed hops hfetch m hm
    simpa [or_comm] using hsender

end

/-! ## A trade with plain keys -/

/-- Key pairs of a buyer and a seller, and envelopes that carry their message in the clear. -/
def pairOps : EnvelopeOps where
  parseKeys := fun hex => [(⟨"b", "B"⟩ : Keys), ⟨"s", "S"⟩].find? (·.secretHex = hex)
  parsePubkey := some
  derive := fun keys pubkey =>
    if keys = ⟨"b", "B"⟩ ∧ pubkey = "S" ∨ keys = ⟨"s", "S"⟩ ∧ pubkey = "B" then some ⟨"bs", "BS"⟩
    else none
  fromHex := fun hex => [(⟨"bs", "BS"⟩ : Keys), ⟨"conv", "CONV"⟩].find? (·.secretHex = hex)
  chatKeys := fun _ => some (⟨"conv", "CONV"⟩, ⟨"sign", "SIGN"⟩)
  wrap := fun stamp sender conv sign content =>
    if 0 ≤ stamp.now then
      some { id := stamp.now.toNat, kind := privateDirectMessage, pubkey := sign.publicKey,
             pTags := [conv.publicKey, sender.publicKey], content }
    else none
  unwrap := fun conv author allowed e now =>
    match e.pTags with
    | [recipient, sender] =>
      if recipient = conv.publicKey ∧ e.pubkey = author ∧ sender ∈ allowed ∧ (e.id : Int) ≤ now then
        some ⟨sender, e.content, e.id, e.id⟩
      else none
    | _ => none
  unwrapGiftwrap := fun _ _ => none

theorem pairOps_unwrap {conv : Keys} {author : PublicKey} {allowed : List PublicKey}
    {e : ChatEvent} {now : Int} {m : DecodedChatMessage}
    (h : pairOps.unwrap conv author allowed e now = some m) :
    ∃ recipient sender, e.pTags = [recipient, sender] ∧ recipient = conv.publicKey ∧
      e.pubkey = author ∧ sender ∈ allowed ∧ (e.id : Int) ≤ now ∧
      m = ⟨sender, e.content, e.id, e.id⟩ := by
  unfold pairOps at h
  dsimp only at h
  split at h
  next recipient sender htags =>
    split at h
    next hcond =>
      cases h
      exact ⟨recipient, sender, htags, hcond.1, hcond.2.1, hcond.2.2.1, hcond.2.2.2, rfl⟩
    next => cases h
  next => cases h

theorem pairOps_lawful : pairOps.Lawful where
  derive_comm := by
    intro a b ha hb
    have hmem : ∀ {k : Keys}, pairOps.parseKeys k.secretHex = some k →
        k = ⟨"b", "B"⟩ ∨ k = ⟨"s", "S"⟩ := fun hk => by
      simpa using List.mem_of_find?_eq_some hk
    rcases hmem ha with rfl | rfl <;> rcases hmem hb with rfl | rfl <;> rfl
  fromHex_derive := by
    intro a pk shared h
    unfold pairOps at h
    dsimp only at h
    split at h
    · cases h
      rfl
    · cases h
  fromHex_conv := by
    intro shared conv sign h
    cases h
    rfl
  unwrap_wrap := by
    intro stamp sender conv sign content e h
    unfold pairOps at h
    dsimp only at h
    split at h
    next hnow =>
      cases h
      refine ⟨rfl, rfl, stamp.now.toNat, fun allowed now hmem hle => ?_⟩
      have hclock : (stamp.now.toNat : Int) = stamp.now := Int.toNat_of_nonneg hnow
      simp [pairOps, hmem, hclock, hle]
    next => cases h
  sender_mem := by
    intro conv author allowed e now m h
    obtain ⟨_, _, _, _, _, hmem, _, rfl⟩ := pairOps_unwrap h
    exact hmem
  unwrap_allowed := by
    intro conv author allowed allowed' e now m h hmem
    obtain ⟨recipient, sender, htags, hrecipient, hauthor, _, hnow, rfl⟩ := pairOps_unwrap h
    simp only [pairOps, htags]
    rw [if_pos ⟨hrecipient, hauthor, hmem, hnow⟩]
  author_eq := by
    intro conv author allowed e now m h
    obtain ⟨_, _, _, _, hauthor, _⟩ := pairOps_unwrap h
    exact hauthor

/-- The order of the two. -/
def pairOrder : SmallOrder :=
  { id := some 1, buyerTradePubkey := some "B", sellerTradePubkey := some "S" }

theorem pairOrder_parties : TradeParties pairOps pairOrder ⟨"b", "B"⟩ ⟨"s", "S"⟩ where
  buyerNamed := ⟨"B", rfl, by decide, rfl⟩
  sellerNamed := ⟨"S", rfl, by decide, rfl⟩
  buyerKeys := rfl
  sellerKeys := rfl
  apart := by decide

/-- The buyer's greeting. -/
def greeting : ChatEvent where
  id := 1000000
  kind := privateDirectMessage
  pubkey := "SIGN"
  pTags := ["CONV", "B"]
  content := "hi"

/-- Relays that answer the first query only. -/
def greetingFetch (filter : ChatFilter) : Except String (List ChatEvent) :=
  if filter.kind = privateDirectMessage then .ok [greeting] else .error "timeout"

theorem greetingFetch_answers : RelayAnswers greetingFetch where
  distinct := by
    intro filter events h
    unfold greetingFetch at h
    split at h
    · cases h
      exact List.pairwise_singleton _ _
    · cases h
  hash := by
    intro filter filter' events events' h h' e he e' he' _
    unfold greetingFetch at h h'
    split at h
    · split at h'
      · cases h
        cases h'
        rw [List.mem_singleton.1 he, List.mem_singleton.1 he']
      · cases h'
    · cases h

theorem greeting_read {allowedSigners : List PublicKey} (h : "B" ∈ allowedSigners)
    (since : Option Int) :
    fetchChatMessagesForSharedKey pairOps greetingFetch ⟨"bs", "BS"⟩ allowedSigners since 1000100
      1000100 = .ok [⟨"B", "hi", 1000000, 1000000⟩] := by
  have hfetch : fetchChatEvents greetingFetch ⟨"bs", "BS"⟩ ⟨"sign", "SIGN"⟩ since 1000100 =
      .ok [greeting] := rfl
  have hopen : unwrapGiftwrapWithSharedKey pairOps ⟨"bs", "BS"⟩ greeting allowedSigners 1000100 =
      .ok ⟨"B", "hi", 1000000, 1000000⟩ := by
    have hne : allowedSigners.isEmpty = false := List.isEmpty_eq_false_iff.2 (List.ne_nil_of_mem h)
    simp [unwrapGiftwrapWithSharedKey, unwrapChatEnvelope, pairOps, greeting, hne, h,
      privateDirectMessage, giftWrap]
  simp [fetchChatMessagesForSharedKey, hfetch, hopen, sortByTimestamp, Except.toOption,
    show pairOps.chatKeys ⟨"bs", "BS"⟩ = some (⟨"conv", "CONV"⟩, ⟨"sign", "SIGN"⟩) from rfl]

/-- With one of the two queries answered, the greeting is read. -/
theorem history_dual_read_greeting :
    ReadsHistory pairOps greetingFetch
      (historyFilters ⟨"bs", "BS"⟩ ⟨"sign", "SIGN"⟩ none 1000100) ⟨"bs", "BS"⟩ ["S", "B"] 1000100
      [⟨"B", "hi", 1000000, 1000000⟩] := by
  have h := history_dual_read pairOps_lawful greetingFetch_answers ⟨"bs", "BS"⟩ ["S", "B"] none
    1000100 1000100 (by decide)
  exact h.2.2 _ (greeting_read (by simp) none)

/-- What the buyer sends, the seller reads. -/
theorem order_chat_joins_pair :
    ∃ text' shared mine others, "bs" = shared.secretHex ∧
      orderChatCounterpartyAndSharedHex pairOps.chatOps ⟨"s", "S"⟩ pairOrder = some (text', "bs") ∧
      ChatRow pairOps ⟨"b", "B"⟩ ⟨"s", "S"⟩ shared "S" mine ∧
      ChatRow pairOps ⟨"s", "S"⟩ ⟨"b", "B"⟩ shared text' others := by
  have hbuyer : orderChatCounterpartyAndSharedHex pairOps.chatOps ⟨"b", "B"⟩ pairOrder =
      some ("S", "bs") := rfl
  obtain ⟨-, text', shared, mine, others, hhex, hresolve, hmine, hothers, -⟩ :=
    order_chat_joins_parties pairOps_lawful pairOrder_parties .asBuyer hbuyer
  exact ⟨text', shared, mine, others, hhex, hresolve, hmine, hothers⟩

end Mostrix.Chat
