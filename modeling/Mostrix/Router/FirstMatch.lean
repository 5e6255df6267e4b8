import Mostrix.Router.Waiters

/-!
# The first match answers a waiter

A waiter knows its trade key only: the first event that key opens is what it is handed, whatever
request id the event carries, and the flow refuses it afterwards when the id is not its own. So a
flow completes with its reply when the reply is the first match after the waiter was accepted, and
with an error when another DM of the same key came first (`first_match_completes`,
`status_dm_consumes_waiter`). No flow reports success on a reply with another id, in any run.

The proof follows one waiter through its life. `Accepted` is a waiter the listener holds for a flow
that still waits; a quiet step keeps it so, and the first match makes it `Resolved`, which no later
step undoes.
-/

namespace Mostrix.Router

variable {wire : Wire}

/-! ## What a flow makes of the event -/

/-- What a flow asks of a reply before it reports success. -/
def Flow.Accepts (flow : Flow) (u : UnwrappedMessage) : Prop :=
  flow.senderOk u.sender = true ∧ u.message.requestId = some flow.requestId ∧
    (∀ reason, u.message.payload ≠ some (.cantDo reason)) ∧ flow.onReply u.message = .ok ()

/-- A delivered event is one its key opens. -/
theorem unwrapIncoming_of_deliverable {e : Event} {key : PublicKey} {u : UnwrappedMessage}
    (h : deliverable wire e key = some u) : wire.unwrapIncoming e key = some u := by
  unfold deliverable at h
  split at h
  · exact (Option.filter_eq_some_iff.1 h).1
  · cases h

/-- A delivered event is of the transport's kind. -/
theorem kind_of_deliverable {e : Event} {key : PublicKey} {u : UnwrappedMessage}
    (h : deliverable wire e key = some u) : e.kind = wire.eventKind := by
  unfold deliverable at h
  split at h
  · assumption
  · cases h

/-- The flow reports success on a reply exactly when it accepts it. -/
theorem Flow.reply_eq_ok_iff {flow : Flow} {e : Event} {u : UnwrappedMessage} {m : MessageKind}
    (h : wire.unwrapIncoming e flow.tradeKey = some u) :
    flow.reply wire e = .ok (some m) ↔ m = u.message ∧ flow.Accepts u := by
  have hparse : (parseDmEvents wire e flow.tradeKey).head? = some u := by
    rw [parseDmEvents, h]
    rfl
  simp only [Flow.reply, hparse, Flow.Accepts]
  cases hs : flow.senderOk u.sender with
  | false =>
    refine ⟨?_, ?_⟩
    · intro h
      cases h
    · rintro ⟨-, hs', -⟩
      cases hs'
  | true =>
    simp only [if_true, true_and, bind, Except.bind]
    cases hr : handleMostroResponse u.message flow.requestId with
    | error msg =>
      refine ⟨?_, ?_⟩
      · intro h
        cases h
      · rintro ⟨-, hid, hpay, -⟩
        rw [handleMostroResponse_ok_iff.2 ⟨rfl, hid, hpay⟩] at hr
        cases hr
    | ok inner =>
      obtain ⟨rfl, hid, hpay⟩ := handleMostroResponse_ok_iff.1 hr
      dsimp only
      cases hon : flow.onReply u.message with
      | error msg =>
        refine ⟨?_, ?_⟩
        · intro h
          cases h
        · rintro ⟨-, -, -, hok⟩
          cases hok
      | ok _ =>
        refine ⟨?_, ?_⟩
        · intro h
          cases h
          exact ⟨rfl, hid, hpay, rfl⟩
        · rintro ⟨rfl, -⟩
          rfl

/-- A flow reports success on a reply with its own request id only. -/
theorem Flow.requestId_of_reply {flow : Flow} {e : Event} {m : MessageKind}
    (h : flow.reply wire e = .ok (some m)) : m.requestId = some flow.requestId := by
  cases hu : wire.unwrapIncoming e flow.tradeKey with
  | none =>
    simp only [Flow.reply, parseDmEvents, hu, Option.toList_none, List.head?_nil] at h
    split at h <;> cases h
  | some u =>
    obtain ⟨rfl, -, hid, -⟩ := (Flow.reply_eq_ok_iff hu).1 h
    exact hid

/-! ## What a step does to a wait -/

/-- What a step does to a wait on the flow's own turn. -/
def ownStep (wire : Wire) (a : RouterAction) (id : WaiterId) (w : Wait) : Wait :=
  match a with
  | .sent id' result => if id' = id then afterSend result w else w
  | .wake id' elapsed => if id' = id then afterWake wire elapsed w else w
  | _ => w

/-- The flow of a wait never changes. -/
@[simp] theorem ownStep_flow (a : RouterAction) (id : WaiterId) (w : Wait) :
    (ownStep wire a id w).flow = w.flow := by
  unfold ownStep afterSend afterWake
  repeat' split
  all_goals rfl

variable (wire) in
/-- A flow's own turn leaves what it was sent alone. -/
@[simp] theorem ownStep_response (a : RouterAction) (id : WaiterId) (w : Wait) :
    (ownStep wire a id w).response = w.response := by
  unfold ownStep afterSend afterWake
  repeat' split
  all_goals rfl

/-- The waits whose sender the listener uses or drops in a step. -/
def settledIds (wire : Wire) (s : RouterState) : RouterAction → List WaiterId
  | .recvCmd _ => ((s.commands.take 1).filterMap DmRouterCmd.waiter).map (·.responseTx)
  | .notification e => (s.pendingWaiters.filter (answered wire s e)).map (·.responseTx)
  | .respawn => s.registered.map (·.responseTx)
  | _ => []

/-- Those are waits whose waiter the listener has. -/
theorem settledIds_subset (s : RouterState) (a : RouterAction) :
    settledIds wire s a ⊆ s.registered.map (·.responseTx) := by
  cases a with
  | recvCmd subscribeOk =>
    refine List.map_subset _ fun p hp => List.mem_append_right _ ?_
    exact ((List.take_sublist 1 s.commands).filterMap _).subset hp
  | notification e =>
    refine List.map_subset _ fun p hp => List.mem_append_left _ ?_
    exact (List.mem_filter.1 hp).1
  | respawn => exact List.Subset.refl _
  | _ => exact List.nil_subset _

/-- Answering or cancelling waiters changes the responses of their waits. -/
theorem modifyAll_response {waits : Table WaiterId Wait} {id : WaiterId} {w : Wait}
    (hw : waits id = some w) (ids : List WaiterId) (r : Response) :
    ∃ r', waits.modifyAll ids (fun w => { w with response := r }) id = some { w with response := r' } ∧
      (id ∉ ids → r' = w.response) := by
  by_cases h : id ∈ ids
  · refine ⟨r, (Table.modifyAll_of_mem ?_ h).trans ?_, fun hn => absurd h hn⟩
    · exact fun _ => rfl
    · rw [hw]
      rfl
  · exact ⟨w.response, (Table.modifyAll_of_notMem h).trans hw, fun _ => rfl⟩

/-- Taking a command answers no waiter but the one it registers. -/
theorem recvCmd_waits {s : RouterState} {id : WaiterId} {w : Wait} (hw : s.waits id = some w)
    (subscribeOk : Bool) :
    ∃ r, (recvCmd subscribeOk s).waits id = some { w with response := r } ∧
      (id ∉ settledIds wire s (.recvCmd subscribeOk) → r = w.response) := by
  have hsame : ∃ r, s.waits id = some { w with response := r } ∧
      (id ∉ settledIds wire s (.recvCmd subscribeOk) → r = w.response) :=
    ⟨w.response, hw, fun _ => rfl⟩
  unfold recvCmd
  split
  · exact hsame
  · dsimp only
    split <;> exact hsame
  · next waiter rest hcmd =>
    have hcancel : ∃ r, cancel s.waits waiter.responseTx id = some { w with response := r } ∧
        (id ∉ settledIds wire s (.recvCmd subscribeOk) → r = w.response) := by
      obtain ⟨r, hr, hframe⟩ := modifyAll_response hw [waiter.responseTx] .canceled
      refine ⟨r, hr, fun hid => hframe ?_⟩
      simpa [settledIds, hcmd, DmRouterCmd.waiter] using hid
    unfold registerWaiter
    dsimp only
    repeat' split
    · exact hcancel
    · exact hsame
    · exact hsame
    · exact hcancel

variable (wire) in
/-- What a step does to a wait: the flow's own turn, and a response when the listener answers or
drops the waiter. -/
theorem next_waits {s : RouterState} {id : WaiterId} {w : Wait} (hw : s.waits id = some w)
    (a : RouterAction) :
    ∃ r, (next wire s a).waits id = some { ownStep wire a id w with response := r } ∧
      (id ∉ settledIds wire s a → r = w.response) := by
  have hsame : ∃ r, s.waits id = some { w with response := r } ∧
      (id ∉ settledIds wire s a → r = w.response) :=
    ⟨w.response, hw, fun _ => rfl⟩
  cases a with
  | waitForDm id' flow =>
    refine ⟨w.response, ?_, fun _ => rfl⟩
    show (waitForDm s id' flow).waits id = some w
    unfold waitForDm
    split
    · exact hw
    · next hnone =>
      have hid' : id ≠ id' := by
        rintro rfl
        rw [hnone] at hw
        cases hw
      exact (Table.put_of_ne hid').trans hw
  | sent id' result =>
    refine ⟨w.response, ?_, fun _ => rfl⟩
    rw [← ownStep_response wire (.sent id' result) id w]
    show s.waits.modify id' (afterSend result) id = some (ownStep wire (.sent id' result) id w)
    by_cases h : id' = id
    · subst h
      rw [Table.modify_self, hw]
      simp [ownStep]
    · rw [Table.modify_of_ne (Ne.symm h), hw]
      simp [ownStep, h]
  | wake id' elapsed =>
    refine ⟨w.response, ?_, fun _ => rfl⟩
    rw [← ownStep_response wire (.wake id' elapsed) id w]
    show s.waits.modify id' (afterWake wire elapsed) id = some (ownStep wire (.wake id' elapsed) id w)
    by_cases h : id' = id
    · subst h
      rw [Table.modify_self, hw]
      simp [ownStep]
    · rw [Table.modify_of_ne (Ne.symm h), hw]
      simp [ownStep, h]
  | trackOrder key => exact hsame
  | recvCmd subscribeOk => exact recvCmd_waits hw subscribeOk
  | gcTick => exact hsame
  | notification e =>
    show ∃ r, (satisfyWaiters wire s e).waits id = some { w with response := r } ∧ _
    unfold satisfyWaiters
    split
    · exact hsame
    · exact modifyAll_response hw _ (.event e)
  | untrack key => exact hsame
  | respawn => exact modifyAll_response hw _ .canceled

/-- A wait whose sender a step leaves alone changes on its flow's own turn only. -/
theorem next_waits_of_notMem {s : RouterState} {id : WaiterId} {w : Wait} {a : RouterAction}
    (hw : s.waits id = some w) (hid : id ∉ settledIds wire s a) :
    (next wire s a).waits id = some (ownStep wire a id w) := by
  obtain ⟨r, hr, hframe⟩ := next_waits wire hw a
  rw [hr, hframe hid, ← ownStep_response wire a id w]

/-- A wait that a step creates is at its beginning. -/
theorem next_waits_new {s : RouterState} {id : WaiterId} {w : Wait} (hnone : s.waits id = none)
    (a : RouterAction) (hw : (next wire s a).waits id = some w) : w.phase = .sending := by
  have hstays : (next wire s a).waits id = none → w.phase = .sending := by
    intro h
    rw [h] at hw
    cases hw
  cases a with
  | waitForDm id' flow =>
    change (waitForDm s id' flow).waits id = some w at hw
    unfold waitForDm at hw
    split at hw
    · rw [hnone] at hw
      cases hw
    · by_cases h : id = id'
      · subst h
        obtain rfl : { flow := flow } = w := by simpa using hw
        rfl
      · have hw' := (Table.put_of_ne h).symm.trans hw
        rw [hnone] at hw'
        cases hw'
  | sent id' result => exact hstays (Table.modify_eq_none hnone)
  | wake id' elapsed => exact hstays (Table.modify_eq_none hnone)
  | trackOrder key => exact hstays hnone
  | recvCmd subscribeOk =>
    refine hstays ?_
    show (recvCmd subscribeOk s).waits id = none
    unfold recvCmd registerWaiter
    dsimp only
    repeat' split
    all_goals first | exact hnone | exact Table.modify_eq_none hnone
  | gcTick => exact hstays hnone
  | notification e =>
    refine hstays ?_
    show (satisfyWaiters wire s e).waits id = none
    unfold satisfyWaiters
    split
    · exact hnone
    · exact Table.modifyAll_eq_none hnone
  | untrack key => exact hstays hnone
  | respawn => exact hstays (Table.modifyAll_eq_none hnone)

/-! ## The waiters of a state -/

/-- The waiter a step announces. -/
def announced (s : RouterState) : RouterAction → List PendingDmWaiter
  | .waitForDm id flow =>
    match s.waits id with
    | some _ => []
    | none => [⟨flow.tradeKey, id⟩]
  | _ => []

/-- A waiter is announced under a fresh name and with its flow's key. -/
theorem of_mem_announced {s : RouterState} {a : RouterAction} {p : PendingDmWaiter}
    (h : p ∈ announced s a) :
    s.waits p.responseTx = none ∧
      ∃ flow, a = .waitForDm p.responseTx flow ∧ flow.tradeKey = p.tradeKey := by
  cases a with
  | waitForDm id flow =>
    simp only [announced] at h
    split at h
    · cases h
    · next hnone =>
      obtain rfl := List.mem_singleton.1 h
      exact ⟨hnone, flow, rfl, rfl⟩
  | _ => cases h

/-- At most one waiter is announced. -/
theorem announced_nodup (s : RouterState) (a : RouterAction) :
    ((announced s a).map (·.responseTx)).Nodup := by
  cases a with
  | waitForDm id flow =>
    simp only [announced]
    split
    · exact List.nodup_nil
    · exact List.nodup_singleton _
  | _ => exact List.nodup_nil

/-- Filtering the waiters the listener holds drops waiters of the state. -/
theorem registered_sublist_of_filter (s : RouterState) (p : PendingDmWaiter → Bool) :
    { s with pendingWaiters := s.pendingWaiters.filter p }.registered.Sublist s.registered :=
  List.filter_sublist.append_right _

/-- Registering moves a waiter from the channel to the listener, or drops it. -/
theorem registerWaiter_registered (subscribeOk : Bool) (s : RouterState) (w : PendingDmWaiter) :
    (registerWaiter subscribeOk s w).registered.Sublist
      (s.pendingWaiters ++ w :: s.commands.filterMap DmRouterCmd.waiter) := by
  have hkeep : ((pruneClosedWaiters s).pendingWaiters ++ [w] ++
      s.commands.filterMap DmRouterCmd.waiter).Sublist
        (s.pendingWaiters ++ w :: s.commands.filterMap DmRouterCmd.waiter) := by
    rw [List.append_assoc]
    exact List.filter_sublist.append_right _
  have hdrop : ((pruneClosedWaiters s).pendingWaiters ++
      s.commands.filterMap DmRouterCmd.waiter).Sublist
        (s.pendingWaiters ++ w :: s.commands.filterMap DmRouterCmd.waiter) :=
    List.filter_sublist.append (List.sublist_cons_self ..)
  unfold registerWaiter
  dsimp only
  repeat' split
  · exact hdrop
  · exact hkeep
  · exact hkeep
  · exact hdrop

variable (wire) in
/-- A step only drops waiters, but for the one it announces. -/
theorem next_registered (s : RouterState) (a : RouterAction) :
    (next wire s a).registered.Sublist (s.registered ++ announced s a) := by
  cases a with
  | waitForDm id flow =>
    show (waitForDm s id flow).registered.Sublist (s.registered ++ announced s (.waitForDm id flow))
    simp only [waitForDm, announced]
    cases s.waits id with
    | some w => exact List.sublist_append_left ..
    | none =>
      simp only [RouterState.registered, List.filterMap_append, List.append_assoc]
      exact .refl _
  | sent id result => exact List.sublist_append_left ..
  | wake id elapsed => exact List.sublist_append_left ..
  | trackOrder key =>
    refine List.Sublist.trans ?_ (List.sublist_append_left ..)
    show (s.pendingWaiters ++ (s.commands ++ [DmRouterCmd.trackOrder key]).filterMap _).Sublist _
    rw [List.filterMap_append]
    exact (List.append_nil _).symm ▸ .refl _
  | recvCmd subscribeOk =>
    refine List.Sublist.trans ?_ (List.sublist_append_left ..)
    show (recvCmd subscribeOk s).registered.Sublist s.registered
    unfold recvCmd
    split
    · exact .refl _
    · next key rest hcmd =>
      have h : s.registered = { s with commands := rest }.registered := by
        rw [RouterState.registered, hcmd]
        rfl
      rw [h]
      dsimp only
      split <;> exact .refl _
    · next w rest hcmd =>
      have h : s.registered = s.pendingWaiters ++ w :: rest.filterMap DmRouterCmd.waiter := by
        rw [RouterState.registered, hcmd]
        rfl
      rw [h]
      exact registerWaiter_registered subscribeOk { s with commands := rest } w
  | gcTick => exact (registered_sublist_of_filter s _).trans (List.sublist_append_left ..)
  | notification e =>
    refine List.Sublist.trans ?_ (List.sublist_append_left ..)
    show (satisfyWaiters wire s e).registered.Sublist s.registered
    unfold satisfyWaiters
    split
    · exact .refl _
    · exact registered_sublist_of_filter s _
  | untrack key => exact List.sublist_append_left ..
  | respawn => exact List.nil_sublist _

/-- What holds of the waiters in every reachable state: no `oneshot` has two senders, and a waiter's
key is that of the flow that waits. -/
structure WaitersOk (s : RouterState) : Prop where
  nodup : (s.registered.map (·.responseTx)).Nodup
  live : ∀ p ∈ s.registered, ∃ w, s.waits p.responseTx = some w ∧ w.flow.tradeKey = p.tradeKey

/-- Every step keeps the waiters in order. -/
theorem next_waitersOk {s : RouterState} (h : WaitersOk s) (a : RouterAction) :
    WaitersOk (next wire s a) := by
  have hsub := next_registered wire s a
  refine ⟨?_, ?_⟩
  · refine (hsub.map _).nodup ?_
    rw [List.map_append]
    refine List.Nodup.append h.nodup (announced_nodup s a) ?_
    intro id hid hid'
    obtain ⟨p, hp, rfl⟩ := List.mem_map.1 hid
    obtain ⟨q, hq, hqp⟩ := List.mem_map.1 hid'
    obtain ⟨w, hw, -⟩ := h.live p hp
    have hnone := (of_mem_announced hq).1
    rw [show q.responseTx = p.responseTx from hqp, hw] at hnone
    cases hnone
  · intro p hp
    rcases List.mem_append.1 (hsub.subset hp) with hold | hann
    · obtain ⟨w, hw, hkey⟩ := h.live p hold
      obtain ⟨r, hr, -⟩ := next_waits wire hw a
      exact ⟨_, hr, (congrArg Flow.tradeKey (ownStep_flow a _ w)).trans hkey⟩
    · obtain ⟨hnone, flow, rfl, hkey⟩ := of_mem_announced hann
      refine ⟨{ flow := flow }, ?_, hkey⟩
      show (waitForDm s p.responseTx flow).waits p.responseTx = _
      unfold waitForDm
      rw [hnone]
      exact Table.put_self

/-- Every reachable state has its waiters in order. -/
theorem runFrom_init_waitersOk (run : List RouterAction) : WaitersOk (runFrom wire .init run) := by
  have hinit : WaitersOk .init := ⟨List.nodup_nil, fun p hp => by cases hp⟩
  exact Run.invariant (I := WaitersOk) (fun s a h => next_waitersOk h a) run hinit

/-! ## The life of one waiter -/

/-- The listener holds the waiter of a flow that still waits. -/
structure Accepted (s : RouterState) (id : WaiterId) (flow : Flow) : Prop where
  held : ⟨flow.tradeKey, id⟩ ∈ s.pendingWaiters
  waiting : ∃ w, s.waits id = some w ∧ w.flow = flow ∧ w.response = .empty ∧
    ∀ result, w.phase ≠ .finished result

/-- The step does not end the wait: the request goes out, the deadline does not pass and the
listener keeps running. -/
def KeepsWaiting (id : WaiterId) : RouterAction → Prop
  | .sent id' result => id' = id → result = .ok ()
  | .wake id' elapsed => id' = id → elapsed = false
  | .respawn => False
  | _ => True

/-- The step brings nothing the key opens. -/
def NoMatch (wire : Wire) (tradeKey : PublicKey) : RouterAction → Prop
  | .notification e => deliverable wire e tradeKey = none
  | _ => True

/-- The waiter was handed the event, and its flow returns nothing else than its reply to it. -/
structure Resolved (wire : Wire) (s : RouterState) (id : WaiterId) (flow : Flow) (e : Event) : Prop where
  wait : ∃ w, s.waits id = some w ∧ w.flow = flow ∧ w.response = .event e ∧
    ∀ result, w.phase = .finished result → result = flow.reply wire e
  gone : id ∉ s.registered.map (·.responseTx)

/-- The waiter of an accepted flow is open. -/
theorem Accepted.not_isClosed {s : RouterState} {id : WaiterId} {flow : Flow}
    (h : Accepted s id flow) : isClosed s.waits id = false := by
  obtain ⟨⟨flow, phase, resp⟩, hw, -, -, hopen⟩ := h.waiting
  unfold isClosed
  rw [hw]
  cases phase with
  | sending => rfl
  | awaiting => rfl
  | finished result => exact absurd rfl (hopen result)

/-- A flow that nothing was sent to is not finished by a step that keeps it waiting. -/
theorem ownStep_open {id : WaiterId} {w : Wait} {a : RouterAction} (hkeep : KeepsWaiting id a)
    (hresp : w.response = .empty) (hopen : ∀ result, w.phase ≠ .finished result)
    (result : Except String (Option MessageKind)) :
    (ownStep wire a id w).phase ≠ .finished result := by
  obtain ⟨flow, phase, resp⟩ := w
  obtain rfl : resp = .empty := hresp
  cases a with
  | sent id' _ | wake id' _ =>
    simp only [ownStep]
    split
    · next h =>
      obtain rfl := hkeep h
      cases phase with
      | sending => exact Phase.noConfusion
      | awaiting => exact Phase.noConfusion
      | finished r => exact absurd rfl (hopen r)
    · exact hopen result
  | _ => exact hopen result

/-- A step that brings no match settles no accepted flow. -/
theorem Accepted.notMem_settledIds {s : RouterState} {id : WaiterId} {flow : Flow}
    {a : RouterAction} (hok : WaitersOk s) (h : Accepted s id flow) (hkeep : KeepsWaiting id a)
    (hquiet : NoMatch wire flow.tradeKey a) : id ∉ settledIds wire s a := by
  intro hmem
  cases a with
  | recvCmd subscribeOk =>
    obtain ⟨p, hp, hid⟩ := List.mem_map.1 hmem
    have hnodup := hok.nodup
    unfold RouterState.registered at hnodup
    rw [List.map_append] at hnodup
    refine (List.nodup_append.1 hnodup).2.2 id (List.mem_map_of_mem h.held) id ?_ rfl
    rw [← hid]
    exact List.mem_map_of_mem (((List.take_sublist 1 s.commands).filterMap _).subset hp)
  | notification e =>
    obtain ⟨p, hp, rfl⟩ := List.mem_map.1 hmem
    obtain ⟨hpend, hans⟩ := List.mem_filter.1 hp
    obtain ⟨w, hw, hkey⟩ := hok.live p (List.mem_append_left _ hpend)
    obtain ⟨w', hw', rfl, -⟩ := h.waiting
    obtain rfl : w = w' := Option.some.inj (hw.symm.trans hw')
    have hsome := (Bool.and_eq_true_iff.1 hans).2
    rw [← hkey, show deliverable wire e w.flow.tradeKey = none from hquiet] at hsome
    cases hsome
  | respawn => exact hkeep
  | _ => cases hmem

/-- An accepted flow stays so in every step that keeps it waiting and brings no match. -/
theorem accepted_next {s : RouterState} {id : WaiterId} {flow : Flow} {a : RouterAction}
    (hok : WaitersOk s) (h : Accepted s id flow) (hkeep : KeepsWaiting id a)
    (hquiet : NoMatch wire flow.tradeKey a) : Accepted (next wire s a) id flow := by
  refine ⟨?_, ?_⟩
  · have hopen := h.not_isClosed
    have hheld := h.held
    cases a with
    | waitForDm id' flow' =>
      show _ ∈ (waitForDm s id' flow').pendingWaiters
      unfold waitForDm
      split <;> exact hheld
    | recvCmd subscribeOk =>
      have hprune : ⟨flow.tradeKey, id⟩ ∈
          s.pendingWaiters.filter fun w => !isClosed s.waits w.responseTx :=
        List.mem_filter.2 ⟨hheld, by rw [hopen]; rfl⟩
      show _ ∈ (recvCmd subscribeOk s).pendingWaiters
      unfold recvCmd registerWaiter
      dsimp only
      repeat' split
      all_goals first
        | exact hheld
        | exact hprune
        | exact List.mem_append_left _ hprune
    | gcTick => exact List.mem_filter.2 ⟨hheld, by rw [hopen]; rfl⟩
    | notification e =>
      show _ ∈ (satisfyWaiters wire s e).pendingWaiters
      unfold satisfyWaiters
      split
      · exact hheld
      · refine List.mem_filter.2 ⟨hheld, ?_⟩
        rw [hopen, show deliverable wire e flow.tradeKey = none from hquiet]
        rfl
    | respawn => exact hkeep.elim
    | _ => exact hheld
  · obtain ⟨w, hw, rfl, hresp, hopen⟩ := h.waiting
    have hid := h.notMem_settledIds hok hkeep hquiet
    refine ⟨_, next_waits_of_notMem hw hid, ownStep_flow a id w, ?_, ownStep_open hkeep hresp hopen⟩
    exact (ownStep_response wire a id w).trans hresp

/-- The first match resolves an accepted flow. -/
theorem resolved_of_match {s : RouterState} {id : WaiterId} {flow : Flow} {e : Event}
    {u : UnwrappedMessage} (hok : WaitersOk s) (h : Accepted s id flow)
    (hu : deliverable wire e flow.tradeKey = some u) :
    Resolved wire (next wire s (.notification e)) id flow e := by
  have hopen := h.not_isClosed
  have hkind : ¬ e.kind ≠ wire.eventKind := fun hne => hne (kind_of_deliverable hu)
  have hnext : next wire s (.notification e) = satisfyWaiters wire s e := rfl
  rw [hnext, satisfyWaiters, if_neg hkind]
  refine ⟨?_, ?_⟩
  · obtain ⟨w, hw, rfl, -, hphase⟩ := h.waiting
    refine ⟨{ w with response := .event e }, ?_, rfl, rfl, fun result hr => absurd hr (hphase result)⟩
    have hans : answered wire s e ⟨w.flow.tradeKey, id⟩ = true := by
      rw [answered, hopen, hu]
      rfl
    have hmem : id ∈ (s.pendingWaiters.filter (answered wire s e)).map (·.responseTx) :=
      List.mem_map.2 ⟨_, List.mem_filter.2 ⟨h.held, hans⟩, rfl⟩
    refine (Table.modifyAll_of_mem ?_ hmem).trans ?_
    · exact fun _ => rfl
    · rw [hw]
      rfl
  · intro hmem
    obtain ⟨p, hp, rfl⟩ := List.mem_map.1 hmem
    rcases List.mem_append.1 hp with hpend | hcmd
    · -- a held waiter of this wait has its key, so the event answered it
      obtain ⟨hold, hkept⟩ := List.mem_filter.1 hpend
      obtain ⟨w, hw, hkey⟩ := hok.live p (List.mem_append_left _ hold)
      obtain ⟨w', hw', rfl, -⟩ := h.waiting
      obtain rfl : w = w' := Option.some.inj (hw.symm.trans hw')
      have hnone := (Bool.and_eq_true_iff.1 hkept).2
      rw [← hkey, hu] at hnone
      cases hnone
    · -- one still in the channel would be a second sender
      have hnodup := hok.nodup
      unfold RouterState.registered at hnodup
      rw [List.map_append] at hnodup
      exact (List.nodup_append.1 hnodup).2.2 _ (List.mem_map_of_mem h.held) _
        (List.mem_map_of_mem hcmd) rfl

/-- A flow that was handed an event finishes with its reply to it or not at all. -/
theorem ownStep_finished {id : WaiterId} {w : Wait} {a : RouterAction} {e : Event}
    (hresp : w.response = .event e) (hsent : ∀ result, a = .sent id result → result = .ok ())
    (hphase : ∀ result, w.phase = .finished result → result = w.flow.reply wire e)
    (result : Except String (Option MessageKind))
    (h : (ownStep wire a id w).phase = .finished result) : result = w.flow.reply wire e := by
  obtain ⟨flow, phase, resp⟩ := w
  obtain rfl : resp = .event e := hresp
  cases a with
  | sent id' r =>
    simp only [ownStep] at h
    split at h
    · next hid =>
      obtain rfl := hsent r (by rw [hid])
      cases phase with
      | sending => cases h
      | awaiting => cases h
      | finished r => exact hphase result h
    · exact hphase result h
  | wake id' elapsed =>
    simp only [ownStep] at h
    split at h
    · cases phase with
      | sending => cases h
      | awaiting => exact (Phase.finished.inj h).symm
      | finished r => exact hphase result h
    · exact hphase result h
  | _ => exact hphase result h

/-- A resolved wait stays so while its request goes out. -/
theorem resolved_next {s : RouterState} {id : WaiterId} {flow : Flow} {e : Event} {a : RouterAction}
    (h : Resolved wire s id flow e) (hsent : ∀ result, a = .sent id result → result = .ok ()) :
    Resolved wire (next wire s a) id flow e := by
  obtain ⟨⟨w, hw, rfl, hresp, hphase⟩, hgone⟩ := h
  have hsettled : id ∉ settledIds wire s a := fun hmem => hgone (settledIds_subset s a hmem)
  refine ⟨⟨_, next_waits_of_notMem hw hsettled, ownStep_flow a id w, ?_, ?_⟩, ?_⟩
  · exact (ownStep_response wire a id w).trans hresp
  · exact ownStep_finished hresp hsent hphase
  · intro hmem
    obtain ⟨p, hp, rfl⟩ := List.mem_map.1 hmem
    rcases List.mem_append.1 ((next_registered wire s a).subset hp) with hold | hann
    · exact hgone (List.mem_map_of_mem hold)
    · rw [(of_mem_announced hann).1] at hw
      cases hw

/-! ## Runs -/

/-- An accepted flow stays so through a run that keeps it waiting and brings no match. -/
theorem accepted_runFrom {s : RouterState} {id : WaiterId} {flow : Flow} {mid : List RouterAction}
    (hok : WaitersOk s) (h : Accepted s id flow)
    (hmid : ∀ a ∈ mid, KeepsWaiting id a ∧ NoMatch wire flow.tradeKey a) :
    WaitersOk (runFrom wire s mid) ∧ Accepted (runFrom wire s mid) id flow := by
  induction mid generalizing s with
  | nil => exact ⟨hok, h⟩
  | cons a mid ih =>
    obtain ⟨hkeep, hquiet⟩ := hmid a List.mem_cons_self
    exact ih (next_waitersOk hok a) (accepted_next hok h hkeep hquiet)
      fun b hb => hmid b (List.mem_cons_of_mem a hb)

/-- A resolved wait stays so through a run in which its request goes out. -/
theorem resolved_runFrom {s : RouterState} {id : WaiterId} {flow : Flow} {e : Event}
    {after : List RouterAction} (h : Resolved wire s id flow e)
    (hafter : ∀ result, .sent id result ∈ after → result = .ok ()) :
    Resolved wire (runFrom wire s after) id flow e := by
  induction after generalizing s with
  | nil => exact h
  | cons a after ih =>
    refine ih (resolved_next h ?_) fun result hr => hafter result (List.mem_cons_of_mem a hr)
    rintro result rfl
    exact hafter result List.mem_cons_self

/-- The flow completes with its reply to the event: it returns nothing else, and it returns that as
soon as its request is out and it is polled. -/
def CompletesWith (wire : Wire) (s : RouterState) (id : WaiterId) (flow : Flow) (e : Event) : Prop :=
  (∀ w result, s.waits id = some w → w.phase = .finished result → result = flow.reply wire e) ∧
    ∀ elapsed, ∃ w, (runFrom wire s [.sent id (.ok ()), .wake id elapsed]).waits id = some w ∧
      w.phase = .finished (flow.reply wire e)

/-- A resolved flow completes with its reply to the event. -/
theorem Resolved.completesWith {s : RouterState} {id : WaiterId} {flow : Flow} {e : Event}
    (h : Resolved wire s id flow e) : CompletesWith wire s id flow e := by
  obtain ⟨⟨flow', phase, resp⟩, hw, rfl, hresp, hphase⟩ := h.wait
  obtain rfl : resp = .event e := hresp
  refine ⟨?_, ?_⟩
  · intro w result hw' hr
    obtain rfl := Option.some.inj (hw.symm.trans hw')
    exact hphase result hr
  · intro elapsed
    have h1 : (next wire s (.sent id (.ok ()))).waits id = _ :=
      (Table.modify_self).trans (congrArg (Option.map _) hw)
    have h2 : (runFrom wire s [.sent id (.ok ()), .wake id elapsed]).waits id = _ :=
      (Table.modify_self).trans (congrArg (Option.map _) h1)
    refine ⟨_, h2, ?_⟩
    cases phase with
    | sending => rfl
    | awaiting => rfl
    | finished result =>
      exact congrArg Phase.finished (hphase result rfl)

/-- A flow that reports success reports it on a reply with its own id. -/
def RepliesMatch (s : RouterState) : Prop :=
  ∀ id w m, s.waits id = some w → w.phase = .finished (.ok (some m)) →
    m.requestId = some w.flow.requestId

/-- A flow's own turn reports success on a reply with its own id only. -/
theorem ownStep_repliesMatch {id : WaiterId} {w : Wait} {a : RouterAction} {m : MessageKind}
    (hold : w.phase = .finished (.ok (some m)) → m.requestId = some w.flow.requestId)
    (h : (ownStep wire a id w).phase = .finished (.ok (some m))) :
    m.requestId = some w.flow.requestId := by
  obtain ⟨flow, phase, resp⟩ := w
  cases a with
  | sent id' r =>
    simp only [ownStep] at h
    split at h
    · cases phase with
      | sending => cases r <;> cases h
      | awaiting => cases h
      | finished result => exact hold h
    · exact hold h
  | wake id' elapsed =>
    simp only [ownStep] at h
    split at h
    · cases phase with
      | sending => cases h
      | finished result => exact hold h
      | awaiting =>
        cases resp with
        | event e => exact Flow.requestId_of_reply (Phase.finished.inj h)
        | canceled => cases h
        | empty =>
          simp only [afterWake, Flow.silence] at h
          split at h
          · have hsilence := Phase.finished.inj h
            split at hsilence <;> cases hsilence
          · cases h
    · exact hold h
  | _ => exact hold h

/-- Every step keeps replies matched. -/
theorem next_repliesMatch {s : RouterState} (h : RepliesMatch s) (a : RouterAction) :
    RepliesMatch (next wire s a) := by
  intro id w m hw hphase
  cases hold : s.waits id with
  | none =>
    rw [next_waits_new hold a hw] at hphase
    cases hphase
  | some v =>
    obtain ⟨r, hr, -⟩ := next_waits wire hold a
    obtain rfl := Option.some.inj (hr.symm.trans hw)
    rw [ownStep_flow]
    exact ownStep_repliesMatch (h id v m hold) hphase

/-- The first match after a waiter was accepted is what its flow completes with, and it is reported
as a success exactly when it is the reply with the flow's request id, no refusal, and one the flow
accepts. No flow reports success on a reply with another id. -/
theorem first_match_completes (wire : Wire) :
    (∀ (before mid after : List RouterAction) (id : WaiterId) (flow : Flow) (e : Event)
        (u : UnwrappedMessage),
      Accepted (runFrom wire .init before) id flow →
      (∀ a ∈ mid, KeepsWaiting id a ∧ NoMatch wire flow.tradeKey a) →
      deliverable wire e flow.tradeKey = some u →
      (∀ result, .sent id result ∈ after → result = .ok ()) →
      CompletesWith wire (runFrom wire .init (before ++ mid ++ .notification e :: after)) id flow e ∧
        ∀ m, flow.reply wire e = .ok (some m) ↔ m = u.message ∧ flow.Accepts u) ∧
      ∀ run, RepliesMatch (runFrom wire .init run) := by
  refine ⟨?_, ?_⟩
  · intro before mid after id flow e u hacc hmid hu hafter
    obtain ⟨hok, hacc'⟩ := accepted_runFrom (runFrom_init_waitersOk before) hacc hmid
    have hres := resolved_runFrom (resolved_of_match hok hacc' hu) hafter
    have hrun : runFrom wire .init (before ++ mid ++ .notification e :: after) =
        runFrom wire (next wire (runFrom wire (runFrom wire .init before) mid) (.notification e))
          after := by
      simp only [runFrom, List.foldl_append, List.foldl_cons]
    rw [hrun]
    exact ⟨hres.completesWith, fun m => Flow.reply_eq_ok_iff (unwrapIncoming_of_deliverable hu)⟩
  · intro run
    have hinit : RepliesMatch .init := fun id w m hw => by cases hw
    exact Run.invariant (I := RepliesMatch) (fun s a h => next_repliesMatch h a) run hinit

/-! ## Two DMs for one key -/

/-- A take-order flow on one trade key. -/
def takeFlow : Flow := { tradeKey := "trade", requestId := 7 }

/-- A status DM of the same trade, which answers no request. -/
def statusDm : Event := { id := 1, kind := 14, pubkey := "mostro", content := "status" }

/-- Mostro's answer to the request. -/
def replyDm : Event := { id := 2, kind := 14, pubkey := "mostro", content := "reply" }

/-- What the answer says. -/
def replyMessage : UnwrappedMessage where
  message := { action := .payInvoice, requestId := some 7 }
  sender := "mostro"
  signed := true

/-- A wire on which the trade key opens both. -/
def twoDmWire : Wire where
  eventKind := 14
  unwrapIncoming e key :=
    if key ≠ "trade" then none
    else if e = statusDm then
      some { message := { action := .waitingSellerToPay }, sender := "mostro", signed := true }
    else if e = replyDm then some replyMessage
    else none

/-- The request is out and its waiter accepted. -/
def takeAnnounced : List RouterAction :=
  [.waitForDm 0 takeFlow, .recvCmd true, .sent 0 (.ok ())]

theorem takeAnnounced_accepted : Accepted (runFrom twoDmWire .init takeAnnounced) 0 takeFlow := by
  refine ⟨List.mem_singleton.2 rfl, _, rfl, rfl, rfl, ?_⟩
  intro result h
  cases h

/-- The flow completes with its reply when that comes first, a DM of another kind before it
notwithstanding. -/
theorem first_match_completes_reply :
    CompletesWith twoDmWire
      (runFrom twoDmWire .init
        (takeAnnounced ++ [.notification { statusDm with kind := 1059 }] ++
          .notification replyDm :: [.notification statusDm]))
      0 takeFlow replyDm := by
  refine ((first_match_completes twoDmWire).1 takeAnnounced _ _ 0 takeFlow replyDm replyMessage
    takeAnnounced_accepted ?_ (by decide) ?_).1
  · intro a ha
    obtain rfl := List.mem_singleton.1 ha
    exact ⟨trivial, rfl⟩
  · intro result h
    cases List.mem_singleton.1 h

/-- A status DM that comes first consumes the waiter: the reply carries the flow's request id, and
the flow has failed on the status DM. -/
theorem status_dm_consumes_waiter :
    ¬ ∀ (wire : Wire) (before mid : List RouterAction) (id : WaiterId) (flow : Flow) (e : Event)
        (u : UnwrappedMessage),
      Accepted (runFrom wire .init before) id flow → (∀ a ∈ mid, KeepsWaiting id a) →
      deliverable wire e flow.tradeKey = some u → u.message.requestId = some flow.requestId →
      CompletesWith wire (runFrom wire .init (before ++ mid ++ [.notification e])) id flow e := by
  intro h
  have hmid : ∀ a ∈ [RouterAction.notification statusDm], KeepsWaiting 0 a := by
    intro a ha
    obtain rfl := List.mem_singleton.1 ha
    trivial
  obtain ⟨-, hwake⟩ := h twoDmWire takeAnnounced [.notification statusDm] 0 takeFlow replyDm
    replyMessage takeAnnounced_accepted hmid (by decide) rfl
  obtain ⟨w, hw, hphase⟩ := hwake false
  obtain rfl := Option.some.inj hw
  cases hphase

end Mostrix.Router
