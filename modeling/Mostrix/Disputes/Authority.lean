import Mostrix.Disputes.Requests
import Mostrix.Library.Run

/-!
# On whose word a dispute is closed

Over every interleaving of the admin's tasks with one another, with the relay reconcile and with
restarts, whoever the replies come from: a row of `admin_disputes` is one that Mostro has handed
over, and its status is in progress or one that Mostro has given, in an answer to a request about
that order or on the relay. `RowWrite` and `NewCall` say what a step can do, and every invariant is
read off them.
-/

namespace Mostrix.Disputes

open Chat

/-! ## What a reply that is accepted says -/

theorem replyOf_ok {mostro : PublicKey} {received : Received} {reply : DisputeReply}
    (h : replyOf mostro received = .ok reply) :
    reply ∈ received.messages ∧ reply.sender = mostro := by
  unfold replyOf at h
  split at h
  · cases h
  · cases h
  · next r rest =>
    split at h
    · cases h
    · next hsender =>
      cases h
      exact ⟨List.mem_cons_self, not_not.1 hsender⟩

/-- An acknowledgement is Mostro's, and carries the request id. -/
theorem executeAdminFinalize_ok {expected : Action} {mostro : PublicKey} {requestId : Nat}
    {received : Received} {ack : AdminFinalizeAck}
    (h : executeAdminFinalize expected mostro requestId received = .ok ack) :
    ∃ reply ∈ received.messages, reply.sender = mostro ∧
      reply.message.requestId = some requestId ∧
      adminFinalizeAck reply.message.action expected = .ok ack := by
  unfold executeAdminFinalize at h
  cases hreply : replyOf mostro received with
  | error e =>
    rw [hreply] at h
    cases h
  | ok reply =>
    simp only [hreply] at h
    obtain ⟨hmem, hsender⟩ := replyOf_ok hreply
    cases hinner : handleMostroResponse reply.message requestId with
    | error e =>
      simp only [hinner] at h
      cases h
    | ok inner =>
      simp only [hinner] at h
      obtain ⟨rfl, hid, -⟩ := handleMostroResponse_ok_iff.1 hinner
      exact ⟨reply, hmem, hsender, hid, h⟩

/-- What an acknowledgement stands for. -/
theorem adminFinalizeAck_ok {action expected : Action} {ack : AdminFinalizeAck}
    (h : adminFinalizeAck action expected = .ok ack) :
    (ack = .confirmed ∧ action = expected) ∨
      (ack = .alreadyCooperativelyCanceled ∧ action = .cooperativeCancelAccepted) := by
  unfold adminFinalizeAck at h
  split at h
  · next hexpected =>
    cases h
    exact .inl ⟨rfl, hexpected⟩
  · split at h
    · next hcoop =>
      cases h
      exact .inr ⟨rfl, hcoop⟩
    · cases h

/-- Mostro's reply to a take, with the dispute it hands over. -/
structure HandsOver (mostro : PublicKey) (disputeId : Uuid) (info : SolverDisputeInfo)
    (reply : DisputeReply) : Prop where
  sender : reply.sender = mostro
  action : reply.message.action = .adminTookDispute
  dispute : reply.message.payload = some (.dispute disputeId)
  info : reply.disputeInfo = some info

theorem executeTakeDispute_ok {mostro : PublicKey} {rows : Table Uuid AdminDispute}
    {disputeId : Uuid} {received : Received} {info : SolverDisputeInfo}
    (h : executeTakeDispute mostro rows disputeId received = .ok info) :
    ∃ reply ∈ received.messages, ∃ given, HandsOver mostro disputeId given reply ∧
      info = { given with status := DisputeStatus.inProgress.text } := by
  unfold executeTakeDispute at h
  cases hreply : replyOf mostro received with
  | error e =>
    rw [hreply] at h
    cases h
  | ok reply =>
    simp only [hreply] at h
    obtain ⟨hmem, hsender⟩ := replyOf_ok hreply
    split at h
    · next haction =>
      split at h
      · next id given hpayload hinfo =>
        split at h
        · cases h
        · next hid =>
          split at h
          · cases h
          · cases h
            obtain rfl : id = disputeId := not_not.1 hid
            exact ⟨reply, hmem, given, ⟨hsender, haction, hpayload, hinfo⟩, rfl⟩
      · cases h
    · cases h

/-! ## What a step can do -/

/-- What becomes of the table. -/
inductive RowWrite (s : AdminState) (log : AdminLog) : Table Uuid AdminDispute → Prop
  | same : RowWrite s log s.rows
  | insert {call : Nat} {disputeId : Uuid} {info : SolverDisputeInfo} {d : AdminDispute}
      (hcall : s.calls call = some (.saving disputeId info)) (hd : newRow info disputeId = some d)
      (hnone : s.rows d.id = none) : RowWrite s log (s.rows.put d.id d)
  | overwrite {call : Nat} {d : AdminDispute} (hcall : s.calls call = some (.checked d)) :
      RowWrite s log (s.rows.modify d.id fun _ => d)
  | close {call : Nat} {mostro : PublicKey} {disputeId orderId : Uuid} {isSettle : Bool}
      {requestId : Nat} {reply : DisputeReply} {ack : AdminFinalizeAck}
      (hcall : s.calls call = some (.awaitingAck mostro disputeId orderId isSettle requestId))
      (hreply : reply ∈ log.received) (hsender : reply.sender = mostro)
      (hid : reply.message.requestId = some requestId)
      (hack : adminFinalizeAck reply.message.action
        (if isSettle then .adminSettled else .adminCanceled) = .ok ack) :
      RowWrite s log (setStatus s.rows orderId (finalStatus isSettle ack))
  | relayed {relay : Dispute} (hrelay : relay ∈ log.relayed) :
      RowWrite s log (reconcileOneAdminDisputeIfTerminal s.rows relay)

/-- A task that a step has moved on. -/
inductive NewCall (s : AdminState) (log : AdminLog) : AdminCall → Prop
  | awaitingAck {mostro : PublicKey} {disputeId row : Uuid} {d : AdminDispute} {isSettle : Bool}
      {bond : BondSlashChoice} {requestId : Nat} (hrow : s.rows row = some d)
      (hdispute : d.disputeId = some disputeId) (hopen : d.isFinalized = false)
      (hsent : finalizeRequest mostro d.id isSettle bond requestId ∈ log.sent) :
      NewCall s log (.awaitingAck mostro disputeId d.id isSettle requestId)
  | awaitingTake {mostro : PublicKey} {disputeId : Uuid}
      (hsent : takeRequest mostro disputeId ∈ log.sent) :
      NewCall s log (.awaitingTake mostro disputeId)
  | saving {call : Nat} {mostro : PublicKey} {disputeId : Uuid} {reply : DisputeReply}
      {info : SolverDisputeInfo} (hcall : s.calls call = some (.awaitingTake mostro disputeId))
      (hreply : reply ∈ log.received) (hgiven : HandsOver mostro disputeId info reply) :
      NewCall s log (.saving disputeId { info with status := DisputeStatus.inProgress.text })
  | conflict {call : Nat} {disputeId : Uuid} {info : SolverDisputeInfo} {d : AdminDispute}
      (hcall : s.calls call = some (.saving disputeId info))
      (hd : newRow info disputeId = some d) : NewCall s log (.conflict d)
  | checked {call : Nat} {d existing : AdminDispute} (hcall : s.calls call = some (.conflict d))
      (hrow : s.rows d.id = some existing) (hopen : existing.isFinalized = false) :
      NewCall s log (.checked d)

/-- One log is what another has grown to. -/
structure AdminLog.Within (l l' : AdminLog) : Prop where
  sent : l.sent ⊆ l'.sent
  received : l.received ⊆ l'.received
  relayed : l.relayed ⊆ l'.relayed

theorem AdminLog.Within.refl (l : AdminLog) : l.Within l :=
  ⟨fun _ h => h, fun _ h => h, fun _ h => h⟩

/-- A request that a step has sent. -/
inductive NewRequest (s : AdminState) : DisputeRequest → Prop
  | take {mostro : PublicKey} {disputeId : Uuid} : NewRequest s (takeRequest mostro disputeId)
  | finalize {mostro : PublicKey} {row : Uuid} {d : AdminDispute} {isSettle : Bool}
      {bond : BondSlashChoice} {requestId : Nat} (hrow : s.rows row = some d)
      (hopen : d.isFinalized = false) :
      NewRequest s (finalizeRequest mostro d.id isSettle bond requestId)

/-- A row that a task is about to write. -/
inductive AboutToSave (s : AdminState) (d : AdminDispute) : Prop
  | insert {call : Nat} {disputeId : Uuid} {info : SolverDisputeInfo}
      (hcall : s.calls call = some (.saving disputeId info)) (hd : newRow info disputeId = some d)
  | overwrite {call : Nat} (hcall : s.calls call = some (.checked d))

/-- A command that a step has sent to the chat listener. -/
inductive NewChat (ops : EnvelopeOps) (adminKeys : Keys) (s : AdminState) : DisputeChatCmd → Prop
  | untrack {key : Uuid × ChatParty} : NewChat ops adminKeys s (.untrackChatKey key)
  | track {d : AdminDispute} {since : ChatParty → Option Int} {cmd : DisputeChatCmd}
      (hd : AboutToSave s d) (hcmd : cmd ∈ trackTaken ops adminKeys d since) :
      NewChat ops adminKeys s cmd

/-- What a step does, all told. -/
structure StepSpec (ops : EnvelopeOps) (adminKeys : Keys) (s s' : AdminState) : Prop where
  rows : RowWrite s s'.log s'.rows
  calls : ∀ call c, s'.calls call = some c → s.calls call = some c ∨ NewCall s s'.log c
  log : s.log.Within s'.log
  sent : ∀ q ∈ s'.log.sent, q ∈ s.log.sent ∨ NewRequest s q
  chats : ∀ cmd ∈ s'.chats, cmd ∈ s.chats ∨ NewChat ops adminKeys s cmd

section
variable {ops : EnvelopeOps} {adminKeys : Keys} {s : AdminState}

theorem stepSpec_refl (s : AdminState) : StepSpec ops adminKeys s s :=
  ⟨.same, fun _ _ h => .inl h, .refl s.log, fun _ h => .inl h, fun _ h => .inl h⟩

/-- A step that only ends a task, or moves it on. -/
theorem stepSpec_calls {calls : Table Nat AdminCall}
    (h : ∀ call c, calls call = some c → s.calls call = some c ∨ NewCall s s.log c) :
    StepSpec ops adminKeys s { s with calls := calls } :=
  ⟨.same, h, .refl s.log, fun _ h => .inl h, fun _ h => .inl h⟩

/-- What is left where a task has ended. -/
theorem calls_erase {calls : Table Nat AdminCall} {k call : Nat} {c : AdminCall}
    (h : calls.erase k call = some c) : calls call = some c := by
  by_cases hcall : call = k
  · subst hcall
    rw [Table.erase_self] at h
    cases h
  · rwa [Table.erase_of_ne hcall] at h

/-- What is there where a task has moved on. -/
theorem calls_put {calls : Table Nat AdminCall} {k call : Nat} {c c' : AdminCall}
    (h : calls.put k c' call = some c) : calls call = some c ∨ c = c' := by
  by_cases hcall : call = k
  · subst hcall
    rw [Table.put_self] at h
    exact .inr (Option.some.inj h).symm
  · rw [Table.put_of_ne hcall] at h
    exact .inl h

theorem stepSpec_finalize (call : Nat) (mostro : PublicKey) (disputeId row : Uuid) (isSettle : Bool)
    (bond : BondSlashChoice) (requestId : Nat) :
    StepSpec ops adminKeys s (s.finalize call mostro disputeId row isSettle bond requestId) := by
  unfold AdminState.finalize
  split
  · exact stepSpec_refl s
  · next d hd =>
    obtain ⟨hrow, hdispute⟩ := Option.filter_eq_some_iff.1 hd
    split
    · exact stepSpec_refl s
    · next hopen =>
      rw [Bool.not_eq_true] at hopen
      split
      · exact stepSpec_refl s
      · split
        · exact stepSpec_refl s
        · refine ⟨.same, ?_, ⟨?_, fun _ h => h, fun _ h => h⟩, ?_, fun _ h => .inl h⟩
          · intro call' c hc
            rcases calls_put hc with hold | rfl
            · exact .inl hold
            · exact .inr (.awaitingAck hrow (of_decide_eq_true hdispute) hopen
                (List.mem_append_right _ (List.mem_singleton_self _)))
          · exact fun q hq => List.mem_append_left _ hq
          · intro q hq
            rcases List.mem_append.1 hq with hold | hnew
            · exact .inl hold
            · rw [List.mem_singleton.1 hnew]
              exact .inr (.finalize hrow hopen)

theorem mem_untrackDisputeChatParties {disputeId : Uuid} {cmd : DisputeChatCmd}
    (h : cmd ∈ untrackDisputeChatParties disputeId) : ∃ key, cmd = .untrackChatKey key := by
  simp only [untrackDisputeChatParties, List.mem_cons, List.not_mem_nil, or_false] at h
  rcases h with rfl | rfl
  · exact ⟨_, rfl⟩
  · exact ⟨_, rfl⟩

theorem stepSpec_finalizeReply (call : Nat) (received : Received) :
    StepSpec ops adminKeys s (s.finalizeReply call received) := by
  unfold AdminState.finalizeReply
  split
  · next mostro disputeId orderId isSettle requestId hcall =>
    have hlog : s.log.Within { s.log with received := s.log.received ++ received.messages } :=
      ⟨fun _ h => h, fun _ h => List.mem_append_left _ h, fun _ h => h⟩
    dsimp only
    split
    · exact ⟨.same, fun _ _ h => .inl (calls_erase h), hlog, fun _ h => .inl h, fun _ h => .inl h⟩
    · next ack hack =>
      obtain ⟨reply, hreply, hsender, hid, hexpected⟩ : ∃ reply ∈ received.messages,
          reply.sender = mostro ∧ reply.message.requestId = some requestId ∧
            adminFinalizeAck reply.message.action
              (if isSettle then .adminSettled else .adminCanceled) = .ok ack := by
        cases isSettle with
        | true => exact executeAdminFinalize_ok hack
        | false => exact executeAdminFinalize_ok hack
      refine ⟨.close hcall (List.mem_append_right _ hreply) hsender hid hexpected,
        fun _ _ h => .inl (calls_erase h), hlog, fun _ h => .inl h, ?_⟩
      intro cmd hcmd
      rcases List.mem_append.1 hcmd with hold | hnew
      · exact .inl hold
      · obtain ⟨key, rfl⟩ := mem_untrackDisputeChatParties hnew
        exact .inr .untrack
  · exact stepSpec_refl s

theorem stepSpec_take (call : Nat) (mostro : PublicKey) (disputeId : Uuid) :
    StepSpec ops adminKeys s (s.take call mostro disputeId) := by
  have hmem : takeRequest mostro disputeId ∈ s.log.sent ++ [takeRequest mostro disputeId] :=
    List.mem_append_right _ (List.mem_singleton_self _)
  refine ⟨.same, ?_, ⟨fun q hq => List.mem_append_left _ hq, fun _ h => h, fun _ h => h⟩, ?_,
    fun _ h => .inl h⟩
  · intro call' c hc
    rcases calls_put hc with hold | rfl
    · exact .inl hold
    · exact .inr (.awaitingTake hmem)
  · intro q hq
    rcases List.mem_append.1 hq with hold | hnew
    · exact .inl hold
    · rw [List.mem_singleton.1 hnew]
      exact .inr .take

theorem stepSpec_takeReply (call : Nat) (received : Received) :
    StepSpec ops adminKeys s (s.takeReply call received) := by
  unfold AdminState.takeReply
  split
  · next mostro disputeId hcall =>
    have hlog : s.log.Within { s.log with received := s.log.received ++ received.messages } :=
      ⟨fun _ h => h, fun _ h => List.mem_append_left _ h, fun _ h => h⟩
    dsimp only
    split
    · exact ⟨.same, fun _ _ h => .inl (calls_erase h), hlog, fun _ h => .inl h, fun _ h => .inl h⟩
    · next info hinfo =>
      obtain ⟨reply, hreply, given, hgiven, rfl⟩ := executeTakeDispute_ok hinfo
      refine ⟨.same, ?_, hlog, fun _ h => .inl h, fun _ h => .inl h⟩
      intro call' c hc
      rcases calls_put hc with hold | rfl
      · exact .inl hold
      · exact .inr (.saving hcall (List.mem_append_right _ hreply) hgiven)
  · exact stepSpec_refl s

theorem stepSpec_saveInsert (call : Nat) (since : ChatParty → Option Int) :
    StepSpec ops adminKeys s (s.saveInsert ops adminKeys call since) := by
  unfold AdminState.saveInsert
  split
  · next disputeId info hcall =>
    split
    · exact stepSpec_calls fun _ _ h => .inl (calls_erase h)
    · next d hd =>
      split
      · next hnone =>
        refine ⟨.insert hcall hd hnone, fun _ _ h => .inl (calls_erase h), .refl s.log,
          fun _ h => .inl h, ?_⟩
        intro cmd hcmd
        rcases List.mem_append.1 hcmd with hold | hnew
        · exact .inl hold
        · exact .inr (.track (.insert hcall hd) hnew)
      · refine stepSpec_calls fun call' c hc => ?_
        rcases calls_put hc with hold | rfl
        · exact .inl hold
        · exact .inr (.conflict hcall hd)
  · exact stepSpec_refl s

theorem stepSpec_saveCheck (call : Nat) : StepSpec ops adminKeys s (s.saveCheck call) := by
  unfold AdminState.saveCheck
  split
  · next d hcall =>
    split
    · exact stepSpec_calls fun _ _ h => .inl (calls_erase h)
    · next existing hrow =>
      split
      · exact stepSpec_calls fun _ _ h => .inl (calls_erase h)
      · next hopen =>
        refine stepSpec_calls fun call' c hc => ?_
        rcases calls_put hc with hold | rfl
        · exact .inl hold
        · exact .inr (.checked hcall hrow (Bool.not_eq_true _ ▸ hopen))
  · exact stepSpec_refl s

theorem stepSpec_saveUpdate (call : Nat) (since : ChatParty → Option Int) :
    StepSpec ops adminKeys s (s.saveUpdate ops adminKeys call since) := by
  unfold AdminState.saveUpdate
  split
  · next d hcall =>
    refine ⟨.overwrite hcall, fun _ _ h => .inl (calls_erase h), .refl s.log, fun _ h => .inl h, ?_⟩
    intro cmd hcmd
    rcases List.mem_append.1 hcmd with hold | hnew
    · exact .inl hold
    · exact .inr (.track (.overwrite hcall) hnew)
  · exact stepSpec_refl s

theorem stepSpec_reconcile (relay : Dispute) (row : Uuid) :
    StepSpec ops adminKeys s (s.reconcile relay row) := by
  have hmem : relay ∈ s.log.relayed ++ [relay] :=
    List.mem_append_right _ (List.mem_singleton_self _)
  refine ⟨.relayed hmem, fun _ _ h => .inl h,
    ⟨fun _ h => h, fun _ h => h, fun _ h => List.mem_append_left _ h⟩, fun _ h => .inl h, ?_⟩
  intro cmd hcmd
  unfold AdminState.reconcile at hcmd
  dsimp only at hcmd
  split at hcmd
  · rcases List.mem_append.1 hcmd with hold | hnew
    · exact .inl hold
    · obtain ⟨key, rfl⟩ := mem_untrackDisputeChatParties hnew
      exact .inr .untrack
  · exact .inl hcmd

/-- Every step does what its specification says. -/
theorem stepSpec_next (ops : EnvelopeOps) (adminKeys : Keys) (s : AdminState) (e : AdminEvent) :
    StepSpec ops adminKeys s (s.next ops adminKeys e) := by
  cases e with
  | finalize call mostro disputeId row isSettle bond requestId =>
    exact stepSpec_finalize call mostro disputeId row isSettle bond requestId
  | finalizeReply call received => exact stepSpec_finalizeReply call received
  | take call mostro disputeId => exact stepSpec_take call mostro disputeId
  | takeReply call received => exact stepSpec_takeReply call received
  | saveInsert call since => exact stepSpec_saveInsert call since
  | saveCheck call => exact stepSpec_saveCheck call
  | saveUpdate call since => exact stepSpec_saveUpdate call since
  | reconcile relay row => exact stepSpec_reconcile relay row
  | restart =>
    refine ⟨.same, fun call c h => ?_, .refl s.log, fun _ h => .inl h, fun cmd h => ?_⟩
    · cases h
    · cases h

end

/-! ## On whose word -/

/-- Mostro handed the dispute over: it answered a take of it, and the row says what it said. -/
def HandedOver (log : AdminLog) (d : AdminDispute) : Prop :=
  ∃ mostro disputeId info reply, takeRequest mostro disputeId ∈ log.sent ∧
    reply ∈ log.received ∧ HandsOver mostro disputeId info reply ∧
    d.id = info.id ∧ d.disputeId = some disputeId ∧ d.buyerPubkey = info.buyerPubkey ∧
    d.sellerPubkey = info.sellerPubkey

/-- An answer to a request to close the order's dispute: from the one it went to, and with its
request id. -/
def Answered (log : AdminLog) (orderId : Uuid) (isSettle : Bool) (action : Action) : Prop :=
  ∃ mostro bond requestId reply,
    finalizeRequest mostro orderId isSettle bond requestId ∈ log.sent ∧ reply ∈ log.received ∧
    reply.sender = mostro ∧ reply.message.requestId = some requestId ∧ reply.message.action = action

/-- What a status rests on. -/
inductive StatusGiven (log : AdminLog) (d : AdminDispute) : Prop
  | inProgress (h : d.status = some DisputeStatus.inProgress.text)
  | settled (h : d.status = some DisputeStatus.settled.text)
      (answered : Answered log d.id true .adminSettled)
  | refunded (h : d.status = some DisputeStatus.sellerRefunded.text)
      (answered : Answered log d.id false .adminCanceled)
  | cooperative (isSettle : Bool) (h : d.status = some DisputeStatus.sellerRefunded.text)
      (answered : Answered log d.id isSettle .cooperativeCancelAccepted)
  | relayed (relay : Dispute) (hrelay : relay ∈ log.relayed) (hid : d.disputeId = some relay.id)
      (hterminal : isTerminalStatus relay.status = true) (h : d.status = some relay.status)

theorem HandedOver.mono {log log' : AdminLog} {d : AdminDispute} (h : HandedOver log d)
    (hlog : log.Within log') : HandedOver log' d := by
  obtain ⟨mostro, disputeId, info, reply, hsent, hreply, hrest⟩ := h
  exact ⟨mostro, disputeId, info, reply, hlog.sent hsent, hlog.received hreply, hrest⟩

theorem Answered.mono {log log' : AdminLog} {orderId : Uuid} {isSettle : Bool} {action : Action}
    (h : Answered log orderId isSettle action) (hlog : log.Within log') :
    Answered log' orderId isSettle action := by
  obtain ⟨mostro, bond, requestId, reply, hsent, hreply, hrest⟩ := h
  exact ⟨mostro, bond, requestId, reply, hlog.sent hsent, hlog.received hreply, hrest⟩

theorem StatusGiven.mono {log log' : AdminLog} {d : AdminDispute} (h : StatusGiven log d)
    (hlog : log.Within log') : StatusGiven log' d := by
  cases h with
  | inProgress h => exact .inProgress h
  | settled h answered => exact .settled h (answered.mono hlog)
  | refunded h answered => exact .refunded h (answered.mono hlog)
  | cooperative isSettle h answered => exact .cooperative isSettle h (answered.mono hlog)
  | relayed relay hrelay hid hterminal h =>
    exact .relayed relay (hlog.relayed hrelay) hid hterminal h

/-- What a task holds was said to it. -/
def CallGiven (log : AdminLog) : AdminCall → Prop
  | .awaitingAck mostro _ orderId isSettle requestId =>
    ∃ bond, finalizeRequest mostro orderId isSettle bond requestId ∈ log.sent
  | .awaitingTake mostro disputeId => takeRequest mostro disputeId ∈ log.sent
  | .saving disputeId info => ∀ d, newRow info disputeId = some d →
      HandedOver log d ∧ d.status = some DisputeStatus.inProgress.text
  | .conflict d | .checked d => HandedOver log d ∧ d.status = some DisputeStatus.inProgress.text

theorem CallGiven.mono {log log' : AdminLog} (hlog : log.Within log') {c : AdminCall}
    (h : CallGiven log c) : CallGiven log' c := by
  cases c with
  | awaitingAck mostro disputeId orderId isSettle requestId =>
    obtain ⟨bond, hsent⟩ := h
    exact ⟨bond, hlog.sent hsent⟩
  | awaitingTake mostro disputeId => exact hlog.sent h
  | saving disputeId info => exact fun d hd => ⟨(h d hd).1.mono hlog, (h d hd).2⟩
  | conflict d => exact ⟨h.1.mono hlog, h.2⟩
  | checked d => exact ⟨h.1.mono hlog, h.2⟩

/-- The invariant: every row stands under its own id, was handed over, and has a status that was
given; every task holds what was said to it. -/
structure Given (s : AdminState) : Prop where
  key : ∀ id d, s.rows id = some d → d.id = id
  handed : ∀ id d, s.rows id = some d → HandedOver s.log d
  status : ∀ id d, s.rows id = some d → StatusGiven s.log d
  calls : ∀ call c, s.calls call = some c → CallGiven s.log c

theorem newRow_eq_some {info : SolverDisputeInfo} {disputeId : Uuid} {d : AdminDispute}
    (h : newRow info disputeId = some d) :
    d.id = info.id ∧ d.disputeId = some disputeId ∧ d.status = some info.status ∧
      d.buyerPubkey = info.buyerPubkey ∧ d.sellerPubkey = info.sellerPubkey := by
  unfold newRow at h
  split at h
  · cases h
  · cases h
    exact ⟨rfl, rfl, rfl, rfl, rfl⟩

theorem text_of_fromStr {t : String} {status : DisputeStatus}
    (h : DisputeStatus.fromStr t = some status) : status.text = t := by
  unfold DisputeStatus.fromStr at h
  split_ifs at h <;> cases h <;> simp_all [DisputeStatus.text]

/-- Writing a status does not touch what was handed over. -/
theorem HandedOver.setStatus {log : AdminLog} {d : AdminDispute} (h : HandedOver log d)
    (status : Option String) : HandedOver log { d with status := status } := h

/-- The status that an answer closes a dispute with. -/
theorem statusGiven_of_ack {log : AdminLog} {mostro : PublicKey} {orderId : Uuid} {isSettle : Bool}
    {bond : BondSlashChoice} {requestId : Nat} {reply : DisputeReply} {ack : AdminFinalizeAck}
    (hsent : finalizeRequest mostro orderId isSettle bond requestId ∈ log.sent)
    (hreply : reply ∈ log.received) (hsender : reply.sender = mostro)
    (hid : reply.message.requestId = some requestId)
    (hack : adminFinalizeAck reply.message.action
      (if isSettle then .adminSettled else .adminCanceled) = .ok ack)
    {d : AdminDispute} (horder : d.id = orderId)
    (hstatus : d.status = some (finalStatus isSettle ack).text) : StatusGiven log d := by
  subst horder
  have answered : Answered log d.id isSettle reply.message.action :=
    ⟨mostro, bond, requestId, reply, hsent, hreply, hsender, hid, rfl⟩
  rcases adminFinalizeAck_ok hack with ⟨rfl, haction⟩ | ⟨rfl, haction⟩
  · rw [haction] at answered
    cases isSettle with
    | true => exact .settled hstatus answered
    | false => exact .refunded hstatus answered
  · rw [haction] at answered
    exact .cooperative isSettle hstatus answered

/-- What the relay reconcile leaves of a row. -/
theorem reconcileOne_eq_some {rows : Table Uuid AdminDispute} {relay : Dispute} {id : Uuid}
    {d : AdminDispute} (h : reconcileOneAdminDisputeIfTerminal rows relay id = some d) :
    ∃ e, rows id = some e ∧ (d = e ∨ isTerminalStatus relay.status = true ∧
      e.disputeId = some relay.id ∧ e.isFinalized = false ∧
        d = { e with status := some relay.status }) := by
  unfold reconcileOneAdminDisputeIfTerminal at h
  split at h
  · next hterminal =>
    cases hstatus : DisputeStatus.fromStr relay.status with
    | none =>
      simp only [hstatus] at h
      exact ⟨d, h, .inl rfl⟩
    | some status =>
      simp only [hstatus, setStatusByDisputeId] at h
      obtain ⟨e, he, hd⟩ := Option.map_eq_some_iff.1 h
      refine ⟨e, he, ?_⟩
      split at hd
      · next hopen =>
        exact .inr ⟨hterminal, hopen.1, hopen.2, by rw [← hd, text_of_fromStr hstatus]⟩
      · exact .inl hd.symm
  · exact ⟨d, h, .inl rfl⟩

/-- The rows after a step: each is the one that was there, or one that the step had a reason for. -/
theorem Given.rowWrite {s : AdminState} (hs : Given s) {log : AdminLog} (hlog : s.log.Within log)
    {rows : Table Uuid AdminDispute} (h : RowWrite s log rows) {id : Uuid} {d : AdminDispute}
    (hd : rows id = some d) : d.id = id ∧ HandedOver log d ∧ StatusGiven log d := by
  have hold : ∀ {e : AdminDispute}, s.rows id = some e →
      e.id = id ∧ HandedOver log e ∧ StatusGiven log e := fun he =>
    ⟨hs.key id _ he, (hs.handed id _ he).mono hlog, (hs.status id _ he).mono hlog⟩
  cases h with
  | same => exact hold hd
  | insert hcall hnew hnone =>
    rename_i call disputeId info e
    by_cases hid : id = e.id
    · subst hid
      rw [Table.put_self] at hd
      cases hd
      obtain ⟨hhanded, hstatus⟩ := hs.calls _ _ hcall d hnew
      exact ⟨rfl, hhanded.mono hlog, .inProgress hstatus⟩
    · rw [Table.put_of_ne hid] at hd
      exact hold hd
  | overwrite hcall =>
    rename_i call e
    by_cases hid : id = e.id
    · subst hid
      rw [Table.modify_self] at hd
      obtain ⟨old, hrow, rfl⟩ := Option.map_eq_some_iff.1 hd
      obtain ⟨hhanded, hstatus⟩ := hs.calls _ _ hcall
      exact ⟨rfl, hhanded.mono hlog, .inProgress hstatus⟩
    · rw [Table.modify_of_ne hid] at hd
      exact hold hd
  | close hcall hreply hsender hid' hack =>
    rename_i call mostro disputeId orderId isSettle requestId reply ack
    unfold setStatus at hd
    by_cases hid : id = orderId
    · subst hid
      rw [Table.modify_self] at hd
      obtain ⟨old, hrow, rfl⟩ := Option.map_eq_some_iff.1 hd
      obtain ⟨hkey, hhanded, -⟩ := hold hrow
      obtain ⟨bond, hsent⟩ := hs.calls _ _ hcall
      exact ⟨hkey, hhanded.setStatus _,
        statusGiven_of_ack (hlog.sent hsent) hreply hsender hid' hack hkey rfl⟩
    · rw [Table.modify_of_ne hid] at hd
      exact hold hd
  | relayed hrelay =>
    obtain ⟨e, he, rfl | ⟨hterminal, hdispute, -, rfl⟩⟩ := reconcileOne_eq_some hd
    · exact hold he
    · obtain ⟨hkey, hhanded, -⟩ := hold he
      exact ⟨hkey, hhanded.setStatus _, .relayed _ hrelay hdispute hterminal rfl⟩

/-- A task that a step has moved on holds what was said to it. -/
theorem Given.newCall {s : AdminState} (hs : Given s) {log : AdminLog} (hlog : s.log.Within log)
    {c : AdminCall} (h : NewCall s log c) : CallGiven log c := by
  cases h with
  | awaitingAck hrow hdispute hopen hsent => exact ⟨_, hsent⟩
  | awaitingTake hsent => exact hsent
  | saving hcall hreply hgiven =>
    intro d hd
    obtain ⟨hid, hdispute, hstatus, hbuyer, hseller⟩ := newRow_eq_some hd
    refine ⟨⟨_, _, _, _, hlog.sent (hs.calls _ _ hcall), hreply, hgiven, hid, hdispute, hbuyer,
      hseller⟩, hstatus⟩
  | conflict hcall hd =>
    obtain ⟨hhanded, hstatus⟩ := hs.calls _ _ hcall _ hd
    exact ⟨hhanded.mono hlog, hstatus⟩
  | checked hcall hrow hopen =>
    obtain ⟨hhanded, hstatus⟩ := hs.calls _ _ hcall
    exact ⟨hhanded.mono hlog, hstatus⟩

section
variable (ops : EnvelopeOps) (adminKeys : Keys)

theorem Given.next (s : AdminState) (e : AdminEvent) (hs : Given s) :
    Given (s.next ops adminKeys e) := by
  have hstep := stepSpec_next ops adminKeys s e
  refine ⟨fun id d hd => ?_, fun id d hd => ?_, fun id d hd => ?_, fun call c hc => ?_⟩
  · exact (hs.rowWrite hstep.log hstep.rows hd).1
  · exact (hs.rowWrite hstep.log hstep.rows hd).2.1
  · exact (hs.rowWrite hstep.log hstep.rows hd).2.2
  · rcases hstep.calls call c hc with hold | hnew
    · exact (hs.calls call c hold).mono hstep.log
    · exact hs.newCall hstep.log hnew

theorem Given.init : Given {} where
  key := fun _ _ h => nomatch h
  handed := fun _ _ h => nomatch h
  status := fun _ _ h => nomatch h
  calls := fun _ _ h => nomatch h

/-- What a command for a dispute's chat rests on: the dispute was handed over, the secret is that of
its party, and nobody is listened to but the party and the admin. -/
def ChatGiven (log : AdminLog) : DisputeChatCmd → Prop
  | .trackChatKey (disputeId, party) hex _ allowed _ =>
    ∃ d, HandedOver log d ∧ d.disputeId = some disputeId ∧
      (d.pubkey party).bind (deriveSharedKeyHex ops.chatOps adminKeys) = some hex ∧
      ∀ signer, signer ∈ allowed ↔
        (d.pubkey party).bind ops.parsePubkey = some signer ∨ adminKeys.publicKey = signer
  | .untrackChatKey _ => True

theorem ChatGiven.mono {log log' : AdminLog} (hlog : log.Within log') {cmd : DisputeChatCmd}
    (h : ChatGiven ops adminKeys log cmd) : ChatGiven ops adminKeys log' cmd := by
  cases cmd with
  | trackChatKey key hex pubkey allowed since =>
    obtain ⟨d, hhanded, hrest⟩ := h
    exact ⟨d, hhanded.mono hlog, hrest⟩
  | untrackChatKey key => trivial

theorem Given.aboutToSave {s : AdminState} (hs : Given s) {d : AdminDispute}
    (h : AboutToSave s d) : HandedOver s.log d := by
  cases h with
  | insert hcall hd => exact (hs.calls _ _ hcall d hd).1
  | overwrite hcall => exact (hs.calls _ _ hcall).1

theorem Given.newChat {s : AdminState} (hs : Given s) {cmd : DisputeChatCmd}
    (h : NewChat ops adminKeys s cmd) : ChatGiven ops adminKeys s.log cmd := by
  cases h with
  | untrack => trivial
  | track hd hcmd =>
    rename_i d since
    unfold trackTaken at hcmd
    split at hcmd
    · next disputeId hdispute =>
      obtain ⟨party, -, hparty⟩ := List.mem_filterMap.1 hcmd
      obtain ⟨hex, hhex, hrest⟩ := Option.bind_eq_some_iff.1 hparty
      obtain ⟨allowed, hallowed, hsome⟩ := Option.bind_eq_some_iff.1 hrest
      cases hsome
      refine ⟨d, hs.aboutToSave hd, hdispute, hhex, fun signer => ?_⟩
      rw [mem_disputeChatAllowedSigners ops hallowed, Option.some.injEq]
    · cases hcmd

/-- A run from the first start on. -/
def adminRun (events : List AdminEvent) : AdminState := events.foldl (AdminState.next ops adminKeys) {}

theorem given_adminRun (events : List AdminEvent) : Given (adminRun ops adminKeys events) :=
  Run.invariant (Given.next ops adminKeys) events Given.init

theorem chatGiven_next (s : AdminState) (e : AdminEvent)
    (h : Given s ∧ ∀ cmd ∈ s.chats, ChatGiven ops adminKeys s.log cmd) :
    Given (s.next ops adminKeys e) ∧
      ∀ cmd ∈ (s.next ops adminKeys e).chats,
        ChatGiven ops adminKeys (s.next ops adminKeys e).log cmd := by
  refine ⟨Given.next ops adminKeys s e h.1, fun cmd hcmd => ?_⟩
  have hstep := stepSpec_next ops adminKeys s e
  rcases hstep.chats cmd hcmd with hold | hnew
  · exact (h.2 cmd hold).mono ops adminKeys hstep.log
  · exact (h.1.newChat ops adminKeys hnew).mono ops adminKeys hstep.log

/-- A task that is past its check of the order's row and has yet to write it. -/
def AdminCall.Writes (id : Uuid) : AdminCall → Prop
  | .awaitingAck _ _ orderId _ _ => orderId = id
  | .checked d => d.id = id
  | _ => False

/-- No task is past its check of the order's row. -/
def NothingWaits (s : AdminState) (id : Uuid) : Prop :=
  ∀ call c, s.calls call = some c → ¬ c.Writes id

/-- The invariant: the row is there, and no task is going to write it. -/
structure Closed (id : Uuid) (d : AdminDispute) (s : AdminState) : Prop where
  given : Given s
  row : s.rows id = some d
  nothingWaits : NothingWaits s id

/-- The guarded statement passes over a finalized row. -/
theorem reconcileOne_of_finalized {rows : Table Uuid AdminDispute} {relay : Dispute} {id : Uuid}
    {d : AdminDispute} (hrow : rows id = some d) (hfin : d.isFinalized = true) :
    reconcileOneAdminDisputeIfTerminal rows relay id = some d := by
  have hkeeps : KeepsFinalized ⟨rows, Table.empty⟩
      ⟨reconcileOneAdminDisputeIfTerminal rows relay, Table.empty⟩ := keepsFinalized_reconcile rfl
  obtain ⟨d', hd', -⟩ := hkeeps id d hrow hfin
  obtain ⟨e, he, rfl | ⟨-, -, hopen, -⟩⟩ := reconcileOne_eq_some hd'
  · exact hd'.trans (he.symm.trans hrow)
  · rw [hrow] at he
    cases he
    rw [hfin] at hopen
    cases hopen

/-- No write of a step reaches it. -/
theorem Closed.rowWrite {id : Uuid} {d : AdminDispute} {s : AdminState} (hs : Closed id d s)
    (hfin : d.isFinalized = true) {log : AdminLog} {rows : Table Uuid AdminDispute}
    (h : RowWrite s log rows) : rows id = some d := by
  cases h with
  | same => exact hs.row
  | insert hcall hd hnone =>
    rename_i call disputeId info e
    have hne : id ≠ e.id := by
      rintro rfl
      rw [hs.row] at hnone
      cases hnone
    rw [Table.put_of_ne hne, hs.row]
  | overwrite hcall =>
    rename_i call e
    have hne : id ≠ e.id := fun h => hs.nothingWaits _ _ hcall h.symm
    rw [Table.modify_of_ne hne, hs.row]
  | close hcall hreply hsender hid hack =>
    rename_i call mostro disputeId orderId isSettle requestId reply ack
    have hne : id ≠ orderId := fun h => hs.nothingWaits _ _ hcall h.symm
    rw [setStatus, Table.modify_of_ne hne, hs.row]
  | relayed hrelay => exact reconcileOne_of_finalized hs.row hfin

/-- No task gets past its check of it. -/
theorem Closed.newCall {id : Uuid} {d : AdminDispute} {s : AdminState} (hs : Closed id d s)
    (hfin : d.isFinalized = true) {log : AdminLog} {c : AdminCall} (h : NewCall s log c) :
    ¬ c.Writes id := by
  intro hw
  cases h with
  | awaitingAck hrow hdispute hopen hsent =>
    rw [← hs.given.key _ _ hrow, show _ = id from hw, hs.row] at hrow
    cases hrow
    rw [hfin] at hopen
    cases hopen
  | checked hcall hrow hopen =>
    rw [show _ = id from hw, hs.row] at hrow
    cases hrow
    rw [hfin] at hopen
    cases hopen
  | awaitingTake hsent => exact hw
  | saving hcall hreply hgiven => exact hw
  | conflict hcall hd => exact hw

theorem Closed.next {id : Uuid} {d : AdminDispute} (hfin : d.isFinalized = true) (s : AdminState)
    (e : AdminEvent) (hs : Closed id d s) : Closed id d (s.next ops adminKeys e) := by
  have hstep := stepSpec_next ops adminKeys s e
  refine ⟨Given.next ops adminKeys s e hs.given, hs.rowWrite hfin hstep.rows, fun call c hc => ?_⟩
  rcases hstep.calls call c hc with hold | hnew
  · exact hs.nothingWaits call c hold
  · exact hs.newCall hfin hnew

/-- A dispute that is finalized stays as it is whatever the admin, the relay and restarts do from
then on, once no task is past its check of it; and after a restart none is. -/
theorem finalized_for_good (before after : List AdminEvent) {id : Uuid} {d : AdminDispute}
    (hrow : (adminRun ops adminKeys before).rows id = some d) (hfin : d.isFinalized = true)
    (hwait : NothingWaits (adminRun ops adminKeys before) id ∨
      ∃ earlier, before = earlier ++ [.restart]) :
    (adminRun ops adminKeys (before ++ after)).rows id = some d := by
  have hquiet : NothingWaits (adminRun ops adminKeys before) id := by
    rcases hwait with h | ⟨earlier, rfl⟩
    · exact h
    · intro call c hc
      rw [adminRun, List.foldl_append] at hc
      cases hc
  have hclosed : Closed id d (adminRun ops adminKeys before) :=
    ⟨given_adminRun ops adminKeys before, hrow, hquiet⟩
  rw [adminRun, List.foldl_append]
  exact (Run.invariant (Closed.next ops adminKeys hfin) after hclosed).row

end

/-- An admin without chats. -/
def noChats : EnvelopeOps where
  parseKeys := fun _ => none
  parsePubkey := fun _ => none
  derive := fun _ _ => none
  fromHex := fun _ => none
  chatKeys := fun _ => none
  wrap := fun _ _ _ _ _ => none
  unwrap := fun _ _ _ _ _ => none
  unwrapGiftwrap := fun _ _ => none

/-- An admin takes a dispute, settles it, and starts again. -/
def settledRun : List AdminEvent :=
  [.take 0 "mostro" 7,
    .takeReply 0 (.ok [{
      message := { action := .adminTookDispute, payload := some (.dispute 7) }
      disputeInfo := some ⟨1, "initiated", some "buyer", some "seller"⟩
      sender := "mostro" }]),
    .saveInsert 0 fun _ => none,
    .finalize 1 "mostro" 7 1 true .slashSeller 99,
    .finalizeReply 1 (.ok [{
      message := { action := .adminSettled, requestId := some 99 }
      sender := "mostro" }]),
    .restart]

/-- Its settled row outlives the relay's claim that the seller was refunded. -/
theorem finalized_for_good_settled :
    (adminRun noChats ⟨"secret", "admin"⟩
      (settledRun ++ [.reconcile ⟨7, "seller-refunded", 5⟩ 1])).rows 1 =
      some ⟨1, some 7, some "settled", some "buyer", some "seller"⟩ :=
  finalized_for_good noChats ⟨"secret", "admin"⟩ settledRun _ (by decide) (by decide)
    (.inr ⟨settledRun.dropLast, rfl⟩)

end Mostrix.Disputes
