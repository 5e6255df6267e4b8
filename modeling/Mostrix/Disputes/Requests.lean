import Mostrix.Chat.Envelope
import Mostrix.Chat.Targets
import Mostrix.Disputes.AdminDispute
import Mostrix.Replies.MostroResponse

/-!
# What an admin asks of Mostro

`execute_take_dispute.rs`, `execute_finalize_dispute.rs`, `execute_admin_settle.rs`,
`execute_admin_cancel.rs` and `bond_resolution.rs`: an admin takes a dispute, and closes it in
favour of one of the parties. Each is a task that sends a request, waits for the reply and writes
the row of `admin_disputes`, and the tasks run side by side with one another and with the relay
reconcile, so every await ends a step. The log keeps what was sent, what the waits returned and what
the relay has shown; nothing reads it but the statements.
-/

namespace Mostrix.Disputes

open Chat

/-! ## The requests -/

/-- `BondSlashChoice`. -/
inductive BondSlashChoice
  | none
  | slashBuyer
  | slashSeller
  | slashBoth
deriving DecidableEq, Repr

/-- `mostro_core`'s `BondResolution`. -/
structure BondResolution where
  slashSeller : Bool
  slashBuyer : Bool
deriving DecidableEq, Repr

namespace BondSlashChoice

/-- `BondSlashChoice::ALL`. -/
def all : List BondSlashChoice := [none, slashBuyer, slashSeller, slashBoth]

/-- `choice_index`. -/
def choiceIndex (c : BondSlashChoice) : Nat := (all.findIdx? (· = c)).getD 0

/-- `from_choice_index`. -/
def fromChoiceIndex (index : Nat) : BondSlashChoice := all[index]?.getD none

/-- `to_bond_resolution`. -/
def toBondResolution (c : BondSlashChoice) : BondResolution where
  slashSeller := decide (c = slashSeller ∨ c = slashBoth)
  slashBuyer := decide (c = slashBuyer ∨ c = slashBoth)

/-- `to_optional_payload`. -/
def toOptionalPayload (c : BondSlashChoice) : Option BondResolution :=
  if c = none then .none else some c.toBondResolution

@[simp] theorem fromChoiceIndex_choiceIndex (c : BondSlashChoice) :
    fromChoiceIndex c.choiceIndex = c := by
  cases c <;> rfl

end BondSlashChoice

/-- A `Message::Dispute` that is sent, and to whom. -/
structure DisputeRequest where
  receiver : PublicKey
  id : Uuid
  requestId : Option Nat
  action : Action
  payload : Option BondResolution
deriving DecidableEq, Repr

/-- The request of `execute_admin_settle` or of `execute_admin_cancel`. -/
def finalizeRequest (mostro : PublicKey) (orderId : Uuid) (isSettle : Bool) (bond : BondSlashChoice)
    (requestId : Nat) : DisputeRequest where
  receiver := mostro
  id := orderId
  requestId := some requestId
  action := if isSettle then .adminSettle else .adminCancel
  payload := bond.toOptionalPayload

/-- The request of `execute_take_dispute`. It has no request id. -/
def takeRequest (mostro : PublicKey) (disputeId : Uuid) : DisputeRequest where
  receiver := mostro
  id := disputeId
  requestId := none
  action := .adminTakeDispute
  payload := none

/-! ## The replies -/

/-- A message as `parse_dm_events` returns it, with the record that a dispute payload may carry. -/
structure DisputeReply where
  message : MessageKind
  disputeInfo : Option SolverDisputeInfo := none
  sender : PublicKey
deriving DecidableEq, Repr

/-- What `wait_for_dm` and `parse_dm_events` come to. -/
abbrev Received := Except String (List DisputeReply)

/-- The messages among it. -/
def Received.messages : Received → List DisputeReply
  | .ok messages => messages
  | .error _ => []

/-- The first message, which must be Mostro's. -/
def replyOf (mostro : PublicKey) : Received → Except String DisputeReply
  | .error e => .error e
  | .ok [] => .error "No response received from Mostro"
  | .ok (reply :: _) =>
    if reply.sender ≠ mostro then .error "Received response from wrong sender" else .ok reply

/-- `admin_finalize_ack`. The source appends the action's name to the text. -/
def adminFinalizeAck (action expected : Action) : Except String AdminFinalizeAck :=
  if action = expected then .ok .confirmed
  else if action = .cooperativeCancelAccepted then .ok .alreadyCooperativelyCanceled
  else .error "Unexpected action in response"

/-- `execute_admin_settle` and `execute_admin_cancel` from the reply on. -/
def executeAdminFinalize (expected : Action) (mostro : PublicKey) (requestId : Nat)
    (received : Received) : Except String AdminFinalizeAck :=
  match replyOf mostro received with
  | .error e => .error e
  | .ok reply =>
    match handleMostroResponse reply.message requestId with
    | .error e => .error e
    | .ok inner => adminFinalizeAck inner.action expected

/-- `execute_admin_settle`. -/
def executeAdminSettle : PublicKey → Nat → Received → Except String AdminFinalizeAck :=
  executeAdminFinalize .adminSettled

/-- `execute_admin_cancel`. -/
def executeAdminCancel : PublicKey → Nat → Received → Except String AdminFinalizeAck :=
  executeAdminFinalize .adminCanceled

/-- `execute_take_dispute` from the reply to what it saves. The source puts the ids and the status
into the texts. -/
def executeTakeDispute (mostro : PublicKey) (rows : Table Uuid AdminDispute) (disputeId : Uuid)
    (received : Received) : Except String SolverDisputeInfo :=
  match replyOf mostro received with
  | .error e => .error e
  | .ok reply =>
    if reply.message.action = .adminTookDispute then
      match reply.message.payload, reply.disputeInfo with
      | some (.dispute id), some info =>
        if id ≠ disputeId then .error "Dispute ID mismatch"
        else if (rows info.id).any (·.isFinalized) then
          .error "Cannot take dispute: order already has a finalized dispute"
        else .ok { info with status := DisputeStatus.inProgress.text }
      | _, _ =>
        .error "Received AdminTookDispute response but SolverDisputeInfo not found in payload"
    else .error "Received response with mismatched action"

/-! ## The system -/

/-- A task between two of its steps. -/
inductive AdminCall
  /-- `execute_finalize_dispute` while it waits. -/
  | awaitingAck (mostro : PublicKey) (disputeId orderId : Uuid) (isSettle : Bool) (requestId : Nat)
  /-- `execute_take_dispute` while it waits. -/
  | awaitingTake (mostro : PublicKey) (disputeId : Uuid)
  /-- The same before its `INSERT`. -/
  | saving (disputeId : Uuid) (info : SolverDisputeInfo)
  /-- After its `INSERT` hit a row. -/
  | conflict (d : AdminDispute)
  /-- After it found that row not finalized. -/
  | checked (d : AdminDispute)
deriving DecidableEq, Repr

/-- What was sent, what the waits returned, and what the relay has shown. -/
structure AdminLog where
  sent : List DisputeRequest := []
  received : List DisputeReply := []
  relayed : List Dispute := []

/-- The commands for the chats of a dispute. -/
abbrev DisputeChatCmd := RouterCmd (Uuid × ChatParty)

/-- The table, the tasks on their way, the commands to the chat listener, and the log. -/
structure AdminState where
  rows : Table Uuid AdminDispute := Table.empty
  calls : Table Nat AdminCall := Table.empty
  chats : List DisputeChatCmd := []
  log : AdminLog := {}

/-- One step. `since` are the cursors of the dispute's transcript on disk. -/
inductive AdminEvent
  /-- `execute_finalize_dispute` up to its request; `row` is the row that `LIMIT 1` picks. -/
  | finalize (call : Nat) (mostro : PublicKey) (disputeId row : Uuid) (isSettle : Bool)
      (bond : BondSlashChoice) (requestId : Nat)
  /-- Its end. -/
  | finalizeReply (call : Nat) (received : Received)
  /-- `execute_take_dispute` up to its request. -/
  | take (call : Nat) (mostro : PublicKey) (disputeId : Uuid)
  /-- The same up to `AdminDispute::new`. -/
  | takeReply (call : Nat) (received : Received)
  /-- `AdminDispute::new` up to its `INSERT`. -/
  | saveInsert (call : Nat) (since : ChatParty → Option Int)
  /-- Its check of the row in the way. -/
  | saveCheck (call : Nat)
  /-- Its `UPDATE`. -/
  | saveUpdate (call : Nat) (since : ChatParty → Option Int)
  /-- One dispute of the relay reconcile; `row` is a row that the statement changes, if any. -/
  | reconcile (relay : Dispute) (row : Uuid)
  /-- The program ends at any point and starts again. -/
  | restart

section
variable (ops : EnvelopeOps) (adminKeys : Keys)

/-- The pubkey of a party. -/
def AdminDispute.pubkey (d : AdminDispute) : ChatParty → Option String
  | .buyer => d.buyerPubkey
  | .seller => d.sellerPubkey

/-- `track_dispute_chat` for a party, unless its pubkey gives no secret. -/
def trackParty (d : AdminDispute) (disputeId : Uuid) (since : ChatParty → Option Int)
    (party : ChatParty) : Option DisputeChatCmd := do
  let hex ← (d.pubkey party).bind (deriveSharedKeyHex ops.chatOps adminKeys)
  let allowed ← disputeChatAllowedSigners ops (some adminKeys.publicKey) (d.pubkey party)
  some (.trackChatKey (disputeId, party) hex none allowed (since party))

/-- The chats that a taken dispute is given. -/
def trackTaken (d : AdminDispute) (since : ChatParty → Option Int) : List DisputeChatCmd :=
  match d.disputeId with
  | some disputeId =>
    [ChatParty.buyer, .seller].filterMap (trackParty ops adminKeys d disputeId since)
  | none => []

/-- `untrack_dispute_chat_parties`. -/
def untrackDisputeChatParties (disputeId : Uuid) : List DisputeChatCmd :=
  [.untrackChatKey (disputeId, .buyer), .untrackChatKey (disputeId, .seller)]

/-- `execute_finalize_dispute` up to its request. -/
def AdminState.finalize (s : AdminState) (call : Nat) (mostro : PublicKey) (disputeId row : Uuid)
    (isSettle : Bool) (bond : BondSlashChoice) (requestId : Nat) : AdminState :=
  match (s.rows row).filter (·.disputeId = some disputeId) with
  | none => s
  | some dispute =>
    if dispute.isFinalized then s
    else if isSettle ∧ dispute.canSettle = false then s
    else if isSettle = false ∧ dispute.canCancel = false then s
    else
      { s with
        calls := s.calls.put call (.awaitingAck mostro disputeId dispute.id isSettle requestId)
        log.sent := s.log.sent ++ [finalizeRequest mostro dispute.id isSettle bond requestId] }

/-- `execute_finalize_dispute` from the reply on. -/
def AdminState.finalizeReply (s : AdminState) (call : Nat) (received : Received) : AdminState :=
  match s.calls call with
  | some (.awaitingAck mostro disputeId orderId isSettle requestId) =>
    let s := { s with
      calls := s.calls.erase call
      log.received := s.log.received ++ received.messages }
    match
      if isSettle then executeAdminSettle mostro requestId received
      else executeAdminCancel mostro requestId received with
    | .error _ => s
    | .ok ack =>
      { s with
        rows := setStatus s.rows orderId (finalStatus isSettle ack)
        chats := s.chats ++ untrackDisputeChatParties disputeId }
  | _ => s

/-- `execute_take_dispute` up to its request. -/
def AdminState.take (s : AdminState) (call : Nat) (mostro : PublicKey) (disputeId : Uuid) :
    AdminState :=
  { s with
    calls := s.calls.put call (.awaitingTake mostro disputeId)
    log.sent := s.log.sent ++ [takeRequest mostro disputeId] }

/-- `execute_take_dispute` from the reply up to `AdminDispute::new`. -/
def AdminState.takeReply (s : AdminState) (call : Nat) (received : Received) : AdminState :=
  match s.calls call with
  | some (.awaitingTake mostro disputeId) =>
    let s' := { s with log.received := s.log.received ++ received.messages }
    match executeTakeDispute mostro s.rows disputeId received with
    | .error _ => { s' with calls := s.calls.erase call }
    | .ok info => { s' with calls := s.calls.put call (.saving disputeId info) }
  | _ => s

/-- `AdminDispute::new` up to its `INSERT`, and the end of the take where that went through. -/
def AdminState.saveInsert (s : AdminState) (call : Nat) (since : ChatParty → Option Int) :
    AdminState :=
  match s.calls call with
  | some (.saving disputeId info) =>
    match newRow info disputeId with
    | none => { s with calls := s.calls.erase call }
    | some d =>
      match s.rows d.id with
      | none =>
        { s with
          rows := s.rows.put d.id d
          calls := s.calls.erase call
          chats := s.chats ++ trackTaken ops adminKeys d since }
      | some _ => { s with calls := s.calls.put call (.conflict d) }
  | _ => s

/-- The check of `AdminDispute::new`, after a unique violation. -/
def AdminState.saveCheck (s : AdminState) (call : Nat) : AdminState :=
  match s.calls call with
  | some (.conflict d) =>
    match s.rows d.id with
    | none => { s with calls := s.calls.erase call }
    | some existing =>
      if existing.isFinalized then { s with calls := s.calls.erase call }
      else { s with calls := s.calls.put call (.checked d) }
  | _ => s

/-- The overwrite of `AdminDispute::new`, and the end of the take. -/
def AdminState.saveUpdate (s : AdminState) (call : Nat) (since : ChatParty → Option Int) :
    AdminState :=
  match s.calls call with
  | some (.checked d) =>
    { s with
      rows := s.rows.modify d.id fun _ => d
      calls := s.calls.erase call
      chats := s.chats ++ trackTaken ops adminKeys d since }
  | _ => s

/-- `reconcile_one_admin_dispute_if_terminal`. -/
def AdminState.reconcile (s : AdminState) (relay : Dispute) (row : Uuid) : AdminState :=
  let hit := (s.rows row).any fun d => d.disputeId = some relay.id ∧ d.isFinalized = false
  { s with
    rows := reconcileOneAdminDisputeIfTerminal s.rows relay
    chats :=
      if isTerminalStatus relay.status ∧ hit then s.chats ++ untrackDisputeChatParties relay.id
      else s.chats
    log.relayed := s.log.relayed ++ [relay] }

/-- The step function. -/
def AdminState.next (s : AdminState) : AdminEvent → AdminState
  | .finalize call mostro disputeId row isSettle bond requestId =>
    s.finalize call mostro disputeId row isSettle bond requestId
  | .finalizeReply call received => s.finalizeReply call received
  | .take call mostro disputeId => s.take call mostro disputeId
  | .takeReply call received => s.takeReply call received
  | .saveInsert call since => s.saveInsert ops adminKeys call since
  | .saveCheck call => s.saveCheck call
  | .saveUpdate call since => s.saveUpdate ops adminKeys call since
  | .reconcile relay row => s.reconcile relay row
  | .restart => { s with calls := Table.empty, chats := [] }

end

end Mostrix.Disputes
