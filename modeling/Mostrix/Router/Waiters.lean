import Mostrix.Library.Run
import Mostrix.Library.Table
import Mostrix.Replies.MostroResponse

/-!
# Waiting for a reply

`util/dm_utils/mod.rs`: a flow that asks Mostro something registers a waiter with the listener
(`wait_for_dm`), sends its request and awaits a `oneshot`; the listener hands the waiter the first
event its trade key opens. The flows and the listener are one system here: the command channel
between them, the waiters the listener holds, and for every call of `wait_for_dm` how far its flow
is. A `RouterAction` is one turn of one party, and a run is any interleaving of them.

What a flow does with the event it is handed is `Flow.reply`. Every flow with a request id asks
`handle_mostro_response` first; what it checks beyond that is a parameter of the flow.
-/

namespace Mostrix.Router

/-- A relay event, as far as the router looks at it. -/
structure Event where
  id : Nat
  kind : Nat
  pubkey : PublicKey
  content : String
deriving DecidableEq, Repr

/-- What `unwrap_incoming` gives for an event that a key opens. -/
structure UnwrappedMessage where
  message : MessageKind
  sender : PublicKey
  /-- `signature.is_some()` -/
  signed : Bool
deriving DecidableEq, Repr

/-- The wire, which is `mostro-core`'s: the transport's event kind and what a key opens an event to
(`Ok(Some(_))` of `unwrap_incoming`). A public key determines its secret, so opening is a function
of the public key; the listener's cache for one event is keyed the same way. -/
structure Wire where
  eventKind : Nat
  unwrapIncoming : Event → PublicKey → Option UnwrappedMessage

/-- `Kind::PrivateDirectMessage`. -/
def privateDirectMessage : Nat := 14

/-- `is_own_signed_v2_outbound`: our own request, echoed by the relay. -/
def isOwnSignedV2Outbound (event : Event) (tradeKey : PublicKey) (u : UnwrappedMessage) : Bool :=
  event.kind = privateDirectMessage ∧ event.pubkey = tradeKey ∧ u.signed

/-- What a waiter with this key is handed for an event: an event of the transport's kind that the
key opens and that is no echo of our own request. The request id is not looked at. -/
def deliverable (wire : Wire) (event : Event) (tradeKey : PublicKey) : Option UnwrappedMessage :=
  if event.kind = wire.eventKind then
    (wire.unwrapIncoming event tradeKey).filter fun u => !isOwnSignedV2Outbound event tradeKey u
  else none

/-- `MAX_PENDING_WAITERS`. -/
def maxPendingWaiters : Nat := 32

/-- One call of `wait_for_dm`, that is one `oneshot` channel. -/
abbrev WaiterId := Nat

/-- A flow with a request in flight: the key and id it waits with, and what it does beyond
`handle_mostro_response`. -/
structure Flow where
  tradeKey : PublicKey
  requestId : Nat
  /-- The admin flows compare the sender with Mostro's key; the others take any. -/
  senderOk : PublicKey → Bool := fun _ => true
  /-- What the flow makes of an accepted reply: an error for an action it does not expect. -/
  onReply : MessageKind → Except String Unit := fun _ => .ok ()
  /-- The bond flow takes silence for an acknowledgement. -/
  silenceOk : Bool := false

/-- `parse_dm_events` on the one event of the reply. -/
def parseDmEvents (wire : Wire) (event : Event) (tradeKey : PublicKey) : List UnwrappedMessage :=
  (wire.unwrapIncoming event tradeKey).toList

/-- What the flow returns on the event it is handed: `some` of the reply it reports success on. -/
def Flow.reply (wire : Wire) (flow : Flow) (event : Event) : Except String (Option MessageKind) :=
  match (parseDmEvents wire event flow.tradeKey).head? with
  | none => if flow.silenceOk then .ok none else .error "No response received from Mostro"
  | some u =>
    if flow.senderOk u.sender then do
      let inner ← handleMostroResponse u.message flow.requestId
      flow.onReply inner
      return some inner
    else .error "Received response from wrong sender"

/-- What the flow returns when nothing came in time. -/
def Flow.silence (flow : Flow) : Except String (Option MessageKind) :=
  if flow.silenceOk then .ok none else .error "Timeout waiting for DM or gift wrap event"

/-- The receiving half of the `oneshot`. -/
inductive Response
  | empty
  | event (e : Event)
  /-- The sender was dropped unused. -/
  | canceled

/-- How far a call of `wait_for_dm` is. A finished one has dropped its receiver. -/
inductive Phase
  | sending
  | awaiting
  | finished (result : Except String (Option MessageKind))

/-- A call of `wait_for_dm` and the flow that made it. -/
structure Wait where
  flow : Flow
  phase : Phase := .sending
  response : Response := .empty

/-- `PendingDmWaiter`; its sender is named by the wait it answers. -/
structure PendingDmWaiter where
  tradeKey : PublicKey
  responseTx : WaiterId
deriving DecidableEq, Repr

/-- `DmRouterCmd`. A tracked order matters to the waiters through its trade key only. -/
inductive DmRouterCmd
  | trackOrder (tradeKey : PublicKey)
  | registerWaiter (waiter : PendingDmWaiter)
deriving DecidableEq, Repr

/-- The flows and the listener. -/
structure RouterState where
  waits : Table WaiterId Wait
  /-- The unbounded channel to the listener. -/
  commands : List DmRouterCmd
  subscribedPubkeys : List PublicKey
  pendingWaiters : List PendingDmWaiter

/-- The router before the first request. -/
def RouterState.init : RouterState where
  waits := Table.empty
  commands := []
  subscribedPubkeys := []
  pendingWaiters := []

/-- The waiter a command registers. -/
def DmRouterCmd.waiter : DmRouterCmd → Option PendingDmWaiter
  | .trackOrder _ => none
  | .registerWaiter w => some w

/-- The waiters whose sender is alive: those the listener holds and those still in its channel. -/
def RouterState.registered (s : RouterState) : List PendingDmWaiter :=
  s.pendingWaiters ++ s.commands.filterMap DmRouterCmd.waiter

/-- `response_tx.is_closed()`: the flow gave up or was answered. -/
def isClosed (waits : Table WaiterId Wait) (id : WaiterId) : Bool :=
  match waits id with
  | some ⟨_, .finished _, _⟩ => true
  | some _ => false
  | none => true

/-- Drop the sender of a waiter. -/
def cancel (waits : Table WaiterId Wait) (id : WaiterId) : Table WaiterId Wait :=
  waits.modify id fun w => { w with response := .canceled }

/-- `prune_closed_waiters`. -/
def pruneClosedWaiters (s : RouterState) : RouterState :=
  { s with pendingWaiters := s.pendingWaiters.filter fun w => !isClosed s.waits w.responseTx }

/-- A turn of the listener on a `RegisterWaiter` command. -/
def registerWaiter (subscribeOk : Bool) (s : RouterState) (waiter : PendingDmWaiter) :
    RouterState :=
  let s := pruneClosedWaiters s
  if s.pendingWaiters.length ≥ maxPendingWaiters then
    { s with waits := cancel s.waits waiter.responseTx }
  else if waiter.tradeKey ∈ s.subscribedPubkeys then
    { s with pendingWaiters := s.pendingWaiters ++ [waiter] }
  else if subscribeOk then
    { s with
      subscribedPubkeys := waiter.tradeKey :: s.subscribedPubkeys
      pendingWaiters := s.pendingWaiters ++ [waiter] }
  else { s with waits := cancel s.waits waiter.responseTx }

/-- A turn of the listener on its command channel. -/
def recvCmd (subscribeOk : Bool) (s : RouterState) : RouterState :=
  match s.commands with
  | [] => s
  | .trackOrder key :: rest =>
    let s := { s with commands := rest }
    if key ∉ s.subscribedPubkeys ∧ subscribeOk then
      { s with subscribedPubkeys := key :: s.subscribedPubkeys }
    else s
  | .registerWaiter waiter :: rest => registerWaiter subscribeOk { s with commands := rest } waiter

/-- The waiters an event answers: those whose flow still waits and whose key opens it. -/
def answered (wire : Wire) (s : RouterState) (e : Event) (w : PendingDmWaiter) : Bool :=
  !isClosed s.waits w.responseTx && (deliverable wire e w.tradeKey).isSome

/-- A turn of the listener on a relay event: every waiter it answers is sent the event, and closed
ones are dropped on the way. -/
def satisfyWaiters (wire : Wire) (s : RouterState) (e : Event) : RouterState :=
  if e.kind ≠ wire.eventKind then s
  else
    { s with
      waits := s.waits.modifyAll
        ((s.pendingWaiters.filter (answered wire s e)).map (·.responseTx))
        fun w => { w with response := .event e }
      pendingWaiters := s.pendingWaiters.filter fun w =>
        !isClosed s.waits w.responseTx && (deliverable wire e w.tradeKey).isNone }

/-- `respawn_trade_dm_listener`: the old listener is aborted with its channel, and the new one
starts without waiters. -/
def respawn (s : RouterState) : RouterState where
  waits := s.waits.modifyAll (s.registered.map (·.responseTx)) fun w => { w with response := .canceled }
  commands := []
  subscribedPubkeys := []
  pendingWaiters := []

/-- `wait_for_dm` up to its first await: the channel is made and the waiter announced. -/
def waitForDm (s : RouterState) (id : WaiterId) (flow : Flow) : RouterState :=
  match s.waits id with
  | some _ => s
  | none =>
    { s with
      waits := s.waits.put id { flow := flow }
      commands := s.commands ++ [.registerWaiter ⟨flow.tradeKey, id⟩] }

/-- `sent_message.await?`. -/
def afterSend (result : Except String Unit) (w : Wait) : Wait :=
  match w.phase with
  | .sending =>
    match result with
    | .ok () => { w with phase := .awaiting }
    | .error e => { w with phase := .finished (.error e) }
  | _ => w

/-- The flow is polled at the `timeout` around its receiver. The receiver is looked at before the
deadline, as `tokio::time::timeout` does. -/
def afterWake (wire : Wire) (elapsed : Bool) (w : Wait) : Wait :=
  match w.phase, w.response with
  | .awaiting, .event e => { w with phase := .finished (w.flow.reply wire e) }
  | .awaiting, .canceled =>
    { w with phase := .finished (.error "DM waiter canceled before receiving an event") }
  | .awaiting, .empty => if elapsed then { w with phase := .finished w.flow.silence } else w
  | _, _ => w

/-- One turn of one party. -/
inductive RouterAction
  /-- A flow calls `wait_for_dm`. -/
  | waitForDm (id : WaiterId) (flow : Flow)
  /-- Its request was sent, or sending failed. -/
  | sent (id : WaiterId) (result : Except String Unit)
  /-- It is polled, before or after its deadline. -/
  | wake (id : WaiterId) (elapsed : Bool)
  /-- Another task tracks an order. -/
  | trackOrder (tradeKey : PublicKey)
  /-- The listener takes a command; subscribing works or not. -/
  | recvCmd (subscribeOk : Bool)
  /-- The listener's garbage collection. -/
  | gcTick
  /-- The listener takes a relay event. -/
  | notification (e : Event)
  /-- The listener forgets the subscription of an order that ended. -/
  | untrack (tradeKey : PublicKey)
  /-- The listener is restarted. -/
  | respawn

/-- The step function. -/
def next (wire : Wire) (s : RouterState) : RouterAction → RouterState
  | .waitForDm id flow => waitForDm s id flow
  | .sent id result => { s with waits := s.waits.modify id (afterSend result) }
  | .wake id elapsed => { s with waits := s.waits.modify id (afterWake wire elapsed) }
  | .trackOrder key => { s with commands := s.commands ++ [.trackOrder key] }
  | .recvCmd subscribeOk => recvCmd subscribeOk s
  | .gcTick => pruneClosedWaiters s
  | .notification e => satisfyWaiters wire s e
  | .untrack key => { s with subscribedPubkeys := s.subscribedPubkeys.erase key }
  | .respawn => respawn s

/-- The state a run reaches. -/
def runFrom (wire : Wire) (s : RouterState) (run : List RouterAction) : RouterState :=
  run.foldl (next wire) s

end Mostrix.Router
