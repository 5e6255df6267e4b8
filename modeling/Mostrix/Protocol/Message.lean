/-!
# The protocol's data

The types of the `mostro-core` crate that the client reads and writes: order statuses and kinds,
the actions and payloads of a direct message, and the order data a payload embeds. The crate is a
dependency and not part of the repository, so each type lists what the client's own code names:
`Status` is the client's exhaustive match on it (`order_status_badge`, `ui/orders.rs`), and the
actions the client never names are `Action.other`.

Ids are `uuid`s, of which the client only ever tests equality. Public keys and secret keys are the
strings the client stores. Times and amounts are `i64`s; none of the modelled functions computes
with them beyond comparison, unless a definition says so.
-/

namespace Mostrix

/-- A `uuid`, of which the client tests equality only. -/
abbrev Uuid := Nat

/-- A public key in the form the client stores and compares. -/
abbrev PublicKey := String

/-- A trade key pair (`nostr_sdk::Keys`): the hex of its secret and its public key. -/
structure Keys where
  secretHex : String
  publicKey : PublicKey
deriving DecidableEq, Repr, Inhabited

/-- `mostro_core::order::Status`. -/
inductive Status
  | active
  | canceled
  | canceledByAdmin
  | settledByAdmin
  | completedByAdmin
  | dispute
  | expired
  | fiatSent
  | settledHoldInvoice
  | pending
  | success
  | waitingBuyerInvoice
  | waitingPayment
  | cooperativelyCanceled
  | inProgress
  | waitingTakerBond
  | waitingMakerBond
deriving DecidableEq, Repr, Inhabited

/-- `mostro_core::order::Kind`: the side of a listing. -/
inductive Kind
  | buy
  | sell
deriving DecidableEq, Repr, Inhabited

/-- `mostro_core::message::Action`, the actions the client names; `other` stands for the rest. -/
inductive Action
  | newOrder
  | takeSell
  | takeBuy
  | payInvoice
  | payBondInvoice
  | fiatSent
  | fiatSentOk
  | release
  | released
  | cancel
  | canceled
  | cooperativeCancelInitiatedByYou
  | cooperativeCancelInitiatedByPeer
  | cooperativeCancelAccepted
  | disputeInitiatedByYou
  | disputeInitiatedByPeer
  | buyerInvoiceAccepted
  | purchaseCompleted
  | holdInvoicePaymentAccepted
  | holdInvoicePaymentSettled
  | waitingSellerToPay
  | waitingBuyerInvoice
  | addInvoice
  | addBondInvoice
  | buyerTookOrder
  | rate
  | rateUser
  | rateReceived
  | cantDo
  | dispute
  | adminCancel
  | adminCanceled
  | adminSettle
  | adminSettled
  | adminAddSolver
  | adminTakeDispute
  | adminTookDispute
  | other (n : Nat)
deriving DecidableEq, Repr, Inhabited

/-- `mostro_core::order::SmallOrder`: the order data a message or a relay event carries. -/
structure SmallOrder where
  id : Option Uuid := none
  kind : Option Kind := none
  status : Option Status := none
  amount : Int := 0
  fiatCode : String := ""
  minAmount : Option Int := none
  maxAmount : Option Int := none
  fiatAmount : Int := 0
  paymentMethod : String := ""
  premium : Int := 0
  buyerTradePubkey : Option String := none
  sellerTradePubkey : Option String := none
  buyerInvoice : Option String := none
  createdAt : Option Int := none
  expiresAt : Option Int := none
deriving DecidableEq, Repr, Inhabited

/-- `BondPayoutRequest`: the order a slashed bond belongs to and when it was slashed. -/
structure BondPayoutRequest where
  order : SmallOrder
  slashedAt : Int
deriving DecidableEq, Repr, Inhabited

/-- `mostro_core::message::Payload`, the payloads the client reads. The reason of `cantDo` is the
text the client shows for it; the reputation of `peer` and the dispute record of `dispute` reach no
modelled function. -/
inductive Payload
  | order (o : SmallOrder)
  | paymentRequest (o : Option SmallOrder) (invoice : String) (amount : Option Int)
  | bondPayoutRequest (req : BondPayoutRequest)
  | peer (pubkey : String)
  | dispute (id : Uuid)
  | cantDo (reason : String)
  | nextTrade (pubkey : String) (index : Nat)
  | amount (n : Int)
  | textMessage (text : String)
  | ratingUser (rating : Nat)
  | other (n : Nat)
deriving DecidableEq, Repr, Inhabited

/-- `mostro_core::message::MessageKind`, what `get_inner_message_kind` returns for any message. -/
structure MessageKind where
  id : Option Uuid := none
  requestId : Option Nat := none
  tradeIndex : Option Int := none
  action : Action
  payload : Option Payload := none
deriving DecidableEq, Repr, Inhabited

/-- `small_order_ref_from_payload` (`dm_utils/mod.rs`): the `SmallOrder` embedded in a standalone
order or in a payment request that carries one. -/
def smallOrderRefFromPayload : Option Payload → Option SmallOrder
  | some (.order o) => some o
  | some (.paymentRequest (some o) _ _) => some o
  | _ => none

/-- `small_order_from_payload` (`ui/orders.rs`): as `smallOrderRefFromPayload`, and also the order
of a bond payout request. -/
def smallOrderFromPayload : Option Payload → Option SmallOrder
  | some (.order o) => some o
  | some (.paymentRequest (some o) _ _) => some o
  | some (.bondPayoutRequest req) => some req.order
  | _ => none

end Mostrix
