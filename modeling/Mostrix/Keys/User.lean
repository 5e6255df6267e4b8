import Mostrix.Library.Except
import Mostrix.Orders.Store

/-!
# The local user and the keys of its mnemonic

`models.rs`: the one row of `users`, the keys derived from its mnemonic, the reservation of a trade
index, and the two statements a key rotation runs in one transaction. The identity key has index 0
and a trade has an index of its own; `Keys::from_mnemonic_advanced` at the account and type the
client always passes is the parameter `fromMnemonic`.
-/

namespace Mostrix

/-- What `nostr_sdk` does with keys: NIP-06 derivation, the texts of a secret key and their parser,
which reads the hex of a derived key back. -/
structure KeyOps where
  fromMnemonic : String → Nat → Except String Keys
  toBech32 : Keys → Except String String
  parseKeys : String → Option Keys
  parseKeys_secretHex : ∀ {mnemonic : String} {index : Nat} {keys : Keys},
    fromMnemonic mnemonic index = .ok keys → parseKeys keys.secretHex = some keys

/-- Keys whose texts name the mnemonic and the index, for concrete runs. -/
def plainKeyOps : KeyOps where
  fromMnemonic := fun mnemonic index =>
    .ok ⟨mnemonic ++ ":" ++ index.repr, "pub:" ++ (mnemonic ++ ":" ++ index.repr)⟩
  toBech32 := fun keys => .ok ("nsec1" ++ keys.secretHex)
  parseKeys := fun hex => some ⟨hex, "pub:" ++ hex⟩
  parseKeys_secretHex := by
    intro mnemonic index keys h
    obtain rfl := Except.ok.inj h
    rfl

/-- A row of `users`. -/
structure User where
  i0Pubkey : PublicKey
  mnemonic : String
  lastTradeIndex : Option Int := none
  createdAt : Int
deriving DecidableEq, Repr

/-- `i64` addition, wrapping as a release build does. -/
def addI64 (a b : Int) : Int := (a + b).bmod (2 ^ 64)

namespace User
variable (ops : KeyOps)

/-- `User::from_mnemonic`. -/
def fromMnemonic (mnemonic : String) (now : Int) : Except String User :=
  (ops.fromMnemonic mnemonic 0).map fun i0Keys =>
    { i0Pubkey := i0Keys.publicKey, mnemonic := mnemonic, createdAt := now }

/-- `User::derive_trade_keys`. -/
def deriveTradeKeys (user : User) (tradeIndex : Int) : Except String Keys :=
  if tradeIndex < 0 ∨ tradeIndex > 2 ^ 32 - 1 then
    .error (s!"Invalid trade_index {tradeIndex} for key derivation; " ++
      s!"expected 0..={(2 ^ 32 - 1 : Nat)}")
  else ops.fromMnemonic user.mnemonic tradeIndex.toNat

/-- `User::reserve_next_trade_index`: the counter is raised in one transaction, and the keys are
derived from the row that was read in it. -/
def reserveNextTradeIndex (user : Option User) (noneBase : Int) :
    Option User × Except String (Int × Keys) :=
  match user with
  | none =>
    (none, .error "no rows returned by a query that expected to return at least one row")
  | some user =>
    let nextIdx := addI64 (user.lastTradeIndex.getD noneBase) 1
    (some { user with lastTradeIndex := some nextIdx },
      (deriveTradeKeys ops user nextIdx).map fun keys => (nextIdx, keys))

end User

/-- The two tables of the database that a rotation writes. -/
structure UserDb where
  user : Option User
  orders : Db

/-- `User::replace_all_in_tx`: delete the row, then insert the new one, whose `last_trade_index` is
not set. -/
def User.replaceAllInTx (user : User) (tx : UserDb) : UserDb :=
  { tx with user := some { user with lastTradeIndex := none } }

/-- `Order::delete_all_in_tx`. -/
def Order.deleteAllInTx (tx : UserDb) : UserDb := { tx with orders := Table.empty }

/-! ## The keys of an index -/

section
variable {ops : KeyOps}

variable (ops) in
/-- The secret of the current mnemonic at an index, as an order row stores it. -/
def derivedHex (user : Option User) (tradeIndex : Option Int) : Option String := do
  let user ← user
  let tradeIndex ← tradeIndex
  let keys ← (user.deriveTradeKeys ops tradeIndex).toOption
  some keys.secretHex

/-- It depends on the mnemonic only. -/
theorem derivedHex_congr {user user' : Option User}
    (h : user'.map (·.mnemonic) = user.map (·.mnemonic)) (tradeIndex : Option Int) :
    derivedHex ops user' tradeIndex = derivedHex ops user tradeIndex := by
  cases user with
  | none =>
    obtain rfl := Option.map_eq_none_iff.1 h
    rfl
  | some u =>
    obtain ⟨u', rfl, hu⟩ := Option.map_eq_some_iff.1 h
    have hderive : ∀ i, u'.deriveTradeKeys ops i = u.deriveTradeKeys ops i := fun i => by
      unfold User.deriveTradeKeys
      rw [hu]
    simp [derivedHex, hderive]

/-- Reserving an index keeps the mnemonic. -/
theorem reserveNextTradeIndex_mnemonic (user : Option User) (noneBase : Int) :
    (User.reserveNextTradeIndex ops user noneBase).1.map (·.mnemonic) = user.map (·.mnemonic) := by
  cases user <;> rfl

/-- A reserved index comes with the keys derived for it. -/
theorem deriveTradeKeys_of_reserved {user : User} {noneBase nextIdx : Int} {keys : Keys}
    (h : (User.reserveNextTradeIndex ops (some user) noneBase).2 = .ok (nextIdx, keys)) :
    user.deriveTradeKeys ops nextIdx = .ok keys := by
  obtain ⟨k, hk, hpair⟩ := Except.ok_of_map h
  obtain ⟨rfl, rfl⟩ := Prod.mk.inj hpair
  exact hk

/-- The keys of a reserved index are those of the mnemonic. -/
theorem reserveNextTradeIndex_keys {user : Option User} {noneBase nextIdx : Int} {keys : Keys}
    (h : (User.reserveNextTradeIndex ops user noneBase).2 = .ok (nextIdx, keys)) :
    derivedHex ops user (some nextIdx) = some keys.secretHex := by
  cases user with
  | none => cases h
  | some u =>
    have hk := deriveTradeKeys_of_reserved h
    simp [derivedHex, hk, Except.toOption]

/-- A derived secret is read back as a key with that secret. -/
theorem parseKeys_of_derivedHex {user : Option User} {tradeIndex : Option Int} {hex : String}
    {keys : Keys} (h : derivedHex ops user tradeIndex = some hex)
    (hparse : ops.parseKeys hex = some keys) : keys.secretHex = hex := by
  obtain ⟨u, rfl⟩ : ∃ u, user = some u := by
    cases user with
    | none => cases h
    | some u => exact ⟨u, rfl⟩
  obtain ⟨i, rfl⟩ : ∃ i, tradeIndex = some i := by
    cases tradeIndex with
    | none => cases h
    | some i => exact ⟨i, rfl⟩
  cases hk : u.deriveTradeKeys ops i with
  | error e => simp [derivedHex, hk, Except.toOption] at h
  | ok k =>
    have hhex : k.secretHex = hex := by simpa [derivedHex, hk, Except.toOption] using h
    unfold User.deriveTradeKeys at hk
    split at hk
    · cases hk
    · have hback := ops.parseKeys_secretHex hk
      rw [hhex, hparse] at hback
      rw [Option.some.inj hback, hhex]

end

end Mostrix
