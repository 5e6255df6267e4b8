import Mostrix.Library.Run
import Mostrix.Keys.User

/-!
# The reservation of trade indices

`models.rs`: a trade takes its index from the counter in the user row, `last_trade_index`.
`reserve_next_trade_index` raises the counter and hands the new value out in one transaction;
`update_last_trade_index` raises it to an index that some flow computed earlier. Transactions are
serializable, so any number of flows is one sequence of these two steps, and the indices handed out
are part of the state.

Every index handed out is the counter's value at that moment, and the counter never falls. So the
indices increase, as long as the counter starts at `NULL` or a value that is not negative, and the
`i64` addition does not wrap (`reserved_unique`).
-/

namespace Mostrix

/-- `User::update_last_trade_index`: `MAX(COALESCE(last_trade_index, 0), idx)`. -/
def User.updateLastTradeIndex (user : Option User) (idx : Int) : Option User :=
  user.map fun u =>
    let last := u.lastTradeIndex.getD 0
    { u with lastTradeIndex := some (if last < idx then idx else last) }

/-- The flows that reserve an index. -/
inductive ReservingFlow
  | sendNewOrder
  | takeOrder
  | createMsgPayload
deriving DecidableEq, Repr

/-- The index each flow takes for the last one when there is none. -/
def ReservingFlow.noneBase : ReservingFlow → Int
  | .sendNewOrder => 1
  | .takeOrder => 1
  | .createMsgPayload => 0

/-- A transaction on the counter. -/
inductive IndexStep
  | reserve (flow : ReservingFlow)
  | update (idx : Int)
deriving DecidableEq, Repr

/-- The user row, and the indices and keys handed out so far, oldest first. -/
structure IndexState where
  user : Option User
  reserved : List (Int × Keys) := []

/-- Distinct indices have distinct keys, as NIP-06 derivation makes them. -/
def KeyOps.DistinctKeys (ops : KeyOps) : Prop :=
  ∀ {mnemonic : String} {i j : Nat} {k k' : Keys}, ops.fromMnemonic mnemonic i = .ok k →
    ops.fromMnemonic mnemonic j = .ok k' → k.publicKey = k'.publicKey → i = j

section
variable (ops : KeyOps)

/-- One transaction. A reservation whose keys cannot be derived has raised the counter already. -/
def IndexState.next (s : IndexState) : IndexStep → IndexState
  | .reserve flow =>
    let (user, result) := User.reserveNextTradeIndex ops s.user flow.noneBase
    { user := user
      reserved :=
        match result with
        | .ok r => s.reserved ++ [r]
        | .error _ => s.reserved }
  | .update idx => { s with user := User.updateLastTradeIndex s.user idx }

/-- The state a run reaches from a stored user. -/
def runIndex (user : User) (steps : List IndexStep) : IndexState :=
  steps.foldl (IndexState.next ops) { user := some user }

/-- What a reservation is for: the indices increase and are at least 1, no two have the same key,
and none has the identity key, which is the key of index 0. -/
def ReservedUnique (user : User) (reserved : List (Int × Keys)) : Prop :=
  reserved.Pairwise (fun a b => a.1 < b.1 ∧ a.2.publicKey ≠ b.2.publicKey) ∧
    ∀ r ∈ reserved, 1 ≤ r.1 ∧
      ∀ i0Keys, ops.fromMnemonic user.mnemonic 0 = .ok i0Keys →
        r.2.publicKey ≠ i0Keys.publicKey

end

/-- The counter is below the greatest `i64` when a step adds to it. -/
def IndexStep.NoOverflow (s : IndexState) : IndexStep → Prop
  | .reserve flow => ∀ u, s.user = some u → u.lastTradeIndex.getD flow.noneBase + 1 < 2 ^ 63
  | .update _ => True

/-- The addition does not wrap below the greatest `i64`. -/
theorem addI64_one {a : Int} (h0 : 0 ≤ a) (h : a + 1 < 2 ^ 63) : addI64 a 1 = a + 1 := by
  unfold addI64
  rw [Int.bmod_eq_of_le] <;> omega

section
variable {ops : KeyOps}

/-- The invariant: the mnemonic stays, the counter is not negative, it bounds every index handed
out, and these increase, are at least 1 and have the keys of the mnemonic. -/
structure IndexInv (ops : KeyOps) (user : User) (s : IndexState) : Prop where
  stored : ∃ u, s.user = some u ∧ u.mnemonic = user.mnemonic ∧
    0 ≤ u.lastTradeIndex.getD 0 ∧ ∀ r ∈ s.reserved, ∃ c, u.lastTradeIndex = some c ∧ r.1 ≤ c
  pos : ∀ r ∈ s.reserved, 1 ≤ r.1
  keys : ∀ r ∈ s.reserved, ops.fromMnemonic user.mnemonic r.1.toNat = .ok r.2
  increasing : s.reserved.Pairwise fun a b => a.1 < b.1

/-- A stored user without indices handed out meets the invariant. -/
theorem indexInv_init {user : User} (h : ∀ c, user.lastTradeIndex = some c → 0 ≤ c) :
    IndexInv ops user { user := some user } where
  stored := by
    refine ⟨user, rfl, rfl, ?_, by simp⟩
    cases hc : user.lastTradeIndex with
    | none => simp
    | some c => simpa [hc] using h c hc
  pos := by simp
  keys := by simp
  increasing := .nil

/-- The keys of an index in range are those of the mnemonic. -/
theorem deriveTradeKeys_ok {user : User} {idx : Int} {keys : Keys}
    (h : user.deriveTradeKeys ops idx = .ok keys) :
    ops.fromMnemonic user.mnemonic idx.toNat = .ok keys := by
  unfold User.deriveTradeKeys at h
  split at h
  · cases h
  · exact h

/-- A reservation that does not wrap hands out the index after the counter's, when its keys can be
derived. -/
theorem next_reserve {s : IndexState} {flow : ReservingFlow} {u : User} (hu : s.user = some u)
    {idx : Int} (hidx : addI64 (u.lastTradeIndex.getD flow.noneBase) 1 = idx) :
    s.next ops (.reserve flow) =
      { user := some { u with lastTradeIndex := some idx }
        reserved := s.reserved ++
          ((u.deriveTradeKeys ops idx).toOption.map fun keys => (idx, keys)).toList } := by
  simp only [IndexState.next, User.reserveNextTradeIndex, hu, hidx]
  cases u.deriveTradeKeys ops idx <;> simp [Except.map, Except.toOption]

/-- A reservation that does not wrap keeps the invariant: the new index is above the counter, which
bounds the old ones. -/
theorem indexInv_reserve {user : User} {s : IndexState} {flow : ReservingFlow}
    (hs : IndexInv ops user s) (h : IndexStep.NoOverflow s (.reserve flow)) :
    IndexInv ops user (s.next ops (.reserve flow)) := by
  obtain ⟨u, hu, hmn, hc0, hbound⟩ := hs.stored
  have hbase : 0 ≤ flow.noneBase := by cases flow <;> decide
  have hlast : 0 ≤ u.lastTradeIndex.getD flow.noneBase := by
    cases hc : u.lastTradeIndex with
    | none => simpa using hbase
    | some c => simpa [hc] using hc0
  have hold : ∀ r ∈ s.reserved, r.1 < u.lastTradeIndex.getD flow.noneBase + 1 := by
    intro r hr
    obtain ⟨c, hc, hle⟩ := hbound r hr
    rw [hc, Option.getD_some]
    omega
  have hidx : 0 < u.lastTradeIndex.getD flow.noneBase + 1 := by omega
  rw [next_reserve hu (addI64_one hlast (h u hu))]
  generalize u.lastTradeIndex.getD flow.noneBase + 1 = idx at *
  cases hk : u.deriveTradeKeys ops idx with
  | error e =>
    simp only [Except.toOption, Option.map_none, Option.toList_none, List.append_nil]
    refine ⟨⟨_, rfl, hmn, ?_, fun r hr => ⟨idx, rfl, ?_⟩⟩, hs.pos, hs.keys, hs.increasing⟩
    · rw [Option.getD_some]
      omega
    · exact Int.le_of_lt (hold r hr)
  | ok keys =>
    simp only [Except.toOption, Option.map_some, Option.toList_some]
    have hmem : ∀ r ∈ s.reserved ++ [(idx, keys)], r ∈ s.reserved ∨ r = (idx, keys) := by simp
    refine ⟨⟨_, rfl, hmn, ?_, fun r hr => ⟨idx, rfl, ?_⟩⟩, fun r hr => ?_, fun r hr => ?_, ?_⟩
    · rw [Option.getD_some]
      omega
    · rcases hmem r hr with hr | rfl
      · exact Int.le_of_lt (hold r hr)
      · exact Int.le_refl idx
    · rcases hmem r hr with hr | rfl
      · exact hs.pos r hr
      · exact hidx
    · rcases hmem r hr with hr | rfl
      · exact hs.keys r hr
      · rw [← hmn]
        exact deriveTradeKeys_ok hk
    · refine List.pairwise_append.2 ⟨hs.increasing, List.pairwise_singleton _ _, ?_⟩
      intro a ha b hb
      rw [List.mem_singleton.1 hb]
      exact hold a ha

/-- Raising the counter keeps the invariant, whatever index it is raised to. -/
theorem indexInv_update {user : User} {s : IndexState} (hs : IndexInv ops user s) (idx : Int) :
    IndexInv ops user (s.next ops (.update idx)) := by
  obtain ⟨u, hu, hmn, hc0, hbound⟩ := hs.stored
  have hnext : (s.next ops (.update idx)).user = some
      { u with
        lastTradeIndex :=
          some (if u.lastTradeIndex.getD 0 < idx then idx else u.lastTradeIndex.getD 0) } := by
    simp [IndexState.next, User.updateLastTradeIndex, hu]
  refine ⟨⟨_, hnext, hmn, ?_, fun r hr => ⟨_, rfl, ?_⟩⟩, hs.pos, hs.keys, hs.increasing⟩
  · rw [Option.getD_some]
    split <;> omega
  · obtain ⟨c, hc, hle⟩ := hbound r hr
    rw [hc, Option.getD_some]
    split <;> omega

/-- Every step that does not wrap keeps the invariant. -/
theorem indexInv_next {user : User} (s : IndexState) (a : IndexStep) (h : a.NoOverflow s)
    (hs : IndexInv ops user s) : IndexInv ops user (s.next ops a) := by
  cases a with
  | reserve flow => exact indexInv_reserve hs h
  | update idx => exact indexInv_update hs idx

/-- Increasing indices with the keys of one mnemonic have distinct keys, and none the key of index
0. -/
theorem reservedUnique_of_inv (hdistinct : ops.DistinctKeys) {user : User} {s : IndexState}
    (hs : IndexInv ops user s) : ReservedUnique ops user s.reserved := by
  refine ⟨hs.increasing.imp_of_mem ?_, fun r hr => ⟨hs.pos r hr, ?_⟩⟩
  · intro a b ha hb hlt
    refine ⟨hlt, fun hkey => ?_⟩
    have hidx := hdistinct (hs.keys a ha) (hs.keys b hb) hkey
    have hpos := hs.pos a ha
    omega
  · intro i0Keys h0 hkey
    have hidx := hdistinct (hs.keys r hr) h0 hkey
    have hpos := hs.pos r hr
    omega

/-- **Trade indices are unique.** From a counter that is `NULL` or not negative, over every sequence
of reservations and raises in which no addition wraps, the indices handed out increase, are at least
1, and no two have the same key, nor any the identity key. -/
theorem reserved_unique (hdistinct : ops.DistinctKeys) {user : User}
    (hstored : ∀ c, user.lastTradeIndex = some c → 0 ≤ c) {steps : List IndexStep}
    (hrun : Run.Guarded (IndexState.next ops) (fun s a => a.NoOverflow s) { user := some user }
      steps) :
    ReservedUnique ops user (runIndex ops user steps).reserved :=
  reservedUnique_of_inv hdistinct (Run.Guarded.invariant indexInv_next hrun (indexInv_init hstored))

end

/-- Keys that spell their index in unary, so that distinct indices have distinct keys. -/
def unaryKeyOps : KeyOps where
  fromMnemonic := fun _ index =>
    let unary := String.ofList (List.replicate index 'i')
    .ok ⟨unary, unary⟩
  toBech32 := fun keys => .ok keys.secretHex
  parseKeys := fun hex => some ⟨hex, hex⟩
  parseKeys_secretHex := by
    intro mnemonic index keys h
    obtain rfl := Except.ok.inj h
    rfl

theorem unaryKeyOps_distinctKeys : unaryKeyOps.DistinctKeys := by
  intro mnemonic i j k k' hi hj hkey
  obtain rfl := Except.ok.inj hi
  obtain rfl := Except.ok.inj hj
  have hlen := congrArg List.length (String.ofList_injective hkey)
  simpa using hlen

/-- A user without a counter. -/
def freshUser : User := { i0Pubkey := "", mnemonic := "m", createdAt := 0 }

/-- Two flows and a late raise, from a counter that is `NULL`. -/
theorem reserved_unique_from_null :
    ReservedUnique unaryKeyOps freshUser
      (runIndex unaryKeyOps freshUser
        [.reserve .sendNewOrder, .update 1, .reserve .createMsgPayload]).reserved := by
  refine reserved_unique unaryKeyOps_distinctKeys (by simp [freshUser]) ⟨?_, trivial, ?_, trivial⟩
  · rintro u ⟨⟩
    decide
  · rintro u ⟨⟩
    decide

/-- From a stored counter of -1 the next index is 0, the identity key's. -/
theorem reserved_not_unique_from_negative :
    ¬ ∀ (ops : KeyOps), ops.DistinctKeys → ∀ (user : User) (steps : List IndexStep),
      ReservedUnique ops user (runIndex ops user steps).reserved := by
  intro h
  have hunique := h unaryKeyOps unaryKeyOps_distinctKeys
    { freshUser with lastTradeIndex := some (-1) } [.reserve .takeOrder]
  have hmem : (0, ⟨"", ""⟩) ∈ (runIndex unaryKeyOps
      { freshUser with lastTradeIndex := some (-1) } [.reserve .takeOrder]).reserved := by
    decide
  have hpos := (hunique.2 _ hmem).1
  omega

end Mostrix
