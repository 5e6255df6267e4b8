import Mostrix.Disputes.AdminDispute
import Mostrix.Library.RoundRobin
import Mostrix.Orders.Reconcile

/-!
# The targeted reconcile ticks

Besides the snapshots of `relay_order_db_reconcile.rs` and `relay_dispute_db_reconcile.rs`, each
scheduler tick asks the relays for a few of the local rows by id, from where a cursor stands. The
orders' tick and the disputes' are one loop with a body each, `targetedTick`, and the loop is a
round robin (`targetedTick_visited`, `targetedTick_cursor`).

What a query or a relay answers is an input of the tick. A tick's result lists the ids its loop
went over.
-/

namespace Mostrix

variable {σ : Type _} {α : Type _} {ι : Type _}

/-- `TARGETED_RELAY_RECONCILE_MAX_PER_TICK`. -/
def targetedRelayReconcileMaxPerTick : Nat := 5

/-- What a tick leaves. -/
structure TargetedTick (σ α : Type _) where
  state : σ
  cursor : Nat
  /-- The ids the loop went over, in order. -/
  visited : List α
deriving DecidableEq, Repr

/-- A tick over `ids`, with the body `visit` of its loop. -/
def targetedTick (visit : σ → α → σ) (ids : List α) (s : σ) (cursor : Nat) : TargetedTick σ α :=
  if ids.isEmpty then { state := s, cursor, visited := [] }
  else
    let len := ids.length
    let start := cursor % len
    let take := min targetedRelayReconcileMaxPerTick len
    let visited := (List.range take).filterMap fun i => ids[(start + i) % len]?
    { state := visited.foldl visit s, cursor := (start + take) % len, visited }

/-- Consecutive ticks, each with its own inputs. -/
def targetedTicks (tick : ι → σ → Nat → TargetedTick σ α) :
    List ι → σ → Nat → List (TargetedTick σ α)
  | [], _, _ => []
  | input :: inputs, s, cursor =>
    let t := tick input s cursor
    t :: targetedTicks tick inputs t.state t.cursor

/-! ## Orders -/

/-- What a tick over the orders is answered. -/
structure OrderTickInput where
  /-- `Order::list_ids_for_targeted_relay_reconcile` -/
  ids : List String
  /-- `fetch_small_order_by_id_from_relay` -/
  fetch : Uuid → Except String (Option SmallOrder)

/-- The body of the orders' loop. -/
def visitTargetedOrder (parseUuid : String → Option Uuid)
    (fetch : Uuid → Except String (Option SmallOrder)) (db : Db) (idStr : String) : Db :=
  match parseUuid idStr with
  | none => db
  | some orderId =>
    match fetch orderId with
    | .ok (some relayOrder) => reconcileOneOrderIfTerminal db relayOrder
    | .ok none => db
    | .error _ => db

/-- `run_targeted_relay_order_db_reconcile_tick`. -/
def runTargetedRelayOrderDbReconcileTick (parseUuid : String → Option Uuid)
    (input : OrderTickInput) (db : Db) (cursor : Nat) : TargetedTick Db String :=
  targetedTick (visitTargetedOrder parseUuid input.fetch) input.ids db cursor

/-! ## Disputes -/

/-- What a tick over the disputes is given and answered. -/
structure DisputeTickInput where
  /-- `AdminDispute::list_in_progress_dispute_ids` -/
  ids : List String
  alreadySeen : List Uuid
  /-- `fetch_dispute_by_id_from_relay` -/
  fetch : Uuid → Except String (Option Disputes.Dispute)

/-- The ids that parse and that the latest snapshot did not hold. -/
def DisputeTickInput.targets (parseUuid : String → Option Uuid) (input : DisputeTickInput) :
    List (Uuid × String) :=
  input.ids.filterMap fun id => do
    let uuid ← parseUuid id
    if uuid ∈ input.alreadySeen then none else some (uuid, id)

/-- The rows, and the terminal disputes a tick returns. -/
structure DisputeTickState where
  rows : Table Uuid Disputes.AdminDispute
  resolved : List Disputes.Dispute := []

/-- The body of the disputes' loop. -/
def visitTargetedDispute (fetch : Uuid → Except String (Option Disputes.Dispute))
    (s : DisputeTickState) (target : Uuid × String) : DisputeTickState :=
  match fetch target.1 with
  | .ok (some relayDispute) =>
    { rows := Disputes.reconcileOneAdminDisputeIfTerminal s.rows relayDispute
      resolved :=
        if Disputes.isTerminalStatus relayDispute.status then s.resolved ++ [relayDispute]
        else s.resolved }
  | .ok none => s
  | .error _ => s

/-- `run_targeted_relay_dispute_db_reconcile_tick`; what the last tick returned is gone. -/
def runTargetedRelayDisputeDbReconcileTick (parseUuid : String → Option Uuid)
    (input : DisputeTickInput) (s : DisputeTickState) (cursor : Nat) :
    TargetedTick DisputeTickState (Uuid × String) :=
  targetedTick (visitTargetedDispute input.fetch) (input.targets parseUuid) { rows := s.rows } cursor

/-! ## One tick -/

section tick
variable (visit : σ → α → σ) (ids : List α) (s : σ) (cursor : Nat)

/-- The loop goes over the positions of a round robin. -/
theorem targetedTick_visited :
    (targetedTick visit ids s cursor).visited =
      RoundRobin.pick ids
        (RoundRobin.tick targetedRelayReconcileMaxPerTick ids.length cursor) := by
  cases ids with
  | nil => rfl
  | cons id ids =>
    rw [RoundRobin.tick, if_neg (by simp), RoundRobin.pick, RoundRobin.window, List.filterMap_map]
    rfl

theorem targetedTick_cursor :
    (targetedTick visit ids s cursor).cursor =
      RoundRobin.advance targetedRelayReconcileMaxPerTick ids.length cursor := by
  cases ids with
  | nil => rfl
  | cons id ids =>
    rw [RoundRobin.advance, if_neg (by simp)]
    rfl

end tick

/-- What a tick over `ids` is to do: it visits as many of them as fit in a batch, none of them
twice, and leaves the cursor in the list, or where it was when there is none. -/
structure FairTick (ids : List α) (cursor : Nat) (t : TargetedTick σ α) : Prop where
  length_visited : t.visited.length = min ids.length targetedRelayReconcileMaxPerTick
  subset : t.visited ⊆ ids
  nodup : ids.Nodup → t.visited.Nodup
  cursor_lt : ids ≠ [] → t.cursor < ids.length
  cursor_eq : ids = [] → t.cursor = cursor

theorem targetedTick_fair (visit : σ → α → σ) (ids : List α) (s : σ) (cursor : Nat) :
    FairTick ids cursor (targetedTick visit ids s cursor) where
  length_visited := by
    rw [targetedTick_visited, RoundRobin.length_pick ids fun _ => RoundRobin.lt_of_mem_tick,
      RoundRobin.length_tick, Nat.min_comm]
  subset := by
    intro id hid
    rw [targetedTick_visited] at hid
    obtain ⟨p, _, hp⟩ := RoundRobin.mem_pick.1 hid
    exact List.mem_of_getElem? hp
  nodup hids := by
    rw [targetedTick_visited]
    exact RoundRobin.nodup_pick hids RoundRobin.nodup_tick
  cursor_lt hids := by
    rw [targetedTick_cursor]
    exact RoundRobin.advance_lt (List.length_pos_of_ne_nil hids)
  cursor_eq hids := by
    subst hids
    rfl

/-! ## Consecutive ticks -/

/-- Consecutive ticks over the same ids go over the positions of that many ticks of the round
robin, whatever they are answered. -/
theorem visited_targetedTicks {tick : ι → σ → Nat → TargetedTick σ α} (pending : ι → List α)
    (visit : ι → σ → α → σ) (start : σ → σ)
    (htick : ∀ input s cursor,
      tick input s cursor = targetedTick (visit input) (pending input) (start s) cursor)
    {ids : List α} {inputs : List ι} (hids : ∀ input ∈ inputs, pending input = ids)
    (s : σ) (cursor : Nat) :
    (targetedTicks tick inputs s cursor).flatMap (·.visited) =
      RoundRobin.pick ids
        (RoundRobin.ticks targetedRelayReconcileMaxPerTick ids.length cursor inputs.length) := by
  induction inputs generalizing s cursor with
  | nil => rfl
  | cons input inputs ih =>
    obtain ⟨hinput, hinputs⟩ := List.forall_mem_cons.1 hids
    rw [targetedTicks, List.flatMap_cons, ih hinputs, htick, hinput, targetedTick_visited,
      targetedTick_cursor, List.length_cons, RoundRobin.ticks]
    exact List.filterMap_append.symm

/-- As many ticks as there are batches in the ids visit every id. -/
theorem subset_visited_targetedTicks {tick : ι → σ → Nat → TargetedTick σ α}
    (pending : ι → List α) (visit : ι → σ → α → σ) (start : σ → σ)
    (htick : ∀ input s cursor,
      tick input s cursor = targetedTick (visit input) (pending input) (start s) cursor)
    {ids : List α} {inputs : List ι} (hids : ∀ input ∈ inputs, pending input = ids)
    (hlength : inputs.length =
      (ids.length + targetedRelayReconcileMaxPerTick - 1) / targetedRelayReconcileMaxPerTick)
    (s : σ) (cursor : Nat) :
    ids ⊆ (targetedTicks tick inputs s cursor).flatMap (·.visited) := by
  intro id hid
  obtain ⟨p, hp, hpid⟩ := List.getElem_of_mem hid
  rw [visited_targetedTicks pending visit start htick hids]
  refine RoundRobin.mem_pick.2 ⟨p, RoundRobin.mem_ticks ?_ hp, ?_⟩
  · rw [hlength]
    exact RoundRobin.le_ceil_mul (by decide) ids.length
  · rw [List.getElem?_eq_getElem hp, hpid]

end Mostrix
