import Mathlib.Data.Finset.Card
import Mostrix.Chat.Listener
import Mostrix.Library.Recent

/-!
# The set of seen outer ids

`OuterIdLru` of `util/chat_security.rs`: a hash set for the lookup and a queue for the eviction of
the oldest id. What it is for is a filter over the last `capacity` accepted ids (`Recent.offer`);
`Remembers` relates the two structures to such a filter's history, and each insert is one step of
it. The listener of `Mostrix.Chat.Listener` keeps the queue alone (`outerInsert_eq`).
-/

namespace Mostrix.Chat

/-- `OuterIdLru`; the queue is oldest first. -/
structure OuterIdLru where
  set : Finset EventId
  order : List EventId
  cap : Nat
deriving DecidableEq

namespace OuterIdLru

/-- `OuterIdLru::new`. -/
def new (cap : Nat) : OuterIdLru where
  set := ∅
  order := []
  cap := max cap 1

/-- The loop of `insert`: evicts the oldest ids while the queue is longer than `cap`. -/
def evict (cap : Nat) : List EventId → Finset EventId → List EventId × Finset EventId
  | [], set => ([], set)
  | evicted :: order, set =>
    if (evicted :: order).length > cap then evict cap order (set.erase evicted)
    else (evicted :: order, set)

/-- `OuterIdLru::insert`: the new sets, and whether the id had not been seen or was evicted. -/
def insert (s : OuterIdLru) (id : EventId) : OuterIdLru × Bool :=
  if id ∈ s.set then (s, false)
  else
    let (order, set) := evict s.cap (s.order ++ [id]) (Insert.insert id s.set)
    ({ s with set, order }, true)

/-- `OuterIdLru::len`. -/
def len (s : OuterIdLru) : Nat := s.set.card

/-- The sets after the ids were inserted one after another. -/
def insertAll (s : OuterIdLru) (ids : List EventId) : OuterIdLru :=
  ids.foldl (fun s id => (s.insert id).1) s

/-- The ids of which `insert` returned `true`, in order. -/
def accepted : OuterIdLru → List EventId → List EventId
  | _, [] => []
  | s, id :: ids =>
    if (s.insert id).2 then id :: accepted (s.insert id).1 ids else accepted (s.insert id).1 ids

/-! ## One insert -/

/-- The set and the queue hold the same ids, and the queue is the window of the accepted ids
`acc`. -/
structure Remembers (s : OuterIdLru) (acc : List EventId) : Prop where
  order_eq : s.order = acc.rtake s.cap
  nodup : s.order.Nodup
  set_eq : s.set = s.order.toFinset

/-- The loop leaves the window of the queue, and keeps the set in step with it. -/
theorem evict_eq (cap : Nat) {order : List EventId} (h : order.Nodup) :
    evict cap order order.toFinset = (order.rtake cap, (order.rtake cap).toFinset) := by
  induction order with
  | nil => simp [evict]
  | cons evicted order ih =>
    obtain ⟨hnew, hnodup⟩ := List.nodup_cons.1 h
    rw [evict]
    by_cases hlen : (evicted :: order).length > cap
    · have herase : (evicted :: order).toFinset.erase evicted = order.toFinset := by
        rw [List.toFinset_cons, Finset.erase_insert (by simpa using hnew)]
      rw [if_pos hlen, herase, ih hnodup, Recent.rtake_cons hlen]
    · rw [if_neg hlen, Recent.rtake_of_length_le (by omega)]

theorem Remembers.mem_set {s : OuterIdLru} {acc : List EventId} (h : s.Remembers acc)
    (id : EventId) : id ∈ s.set ↔ id ∈ acc.rtake s.cap := by
  rw [h.set_eq, List.mem_toFinset, h.order_eq]

@[simp] theorem cap_insert (s : OuterIdLru) (id : EventId) : (s.insert id).1.cap = s.cap := by
  unfold insert
  split <;> rfl

/-- `insert` answers whether the id is none of the last accepted ones. -/
theorem Remembers.insert_snd {s : OuterIdLru} {acc : List EventId} (h : s.Remembers acc)
    (id : EventId) : (s.insert id).2 = true ↔ id ∉ acc.rtake s.cap := by
  rw [← h.mem_set id]
  by_cases hid : id ∈ s.set
  · simp [insert, hid]
  · simp [insert, hid]

/-- The queue that an accepted id leaves. -/
theorem insert_of_not_mem {s : OuterIdLru} {acc : List EventId} (h : s.Remembers acc)
    {id : EventId} (hid : id ∉ s.set) :
    s.insert id =
      ({ s with
          order := (s.order ++ [id]).rtake s.cap
          set := ((s.order ++ [id]).rtake s.cap).toFinset }, true) := by
  have hnew : id ∉ s.order := by
    rwa [h.set_eq, List.mem_toFinset] at hid
  have hnodup : (s.order ++ [id]).Nodup := by
    rw [← List.concat_eq_append]
    exact h.nodup.concat hnew
  have hset : Insert.insert id s.set = (s.order ++ [id]).toFinset := by
    rw [h.set_eq, List.toFinset_append, Finset.union_comm]
    rfl
  rw [insert, if_neg hid, hset, evict_eq s.cap hnodup]

/-- One insert is one offer to the filter. -/
theorem Remembers.insert {s : OuterIdLru} {acc : List EventId} (h : s.Remembers acc)
    (id : EventId) : (s.insert id).1.Remembers (Recent.offer s.cap acc id) := by
  by_cases hid : id ∈ s.set
  · rw [Recent.offer, if_pos ((h.mem_set id).1 hid), OuterIdLru.insert, if_pos hid]
    exact h
  · have hwindow : id ∉ acc.rtake s.cap := mt (h.mem_set id).2 hid
    have horder : (Recent.offer s.cap acc id).rtake s.cap = (s.order ++ [id]).rtake s.cap := by
      rw [Recent.offer, if_neg hwindow, Recent.rtake_concat, h.order_eq]
    have hnodup : ((Recent.offer s.cap acc id).rtake s.cap).Nodup := by
      apply Recent.nodup_rtake_offer
      rw [← h.order_eq]
      exact h.nodup
    rw [insert_of_not_mem h hid]
    exact ⟨horder.symm, horder ▸ hnodup, rfl⟩

/-! ## Runs of inserts -/

theorem remembers_new (cap : Nat) : (new cap).Remembers [] where
  order_eq := List.rtake_nil _ |>.symm
  nodup := List.nodup_nil
  set_eq := rfl

@[simp] theorem cap_insertAll (s : OuterIdLru) (ids : List EventId) :
    (s.insertAll ids).cap = s.cap := by
  induction ids generalizing s with
  | nil => rfl
  | cons id ids ih => exact (ih _).trans (cap_insert s id)

/-- A run of inserts remembers the ids accepted before it and in it. -/
theorem Remembers.insertAll {s : OuterIdLru} {acc : List EventId} (h : s.Remembers acc)
    (ids : List EventId) : (s.insertAll ids).Remembers (acc ++ s.accepted ids) := by
  induction ids generalizing s acc with
  | nil => rwa [accepted, List.append_nil]
  | cons id ids ih =>
    have hnext := ih (h.insert id)
    have hoffer := h.insert_snd id
    by_cases hid : id ∈ acc.rtake s.cap
    · rw [Recent.offer, if_pos hid] at hnext
      rw [accepted, if_neg (by rw [hoffer]; exact not_not_intro hid)]
      exact hnext
    · rw [Recent.offer, if_neg hid, List.append_assoc] at hnext
      rw [accepted, if_pos (hoffer.2 hid)]
      exact hnext

/-- The history of a run is what the filter makes of its ids. -/
theorem Remembers.accepted_eq {s : OuterIdLru} {acc : List EventId} (h : s.Remembers acc)
    (ids : List EventId) : acc ++ s.accepted ids = ids.foldl (Recent.offer s.cap) acc := by
  induction ids generalizing s acc with
  | nil => rw [accepted, List.append_nil, List.foldl_nil]
  | cons id ids ih =>
    have hnext := ih (h.insert id)
    rw [cap_insert] at hnext
    rw [List.foldl_cons, ← hnext, accepted]
    by_cases hid : id ∈ acc.rtake s.cap
    · rw [if_neg (by rw [h.insert_snd id]; exact not_not_intro hid), Recent.offer, if_pos hid]
    · rw [if_pos ((h.insert_snd id).2 hid), Recent.offer, if_neg hid, List.append_assoc]
      rfl

theorem Remembers.len_eq {s : OuterIdLru} {acc : List EventId} (h : s.Remembers acc) :
    s.len = s.order.length := by
  rw [len, h.set_eq, List.toFinset_card_of_nodup h.nodup]

theorem Remembers.length_le {s : OuterIdLru} {acc : List EventId} (h : s.Remembers acc) :
    s.order.length ≤ s.cap := by
  rw [h.order_eq, Recent.length_rtake]
  exact Nat.min_le_left _ _

/-- After any inserts the set and the queue hold the same ids, none of them twice and at most
`max cap 1` of them, and the next insert accepts exactly the ids that are not among the last
`max cap 1` accepted ones. -/
theorem insert_accepts_iff_not_recent (cap : Nat) (ids : List EventId) :
    let s := (new cap).insertAll ids
    let capacity := max cap 1
    (∀ id, id ∈ s.set ↔ id ∈ s.order) ∧ s.order.Nodup ∧ s.len = s.order.length ∧
      s.len ≤ capacity ∧
      ∀ id, (s.insert id).2 = true ↔ id ∉ ((new cap).accepted ids).rtake capacity := by
  intro s capacity
  have h : s.Remembers ((new cap).accepted ids) := (remembers_new cap).insertAll ids
  have hcap : s.cap = capacity := cap_insertAll (new cap) ids
  refine ⟨fun id => ?_, h.nodup, h.len_eq, ?_, fun id => ?_⟩
  · rw [h.set_eq, List.mem_toFinset]
  · rw [h.len_eq, ← hcap]
    exact h.length_le
  · rw [h.insert_snd id, hcap]

example : ((new 2).insertAll [7, 8, 7, 9, 7]).order = [9, 7] ∧
    (new 2).accepted [7, 8, 7, 9, 7] = [7, 8, 9, 7] := by decide

/-! ## The listener's set -/

/-- The listener's set of outer ids is the queue of an `OuterIdLru` of the default capacity. -/
theorem outerInsert_eq {s : OuterIdLru} {acc : List EventId} (h : s.Remembers acc)
    (hcap : s.cap = chatSeenOuterCap) (id : EventId) :
    outerInsert s.order id = if (s.insert id).2 then some (s.insert id).1.order else none := by
  by_cases hid : id ∈ s.set
  · have horder : id ∈ s.order := by
      rwa [h.set_eq, List.mem_toFinset] at hid
    simp [outerInsert, insert, hid, horder]
  · have horder : id ∉ s.order := by
      rwa [h.set_eq, List.mem_toFinset] at hid
    rw [insert_of_not_mem h hid, outerInsert, if_neg horder, if_pos rfl, hcap, List.rtake]

end OuterIdLru

end Mostrix.Chat
