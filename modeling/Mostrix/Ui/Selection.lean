import Mostrix.Book.CurrencyFilter
import Mostrix.Disputes.AdminDispute
import Mostrix.Library.Selection

/-!
# Selected rows

`ui/helpers/order_selection.rs` and `ui/helpers/dispute_selection.rs`: the order book, the pending
disputes and the admin's disputes are shown filtered, and each has a selected row, remembered by its
id. Drawing, moving and Enter all look the id up in the filtered list.

Each is a `Selection` among its visible rows (`FollowsVisible`). The admin's filter looks at the
selection itself: it keeps the selected dispute on the screen when its status has left the filter,
so a move changes the list it moves in.
-/

namespace Mostrix.Ui

open Book (getFilteredBookOrders)
open Disputes (AdminDispute Dispute DisputeStatus)

/-- `DisputeFilter`. -/
inductive DisputeFilter
  | inProgress
  | finalized
deriving DecidableEq, Repr

/-- The fields of `AppState` that say what is selected. The id of a dispute is a text, which is
empty (`none`) in a row without one. -/
structure SelectionState where
  currenciesFilter : List String := []
  selectedOrderId : Option Uuid := none
  selectedPendingDisputeId : Option Uuid := none
  adminDisputesInProgress : List AdminDispute := []
  disputeFilter : DisputeFilter := .inProgress
  selectedDisputeId : Option (Option Uuid) := none

/-- The rows that pass a filter, with their places in the whole list. -/
def visibleRows {α : Type _} (visible : α → Bool) (rows : List α) : List (Nat × α) :=
  (rows.zipIdx.filter fun (r, _) => visible r).map fun (r, i) => (i, r)

/-! ## The order book -/

section
variable (C : CaseTable)

/-- `selected_book_display_idx`. -/
def selectedBookDisplayIdx (selectedOrderId : Option Uuid) (filtered : List (Nat × SmallOrder)) :
    Option Nat :=
  Selection.displayIdx (fun r : Nat × SmallOrder => r.2.id) (selectedOrderId.map some) filtered

/-- The order that `render_orders_tab` highlights. -/
def highlightedBookOrder (app : SelectionState) (orders : List SmallOrder) : Option SmallOrder :=
  let filtered := getFilteredBookOrders C orders app.currenciesFilter
  filtered[(selectedBookDisplayIdx app.selectedOrderId filtered).getD 0]?.map (·.2)

/-- `selected_filtered_book_order`, the order that Enter takes or cancels. -/
def selectedFilteredBookOrder (app : SelectionState) (orders : List SmallOrder) :
    Option SmallOrder :=
  let filtered := getFilteredBookOrders C orders app.currenciesFilter
  (selectedBookDisplayIdx app.selectedOrderId filtered).bind fun idx => filtered[idx]?.map (·.2)

/-- `move_book_order_selection`. -/
def moveBookOrderSelection (app : SelectionState) (orders : List SmallOrder) (delta : Int) :
    SelectionState :=
  let filtered := getFilteredBookOrders C orders app.currenciesFilter
  match selectedBookDisplayIdx app.selectedOrderId filtered with
  | none => { app with selectedOrderId := none }
  | some idx =>
    let newIdx := Selection.clampedIdx idx delta filtered.length
    { app with selectedOrderId := filtered[newIdx]?.bind (·.2.id) }

/-- What the main loop does with the selection when the book has changed. -/
def dropMissingOrderSelection (app : SelectionState) (orders : List SmallOrder) : SelectionState :=
  if orders.isEmpty then { app with selectedOrderId := none }
  else
    match app.selectedOrderId with
    | some id =>
      if orders.any (·.id = some id) then app else { app with selectedOrderId := none }
    | none => app

end

/-! ## The pending disputes -/

/-- `get_initiated_disputes`. -/
def getInitiatedDisputes (disputes : List Dispute) : List (Nat × Dispute) :=
  visibleRows (fun d => DisputeStatus.fromStr d.status = some .initiated) disputes

/-- `selected_pending_display_idx`. -/
def selectedPendingDisplayIdx (selectedPendingDisputeId : Option Uuid)
    (initiated : List (Nat × Dispute)) : Option Nat :=
  Selection.displayIdx (fun r : Nat × Dispute => r.2.id) selectedPendingDisputeId initiated

/-- The dispute that `render_disputes_tab` highlights. -/
def highlightedPendingDispute (app : SelectionState) (disputes : List Dispute) : Option Dispute :=
  let initiated := getInitiatedDisputes disputes
  initiated[(selectedPendingDisplayIdx app.selectedPendingDisputeId initiated).getD 0]?.map (·.2)

/-- `selected_pending_dispute`, the dispute that Enter takes. -/
def selectedPendingDispute (app : SelectionState) (disputes : List Dispute) : Option Dispute :=
  let initiated := getInitiatedDisputes disputes
  (selectedPendingDisplayIdx app.selectedPendingDisputeId initiated).bind fun idx =>
    initiated[idx]?.map (·.2)

/-- `move_pending_dispute_selection`. -/
def movePendingDisputeSelection (app : SelectionState) (disputes : List Dispute) (delta : Int) :
    SelectionState :=
  let initiated := getInitiatedDisputes disputes
  match selectedPendingDisplayIdx app.selectedPendingDisputeId initiated with
  | none => { app with selectedPendingDisputeId := none }
  | some idx =>
    let newIdx := Selection.clampedIdx idx delta initiated.length
    { app with selectedPendingDisputeId := initiated[newIdx]?.map (·.2.id) }

/-- `clamp_pending_dispute_selection`. -/
def clampPendingDisputeSelection (app : SelectionState) (disputes : List Dispute) :
    SelectionState :=
  match getInitiatedDisputes disputes with
  | [] => { app with selectedPendingDisputeId := none }
  | first :: initiated =>
    match app.selectedPendingDisputeId with
    | some id =>
      if (first :: initiated).any (·.2.id = id) then app
      else { app with selectedPendingDisputeId := some first.2.id }
    | none => { app with selectedPendingDisputeId := some first.2.id }

/-! ## The admin's disputes -/

/-- The filter of `get_filtered_disputes`. -/
def passesDisputeFilter (app : SelectionState) (d : AdminDispute) : Bool :=
  let status := d.status.bind DisputeStatus.fromStr
  match app.disputeFilter with
  | .inProgress => status = some .inProgress ∨ app.selectedDisputeId = some d.disputeId
  | .finalized =>
    match status with
    | some .settled | some .sellerRefunded | some .released => true
    | _ => false

/-- `get_filtered_disputes`. -/
def getFilteredDisputes (app : SelectionState) : List (Nat × AdminDispute) :=
  visibleRows (passesDisputeFilter app) app.adminDisputesInProgress

/-- `selected_display_idx`. -/
def selectedDisplayIdx (app : SelectionState) (filtered : List (Nat × AdminDispute)) : Option Nat :=
  Selection.displayIdx (fun r : Nat × AdminDispute => r.2.disputeId) app.selectedDisputeId filtered

/-- The dispute that `render_disputes_in_progress` highlights. -/
def highlightedDispute (app : SelectionState) : Option AdminDispute :=
  let filtered := getFilteredDisputes app
  filtered[(selectedDisplayIdx app filtered).getD 0]?.map (·.2)

/-- `selected_filtered_dispute`, the dispute that Enter sends a chat message in. -/
def selectedFilteredDispute (app : SelectionState) : Option AdminDispute :=
  let filtered := getFilteredDisputes app
  (selectedDisplayIdx app filtered).bind fun idx => filtered[idx]?.map (·.2)

/-- `move_dispute_selection`. -/
def moveDisputeSelection (app : SelectionState) (delta : Int) : SelectionState :=
  let filtered := getFilteredDisputes app
  match selectedDisplayIdx app filtered with
  | none => app
  | some idx =>
    let newIdx := Selection.clampedIdx idx delta filtered.length
    { app with selectedDisputeId := filtered[newIdx]?.map (·.2.disputeId) }

/-! ## The visible rows -/

section
variable {α κ : Type _}

theorem map_snd_visibleRows (visible : α → Bool) (rows : List α) :
    (visibleRows visible rows).map (·.2) = rows.filter visible := by
  unfold visibleRows
  rw [List.map_map]
  conv_rhs => rw [← List.zipIdx_map_fst 0 rows, List.filter_map]
  rfl

/-- Rows of distinct keys are of distinct keys when they are filtered. -/
theorem distinct_visibleRows {key : α → κ} {rows : List α} (h : KeyedList.Distinct key rows)
    (visible : α → Bool) :
    KeyedList.Distinct (fun r : Nat × α => key r.2) (visibleRows visible rows) := by
  have hfilter : KeyedList.Distinct key (rows.filter visible) := h.filter visible
  rw [← map_snd_visibleRows, KeyedList.Distinct, List.pairwise_map] at hfilter
  exact hfilter

variable [DecidableEq κ]

/-- The selection among visible rows is as it should be: the row that is acted on is the highlighted
one; it is the row whose key is stored, where that is visible; and a move by `delta` rows leads to
the row at the clamped place. -/
structure FollowsVisible (key : α → κ) (visible : List (Nat × α)) (stored : Option κ)
    (displayed : Option Nat) (highlighted acted : Option α) (moved : Int → Option α) : Prop where
  acted_eq : acted = highlighted
  nothing : displayed = none ↔ visible = []
  kept : ∀ row ∈ visible, stored = some (key row.2) → acted = some row.2
  moved_eq : ∀ delta idx, displayed = some idx →
    ∃ row, visible[Selection.clampedIdx idx delta visible.length]? = some row ∧
      moved delta = some row.2

/-- What drawing and Enter look up is the selected row. -/
theorem acted_eq_row {key : α → κ} {stored : Option κ} {visible : List (Nat × α)} :
    ((Selection.displayIdx (fun r : Nat × α => key r.2) stored visible).bind fun idx =>
        visible[idx]?.map (·.2)) =
      (Selection.row (fun r : Nat × α => key r.2) stored visible).map (·.2) := by
  rw [Selection.row, Option.map_bind]
  rfl

theorem highlighted_eq_row {key : α → κ} {stored : Option κ} {visible : List (Nat × α)} :
    visible[(Selection.displayIdx (fun r : Nat × α => key r.2) stored visible).getD 0]?.map (·.2) =
      (Selection.row (fun r : Nat × α => key r.2) stored visible).map (·.2) := by
  rw [Selection.getElem?_displayIdx]

/-- Where the row a move lands on is selected afterwards, the selection is as it should be. -/
theorem followsVisible {key : α → κ} {visible : List (Nat × α)}
    (hdistinct : KeyedList.Distinct (fun r : Nat × α => key r.2) visible) {stored : Option κ}
    {moved : Int → Option α}
    (hmoved : ∀ delta idx row,
      Selection.displayIdx (fun r : Nat × α => key r.2) stored visible = some idx →
      visible[Selection.clampedIdx idx delta visible.length]? = some row →
      moved delta = some row.2) :
    FollowsVisible key visible stored
      (Selection.displayIdx (fun r : Nat × α => key r.2) stored visible)
      (visible[(Selection.displayIdx (fun r : Nat × α => key r.2) stored visible).getD 0]?.map (·.2))
      ((Selection.displayIdx (fun r : Nat × α => key r.2) stored visible).bind fun idx =>
        visible[idx]?.map (·.2))
      moved where
  acted_eq := acted_eq_row.trans highlighted_eq_row.symm
  nothing := Selection.displayIdx_eq_none_iff
  kept row hrow hstored := by
    have hsel := Selection.row_of_mem hdistinct hrow
    rw [acted_eq_row, hstored, hsel]
    rfl
  moved_eq delta idx hidx := by
    have hpos : 0 < visible.length := Nat.zero_lt_of_lt (Selection.displayIdx_lt hidx)
    have hlt := Selection.clampedIdx_lt idx delta hpos
    have hrow := List.getElem?_eq_getElem hlt
    exact ⟨_, hrow, hmoved delta idx _ hidx hrow⟩

omit [DecidableEq κ] in
theorem mem_of_mem_visibleRows {visible : α → Bool} {rows : List α} {row : Nat × α}
    (h : row ∈ visibleRows visible rows) : row.2 ∈ rows ∧ visible row.2 = true := by
  have hmem : row.2 ∈ (visibleRows visible rows).map (·.2) := List.mem_map_of_mem h
  rwa [map_snd_visibleRows, List.mem_filter] at hmem

/-- A row of the list that is visible is selected by its key. -/
theorem acted_of_mem {key : α → κ} {rows : List α} (h : KeyedList.Distinct key rows)
    (visible : α → Bool) {r : α} (hr : r ∈ rows) (hvisible : visible r = true) :
    (Selection.row (fun r : Nat × α => key r.2) (some (key r)) (visibleRows visible rows)).map
      (·.2) = some r := by
  have hmem : r ∈ (visibleRows visible rows).map (·.2) := by
    rw [map_snd_visibleRows]
    exact List.mem_filter.2 ⟨hr, hvisible⟩
  obtain ⟨row, hrow, rfl⟩ := List.mem_map.1 hmem
  exact congrArg (Option.map (·.2)) (Selection.row_of_mem (distinct_visibleRows h visible) hrow)

end

/-! ## The three lists -/

theorem bookOrders_followVisible (C : CaseTable) (app : SelectionState) {orders : List SmallOrder}
    (hids : ∀ o ∈ orders, o.id.isSome) (hdistinct : KeyedList.Distinct SmallOrder.id orders) :
    FollowsVisible SmallOrder.id (getFilteredBookOrders C orders app.currenciesFilter)
      (app.selectedOrderId.map some)
      (selectedBookDisplayIdx app.selectedOrderId
        (getFilteredBookOrders C orders app.currenciesFilter))
      (highlightedBookOrder C app orders) (selectedFilteredBookOrder C app orders)
      (fun delta => selectedFilteredBookOrder C (moveBookOrderSelection C app orders delta)
        orders) := by
  have hrows : getFilteredBookOrders C orders app.currenciesFilter =
      visibleRows (fun o => Book.orderPassesCurrencyFilter C o app.currenciesFilter) orders := rfl
  refine followsVisible (by rw [hrows]; exact distinct_visibleRows hdistinct _) ?_
  intro delta idx row hidx hrow
  obtain ⟨hmem, hvisible⟩ := mem_of_mem_visibleRows (hrows ▸ List.mem_of_getElem? hrow)
  obtain ⟨id, hid⟩ := Option.isSome_iff_exists.1 (hids row.2 hmem)
  have hmoved : moveBookOrderSelection C app orders delta =
      { app with selectedOrderId := row.2.id } := by
    unfold moveBookOrderSelection selectedBookDisplayIdx
    simp only [hidx, hrow, Option.bind_some]
  rw [hmoved, selectedFilteredBookOrder, selectedBookDisplayIdx, acted_eq_row, hid,
    Option.map_some, ← hid]
  exact acted_of_mem hdistinct (fun o => Book.orderPassesCurrencyFilter C o app.currenciesFilter)
    hmem hvisible

theorem pendingDisputes_followVisible (app : SelectionState) {disputes : List Dispute}
    (hdistinct : KeyedList.Distinct Dispute.id disputes) :
    FollowsVisible Dispute.id (getInitiatedDisputes disputes) app.selectedPendingDisputeId
      (selectedPendingDisplayIdx app.selectedPendingDisputeId (getInitiatedDisputes disputes))
      (highlightedPendingDispute app disputes) (selectedPendingDispute app disputes)
      (fun delta =>
        selectedPendingDispute (movePendingDisputeSelection app disputes delta) disputes) := by
  have hrows : KeyedList.Distinct (fun r : Nat × Dispute => r.2.id)
      (getInitiatedDisputes disputes) := distinct_visibleRows hdistinct _
  refine followsVisible hrows ?_
  intro delta idx row hidx hrow
  obtain ⟨hmem, hvisible⟩ := mem_of_mem_visibleRows (List.mem_of_getElem? hrow)
  have hmoved : movePendingDisputeSelection app disputes delta =
      { app with selectedPendingDisputeId := some row.2.id } := by
    unfold movePendingDisputeSelection selectedPendingDisplayIdx
    simp only [hidx, hrow, Option.map_some]
  rw [hmoved, selectedPendingDispute, selectedPendingDisplayIdx, acted_eq_row]
  exact acted_of_mem hdistinct _ hmem hvisible

/-- A dispute that passes the filter passes it when it is selected. -/
theorem passesDisputeFilter_select {app : SelectionState} {d : AdminDispute}
    (h : passesDisputeFilter app d = true) :
    passesDisputeFilter { app with selectedDisputeId := some d.disputeId } d = true := by
  unfold passesDisputeFilter at *
  cases hfilter : app.disputeFilter with
  | inProgress => simp
  | finalized =>
    rw [hfilter] at h
    exact h

theorem disputes_followVisible (app : SelectionState)
    (hdistinct : KeyedList.Distinct AdminDispute.disputeId app.adminDisputesInProgress) :
    FollowsVisible AdminDispute.disputeId (getFilteredDisputes app) app.selectedDisputeId
      (selectedDisplayIdx app (getFilteredDisputes app))
      (highlightedDispute app) (selectedFilteredDispute app)
      (fun delta => selectedFilteredDispute (moveDisputeSelection app delta)) := by
  have hrows : KeyedList.Distinct (fun r : Nat × AdminDispute => r.2.disputeId)
      (getFilteredDisputes app) := distinct_visibleRows hdistinct _
  refine followsVisible hrows ?_
  intro delta idx row hidx hrow
  obtain ⟨hmem, hvisible⟩ := mem_of_mem_visibleRows (List.mem_of_getElem? hrow)
  have hmoved : moveDisputeSelection app delta =
      { app with selectedDisputeId := some row.2.disputeId } := by
    unfold moveDisputeSelection selectedDisplayIdx
    simp only [hidx, hrow, Option.map_some]
  rw [hmoved, selectedFilteredDispute, selectedDisplayIdx, acted_eq_row]
  exact acted_of_mem hdistinct _ hmem (passesDisputeFilter_select hvisible)

/-- A filter for dollars. -/
def dollarsOnly : SelectionState where
  currenciesFilter := ["USD"]
  selectedOrderId := some 2

/-- An order in euros between two in dollars. -/
def mixedBook : List SmallOrder :=
  [{ id := some 1, fiatCode := "USD" }, { id := some 2, fiatCode := "EUR" },
    { id := some 3, fiatCode := "usd" }]

/-- Dropping the id of an order that has left the book changes no highlight. -/
theorem highlighted_dropMissingOrderSelection (C : CaseTable) (app : SelectionState)
    (orders : List SmallOrder) :
    highlightedBookOrder C (dropMissingOrderSelection app orders) orders =
      highlightedBookOrder C app orders := by
  unfold dropMissingOrderSelection
  cases orders with
  | nil => rfl
  | cons o os =>
    rw [if_neg (by simp)]
    cases hsel : app.selectedOrderId with
    | none => rfl
    | some id =>
      dsimp only
      split
      · rfl
      · next hmissing =>
        have hstale : KeyedList.entry (fun r : Nat × SmallOrder => r.2.id)
            (getFilteredBookOrders C (o :: os) app.currenciesFilter) (some id) = none := by
          refine List.find?_eq_none.2 fun r hr hid => hmissing ?_
          have hrows : getFilteredBookOrders C (o :: os) app.currenciesFilter =
            visibleRows (fun o => Book.orderPassesCurrencyFilter C o app.currenciesFilter)
              (o :: os) := rfl
          have hmem : r.2 ∈ o :: os := (mem_of_mem_visibleRows (hrows ▸ hr)).1
          exact List.any_eq_true.2 ⟨r.2, hmem, by simpa using hid⟩
        unfold highlightedBookOrder selectedBookDisplayIdx
        dsimp only
        rw [highlighted_eq_row, highlighted_eq_row, hsel, Option.map_some, Option.map_none,
          Selection.row_of_stale hstale]

/-- Repairing the selection of the pending disputes changes no highlight. -/
theorem highlighted_clampPendingDisputeSelection (app : SelectionState) (disputes : List Dispute) :
    highlightedPendingDispute (clampPendingDisputeSelection app disputes) disputes =
      highlightedPendingDispute app disputes := by
  have hfirst : ∀ {first : Nat × Dispute} {rest : List (Nat × Dispute)},
      Selection.row (fun r : Nat × Dispute => r.2.id) (some first.2.id) (first :: rest) =
        some first := by
    intro first rest
    rw [Selection.row_eq, Option.bind_some, KeyedList.entry, List.find?_cons_of_pos (by simp)]
    rfl
  unfold highlightedPendingDispute selectedPendingDisplayIdx clampPendingDisputeSelection
  dsimp only
  rw [highlighted_eq_row, highlighted_eq_row]
  cases hrows : getInitiatedDisputes disputes with
  | nil => rfl
  | cons first rest =>
    cases hsel : app.selectedPendingDisputeId with
    | none =>
      dsimp only
      rw [hfirst]
      rfl
    | some id =>
      dsimp only
      split
      · rw [hsel]
      · next hmissing =>
        have hstale : KeyedList.entry (fun r : Nat × Dispute => r.2.id) (first :: rest) id = none :=
          List.find?_eq_none.2 fun r hr hid => hmissing (List.any_eq_true.2 ⟨r, hr, hid⟩)
        rw [hfirst, Selection.row_of_stale hstale]
        rfl

end Mostrix.Ui
