import Mostrix.Book.OrderEvents
import Mostrix.Library.Case

/-!
# The two currency filters

The book is filtered twice by `currencies_filter`: when it is fetched, in `parse_orders_events` and
`pending_orders_for_book` (`passesCurrencies`), and when it is shown, in `get_filtered_book_orders`
(`ui/helpers/order_selection.rs`). The first looks for the order's currency in the list as it is
written, the second in upper case on both sides.

So the first never lets through what the second hides (`passesFilter_of_passesCurrencies`), and an
order is lost exactly where its currency is in the list in another case only
(`currency_filters_agree_iff`).
-/

namespace Mostrix.Book

section
variable (C : CaseTable)

/-- `order_passes_currency_filter`. -/
def orderPassesCurrencyFilter (order : SmallOrder) (currenciesFilter : List String) : Bool :=
  if currenciesFilter.isEmpty then true
  else
    let filterSet := currenciesFilter.map C.toUppercase
    filterSet.contains (C.toUppercase order.fiatCode)

/-- `get_filtered_book_orders`: the rows that are shown, with their places in the book. -/
def getFilteredBookOrders (orders : List SmallOrder) (currenciesFilter : List String) :
    List (Nat × SmallOrder) :=
  (orders.zipIdx.filter fun (o, _) => orderPassesCurrencyFilter C o currenciesFilter).map
    fun (o, i) => (i, o)

variable {C}

theorem orderPassesCurrencyFilter_iff {order : SmallOrder} {filter : List String} :
    orderPassesCurrencyFilter C order filter = true ↔
      filter = [] ∨ ∃ c ∈ filter, C.toUppercase c = C.toUppercase order.fiatCode := by
  unfold orderPassesCurrencyFilter
  cases filter with
  | nil => simp
  | cons c cs =>
    have hne : c :: cs ≠ [] := List.cons_ne_nil c cs
    simp only [List.isEmpty_cons, Bool.false_eq_true, if_false, List.contains_iff_mem,
      List.mem_map, hne, false_or]

theorem passesCurrencies_iff {order : SmallOrder} {filter : List String} :
    passesCurrencies (some filter) order = true ↔ filter = [] ∨ order.fiatCode ∈ filter := by
  simp [passesCurrencies]

/-- A row is shown exactly when its order is in the book and passes the filter. -/
theorem mem_getFilteredBookOrders {orders : List SmallOrder} {filter : List String}
    {order : SmallOrder} :
    order ∈ (getFilteredBookOrders C orders filter).map (·.2) ↔
      order ∈ orders ∧ orderPassesCurrencyFilter C order filter = true := by
  have hmap : (getFilteredBookOrders C orders filter).map (·.2) =
      orders.filter fun o => orderPassesCurrencyFilter C o filter := by
    unfold getFilteredBookOrders
    rw [List.map_map]
    conv_rhs => rw [← List.zipIdx_map_fst 0 orders, List.filter_map]
    rfl
  rw [hmap, List.mem_filter]

/-- What the fetch lets through is shown. -/
theorem passesFilter_of_passesCurrencies {order : SmallOrder} {filter : List String}
    (h : passesCurrencies (some filter) order = true) :
    orderPassesCurrencyFilter C order filter = true := by
  rw [passesCurrencies_iff] at h
  exact orderPassesCurrencyFilter_iff.2 (h.imp_right fun hmem => ⟨_, hmem, rfl⟩)

/-- The book has the pending orders that the fetch lets through. -/
theorem mem_pendingOrdersForBook {latest : LatestOrders} {filter : Option (List String)}
    {order : SmallOrder} :
    order ∈ pendingOrdersForBook latest filter ↔
      order ∈ latest.values ∧ order.status = some .pending ∧
        passesCurrencies filter order = true := by
  unfold pendingOrdersForBook sortNewestFirst
  rw [List.mem_insertionSort, List.mem_filter]
  simp

end

/-! ## Where they agree -/

/-- The currency of an order is in the list as it is written, if it is there in any case. -/
def CaseExact (C : CaseTable) (filter : List String) (order : SmallOrder) : Prop :=
  ∀ c ∈ filter, C.toUppercase c = C.toUppercase order.fiatCode → order.fiatCode ∈ filter

/-- The two filters let through the same of these orders. -/
def FiltersAgree (C : CaseTable) (orders : List SmallOrder) (filter : List String) : Prop :=
  ∀ o ∈ orders,
    passesCurrencies (some filter) o = true ↔ orderPassesCurrencyFilter C o filter = true

/-- Every pending order with a currency of the list is on the screen. -/
def AskedIsShown (C : CaseTable) (latest : LatestOrders) (filter : List String) : Prop :=
  ∀ o ∈ latest.values, o.status = some .pending → orderPassesCurrencyFilter C o filter = true →
    o ∈ (getFilteredBookOrders C (pendingOrdersForBook latest (some filter)) filter).map (·.2)

section
variable {C : CaseTable} {filter : List String}

/-- The fetch lets through what the screen would show exactly when the case is right. -/
theorem passesCurrencies_of_passesFilter_iff {o : SmallOrder} :
    (orderPassesCurrencyFilter C o filter = true → passesCurrencies (some filter) o = true) ↔
      CaseExact C filter o := by
  rw [orderPassesCurrencyFilter_iff, passesCurrencies_iff]
  refine ⟨fun h c hc hcase => ?_, ?_⟩
  · rcases h (.inr ⟨c, hc, hcase⟩) with rfl | hmem
    · cases hc
    · exact hmem
  · rintro h (rfl | ⟨c, hc, hcase⟩)
    · exact .inl rfl
    · exact .inr (h c hc hcase)

theorem filtersAgree_iff {orders : List SmallOrder} :
    FiltersAgree C orders filter ↔ ∀ o ∈ orders, CaseExact C filter o := by
  refine forall₂_congr fun o _ => ?_
  rw [← passesCurrencies_of_passesFilter_iff]
  exact ⟨fun h => h.2, fun h => ⟨passesFilter_of_passesCurrencies, h⟩⟩

theorem askedIsShown_iff {latest : LatestOrders} :
    AskedIsShown C latest filter ↔
      ∀ o ∈ latest.values, o.status = some .pending → CaseExact C filter o := by
  refine forall₃_congr fun o ho hpending => ?_
  rw [← passesCurrencies_of_passesFilter_iff]
  refine forall_congr' fun hpass => ?_
  rw [mem_getFilteredBookOrders, mem_pendingOrdersForBook]
  exact ⟨fun h => h.1.2.2, fun h => ⟨⟨ho, hpending, h⟩, hpass⟩⟩

end

/-- **The filters agree** on a list of orders, and every order that the user asked for reaches the
screen, exactly when no currency of the orders is in the filter in another case only. -/
theorem currency_filters_agree_iff (C : CaseTable) (filter : List String) :
    (∀ orders, FiltersAgree C orders filter ↔ ∀ o ∈ orders, CaseExact C filter o) ∧
      ∀ latest, AskedIsShown C latest filter ↔
        ∀ o ∈ latest.values, o.status = some .pending → CaseExact C filter o :=
  ⟨fun _ => filtersAgree_iff, fun _ => askedIsShown_iff⟩

/-- A filter of `usd` in the settings hides the orders in `USD` from the fetch, and only from it. -/
theorem lower_case_filter_drops_orders :
    let order : SmallOrder := { id := some 1, status := some .pending, fiatCode := "USD" }
    ¬ FiltersAgree .ascii [order] ["usd"] ∧
      ¬ AskedIsShown .ascii ((∅ : LatestOrders).insert 1 order) ["usd"] := by
  intro order
  have hinexact : ¬ CaseExact .ascii ["usd"] order := fun h =>
    absurd (h "usd" List.mem_cons_self (by decide)) (by decide)
  refine ⟨fun h => ?_, fun h => ?_⟩
  · exact hinexact (filtersAgree_iff.1 h order List.mem_cons_self)
  · exact hinexact (askedIsShown_iff.1 h order List.mem_cons_self rfl)

end Mostrix.Book
