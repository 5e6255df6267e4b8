import Mostrix.Book.OrderEvents
import Mostrix.Library.Binary64
import Mostrix.Library.Except
import Mostrix.Ui.State

/-!
# The amount of a taken range order

Every change of the amount field runs `validate_range_amount`, which reads the text as a double and
compares it with the bounds as doubles; Enter then runs `execute_take_order_action`, which reads the
trimmed text again, as an `i64`, and passes on `None` where it is not one; `take_order` builds the
payload from what it is given. `takes_typed_iff` says for which texts the three agree: those that
are refused, and the whole numbers within the bounds but 0.

The two readers disagree on a number with a point or an exponent, which is a double and no `i64`.
The rounding of the bounds is harmless up to `2 ^ 53` (`wholeInRange_of_accepts`), and no whole
number within the bounds is refused (`accepts_of_wholeInRange`).
-/

namespace Mostrix.Ui

open Book (parseI64 digitsValue)

/-! ## `validate_range_amount` -/

/-- A bound as the error texts show it. -/
def displayBound (bound : ℚ) : String := F64.displayWhole ⌊bound⌋

/-- The error for a text and the bounds as doubles. -/
def rangeAmountError (order : SmallOrder) (input : String) : Option String :=
  if input.isEmpty then none
  else
    match F64.parse input.toList with
    | some (.finite amount) =>
      let minOpt := order.minAmount.map fun (m : Int) => F64.round m
      let maxOpt := order.maxAmount.map fun (m : Int) => F64.round m
      let belowMin := minOpt.any fun min => amount < min
      let aboveMax := maxOpt.any fun max => max < amount
      if belowMin || aboveMax then
        let fiat := order.fiatCode
        match minOpt, maxOpt with
        | some min, some max =>
          some s!"Amount must be between {displayBound min} and {displayBound max} {fiat}"
        | some min, none => some s!"Amount must be at least {displayBound min} {fiat}"
        | none, some max => some s!"Amount must be at most {displayBound max} {fiat}"
        | none, none => some "Amount is outside allowed range"
      else none
    | _ => some "Invalid number format"

/-- `validate_range_amount`. -/
def validateRangeAmount (take : TakeOrderState) : TakeOrderState :=
  { take with validationError := rangeAmountError take.order take.amountInput }

@[simp] theorem validateRangeAmount_order (take : TakeOrderState) :
    (validateRangeAmount take).order = take.order := rfl

@[simp] theorem validateRangeAmount_amountInput (take : TakeOrderState) :
    (validateRangeAmount take).amountInput = take.amountInput := rfl

@[simp] theorem validateRangeAmount_validationError (take : TakeOrderState) :
    (validateRangeAmount take).validationError =
      rangeAmountError take.order take.amountInput := rfl

/-! ## `execute_take_order_action` and `take_order` -/

/-- What `spawn_take_order_task` is given. -/
structure TakeOrderTask where
  takeState : TakeOrderState
  amount : Option Int
  invoice : Option String
deriving DecidableEq, Repr

/-- `execute_take_order_action`: the screen, and the task it starts. -/
def executeTakeOrderAction (app : AppState) (take : TakeOrderState) :
    AppState × Option TakeOrderTask :=
  if take.isRangeOrder && (take.amountInput.isEmpty || take.validationError.isSome) then
    (app.setMode (.userMode (.takingOrder take)), none)
  else
    let amount :=
      if take.isRangeOrder then parseI64 (String.ofList (Text.trim take.amountInput.toList))
      else none
    (app.setMode (.userMode (.waitingTakeOrder take)), some ⟨take, amount, none⟩)

/-- `create_take_order_payload`. -/
def createTakeOrderPayload (action : Action) (invoice : Option String) (amount : Option Int) :
    Except String (Option Payload) :=
  match action with
  | .takeBuy => .ok (amount.map .amount)
  | .takeSell =>
    match invoice with
    | some inv => .ok (some (.paymentRequest none inv amount))
    | none => .ok (some ((amount.map .amount).getD (.amount 0)))
  | _ => .error "Invalid action for take order"

/-- The action for an order of each kind in `take_order`. -/
def takeAction : Option Kind → Except String Action
  | some .buy => .ok .takeBuy
  | some .sell => .ok .takeSell
  | none => .error "Order kind is not specified"

/-- `take_order` up to the message it sends, with the trade index it reserves and the request id it
draws. -/
def TakeOrderTask.request (task : TakeOrderTask) (reserved : Except String Int)
    (requestId : Nat) : Except String MessageKind := do
  let order := task.takeState.order
  let action ← takeAction order.kind
  let orderId ← order.id.elim (.error "Order ID is missing") .ok
  let nextIdx ← reserved
  let payload ← createTakeOrderPayload action task.invoice task.amount
  .ok
    { id := some orderId, requestId := some requestId, tradeIndex := some nextIdx, action,
      payload }

/-! ## What a take should do, and when it does -/

/-- A task that is started takes the number the user typed: it is a whole number within the
order's bounds and not 0, and the message carries it. -/
def TakesTyped (take : TakeOrderState) : Prop :=
  ∀ app task, (executeTakeOrderAction app take).2 = some task →
    ∃ a : Int, task.amount = some a ∧ F64.decimal take.amountInput.toList = some (a : ℚ) ∧
      a ≠ 0 ∧ (∀ m ∈ take.order.minAmount, m ≤ a) ∧ (∀ m ∈ take.order.maxAmount, a ≤ m) ∧
      ∀ reserved requestId message, task.request reserved requestId = .ok message →
        message.payload = some (.amount a)

/-- The text is the number of a finite double that is within the bounds as doubles. -/
def Accepts (order : SmallOrder) (input : String) : Prop :=
  ∃ amount, F64.parse input.toList = some (.finite amount) ∧
    (∀ m ∈ order.minAmount, F64.round m ≤ amount) ∧
    ∀ m ∈ order.maxAmount, amount ≤ F64.round m

/-- The text is a whole number, with a sign or without, that is within the bounds and not 0. -/
def WholeInRange (order : SmallOrder) (input : String) : Prop :=
  ∃ a, parseI64 input = some a ∧ a ≠ 0 ∧
    (∀ m ∈ order.minAmount, m ≤ a) ∧ ∀ m ∈ order.maxAmount, a ≤ m

/-! ## The two readers -/

theorem digitsValue_eq_whole (ds : List Char) :
    digitsValue ds = (F64.whole ds).map Int.ofNat := by
  have hfold : ds.foldl (fun n d => 10 * n + ((d.toNat - '0'.toNat : Nat) : Int)) (0 : Nat) =
      ((Nat.ofDigitChars 10 ds 0 : Nat) : Int) := by
    rw [Nat.ofDigitChars_eq_foldl]
    exact List.foldl_hom Int.ofNat fun n d => by simp
  unfold digitsValue F64.whole
  by_cases h : ds ≠ [] ∧ ds.all Char.isDigit = true
  · rw [if_pos h, if_pos h]
    exact congrArg some hfold
  · rw [if_neg h, if_neg h]
    rfl

/-- A run of digits is the same number to both readers. -/
theorem number_of_digitsValue {ds : List Char} {n : Int} (h : digitsValue ds = some n) :
    F64.number ds = some (n : ℚ) := by
  rw [digitsValue_eq_whole] at h
  obtain ⟨k, hk, rfl⟩ := Option.map_eq_some_iff.1 h
  exact F64.number_of_whole hk

/-- What is read as an `i64` is the number the text denotes. -/
theorem decimal_of_parseI64 {s : String} {a : Int} (h : parseI64 s = some a) :
    F64.decimal s.toList = some (a : ℚ) := by
  unfold parseI64 at h
  obtain ⟨hvalue, -⟩ := Option.filter_eq_some_iff.1 h
  unfold F64.decimal
  split at hvalue
  · next ds heq =>
    obtain ⟨n, hn, rfl⟩ := Option.map_eq_some_iff.1 hvalue
    rw [heq]
    show (F64.number ds).map (- ·) = _
    rw [number_of_digitsValue hn, Option.map_some, Int.cast_neg]
  · next ds heq =>
    rw [heq]
    exact number_of_digitsValue hvalue
  · next hminus hplus =>
    unfold F64.signed
    split
    · next ds heq => exact absurd heq (hplus ds)
    · next ds heq => exact absurd heq (hminus ds)
    · exact number_of_digitsValue hvalue

theorem parseI64_bounds {s : String} {a : Int} (h : parseI64 s = some a) :
    -2 ^ 63 ≤ a ∧ a < 2 ^ 63 := by
  unfold parseI64 at h
  obtain ⟨-, hbounds⟩ := Option.filter_eq_some_iff.1 h
  simpa using hbounds

/-- The text of a number has nothing to trim. -/
theorem trim_of_accepts {order : SmallOrder} {input : String} (h : Accepts order input) :
    String.ofList (Text.trim input.toList) = input := by
  obtain ⟨amount, hparse, -⟩ := h
  obtain ⟨q, hq⟩ := F64.decimal_of_parse hparse
  rw [(F64.isWord_of_decimal hq).isTrimmed.trim_eq, String.ofList_toList]

/-! ## What the validator accepts -/

/-- The validator leaves no error exactly for the texts it accepts. -/
theorem rangeAmountError_eq_none_iff {order : SmallOrder} {input : String}
    (hne : input.isEmpty = false) :
    rangeAmountError order input = none ↔ Accepts order input := by
  unfold rangeAmountError Accepts
  rw [if_neg (by rw [hne]; exact Bool.false_ne_true)]
  split
  · next amount hparse =>
    simp only [hparse, Option.some.injEq, F64.finite.injEq, exists_eq_left', Option.any_map]
    have houtside : ((order.minAmount.any fun (m : Int) => decide (amount < F64.round m)) ||
        order.maxAmount.any fun (m : Int) => decide (F64.round m < amount)) = true ↔
        ¬ ((∀ m ∈ order.minAmount, F64.round m ≤ amount) ∧
          ∀ m ∈ order.maxAmount, amount ≤ F64.round m) := by
      simp only [Bool.or_eq_true, Option.any_eq_true, decide_eq_true_eq, not_and_or, not_forall,
        not_le, exists_prop, Option.mem_def]
    split
    · next hbad =>
      refine iff_of_false ?_ (houtside.1 hbad)
      split <;> nofun
    · next hgood => exact iff_of_true rfl (not_not.1 fun hout => hgood (houtside.2 hout))
  · next hparse =>
    refine iff_of_false nofun ?_
    rintro ⟨amount, h, -⟩
    exact hparse amount h

/-- No whole number within the bounds is refused. -/
theorem accepts_of_wholeInRange {order : SmallOrder} {input : String}
    (h : WholeInRange order input) : Accepts order input := by
  obtain ⟨a, ha, -, hmin, hmax⟩ := h
  have hbounds := parseI64_bounds ha
  refine ⟨F64.round a, ?_, fun m hm => ?_, fun m hm => ?_⟩
  · rw [F64.parse_of_decimal (decimal_of_parseI64 ha), F64.ofRat_intCast hbounds.1 hbounds.2.le]
  · exact F64.round_mono (by exact_mod_cast hmin m hm)
  · exact F64.round_mono (by exact_mod_cast hmax m hm)

/-- Up to `2 ^ 53` a whole number that is accepted is within the bounds. -/
theorem wholeInRange_of_accepts {order : SmallOrder} {input : String} {a : Int}
    (h : Accepts order input) (ha : parseI64 input = some a) (h0 : a ≠ 0)
    (hsmall : |a| ≤ 2 ^ 53) (hmin : ∀ m ∈ order.minAmount, |m| ≤ 2 ^ 53)
    (hmax : ∀ m ∈ order.maxAmount, |m| ≤ 2 ^ 53) : WholeInRange order input := by
  obtain ⟨amount, hparse, habove, hbelow⟩ := h
  have hamount : amount = a := by
    rw [F64.parse_of_decimal (decimal_of_parseI64 ha)] at hparse
    rw [F64.ofRat_eq_finite (Option.some.inj hparse), F64.round_intCast hsmall]
  subst hamount
  refine ⟨a, ha, h0, fun m hm => ?_, fun m hm => ?_⟩
  · have hle := habove m hm
    rw [F64.round_intCast (hmin m hm)] at hle
    exact_mod_cast hle
  · have hle := hbelow m hm
    rw [F64.round_intCast (hmax m hm)] at hle
    exact_mod_cast hle

/-- A take of a range order starts when the text is not empty and nothing is wrong with it. -/
theorem executeTakeOrderAction_eq_some_iff (app : AppState) (take : TakeOrderState)
    (task : TakeOrderTask)
    (hrange : take.isRangeOrder = true) :
    (executeTakeOrderAction app take).2 = some task ↔
      take.amountInput.isEmpty = false ∧ take.validationError = none ∧
        task = ⟨take, parseI64 (String.ofList (Text.trim take.amountInput.toList)), none⟩ := by
  unfold executeTakeOrderAction
  rw [hrange, Bool.true_and]
  split
  · next hrefused =>
    refine iff_of_false nofun ?_
    rintro ⟨hne, hvalid, -⟩
    rw [hne, hvalid] at hrefused
    cases hrefused
  · next hstarts =>
    rw [Bool.not_eq_true, Bool.or_eq_false_iff, Option.isSome_eq_false_iff,
      Option.isNone_iff_eq_none] at hstarts
    simp only [hstarts, if_true, true_and, Option.some.injEq]
    exact eq_comm

/-- The payload of an amount is that amount, for both actions. -/
theorem createTakeOrderPayload_amount {action : Action} {a : Int} {payload : Option Payload}
    (h : createTakeOrderPayload action none (some a) = .ok payload) :
    payload = some (.amount a) := by
  unfold createTakeOrderPayload at h
  split at h
  · exact (Except.ok.inj h).symm
  · exact (Except.ok.inj h).symm
  · cases h

/-- A message for an amount carries it. -/
theorem TakeOrderTask.request_payload {task : TakeOrderTask} {reserved : Except String Int}
    {requestId : Nat} {message : MessageKind} (h : task.request reserved requestId = .ok message)
    {a : Int} (ha : task.amount = some a) (hinvoice : task.invoice = none) :
    message.payload = some (.amount a) := by
  unfold TakeOrderTask.request at h
  rw [ha, hinvoice] at h
  obtain ⟨action, -, h⟩ := Except.ok_of_bind h
  obtain ⟨id, -, h⟩ := Except.ok_of_bind h
  obtain ⟨index, -, h⟩ := Except.ok_of_bind h
  obtain ⟨payload, hpayload, h⟩ := Except.ok_of_bind h
  cases h
  exact createTakeOrderPayload_amount hpayload

/-! ## The result -/

/-- A range order is taken for the amount that was typed exactly when its text is refused, or is a
whole number within the bounds but 0. -/
theorem takes_typed_iff (take : TakeOrderState) (hrange : take.isRangeOrder = true) :
    TakesTyped (validateRangeAmount take) ↔
      (take.amountInput.isEmpty = false → Accepts take.order take.amountInput →
        WholeInRange take.order take.amountInput) := by
  have hstart := fun app task =>
    executeTakeOrderAction_eq_some_iff app (validateRangeAmount take) task hrange
  simp only [validateRangeAmount_amountInput, validateRangeAmount_validationError] at hstart
  simp only [TakesTyped, validateRangeAmount_order, validateRangeAmount_amountInput]
  refine ⟨fun h hne haccepts => ?_, fun h app task htask => ?_⟩
  · have hvalid := (rangeAmountError_eq_none_iff hne).2 haccepts
    obtain ⟨a, ha, -, h0, hmin, hmax, -⟩ := h {} _ ((hstart {} _).2 ⟨hne, hvalid, rfl⟩)
    rw [trim_of_accepts haccepts] at ha
    exact ⟨a, ha, h0, hmin, hmax⟩
  · obtain ⟨hne, hvalid, heq⟩ := (hstart app task).1 htask
    have haccepts := (rangeAmountError_eq_none_iff hne).1 hvalid
    obtain ⟨a, ha, h0, hmin, hmax⟩ := h hne haccepts
    have hamount : task.amount = some a := by rw [heq, trim_of_accepts haccepts, ha]
    have hinvoice : task.invoice = none := by rw [heq]
    exact ⟨a, hamount, decimal_of_parseI64 ha, h0, hmin, hmax,
      fun reserved requestId message h => TakeOrderTask.request_payload h hamount hinvoice⟩

/-- A sell order for 10 to 200, and the text typed for it. -/
def takeOfSell (input : String) : TakeOrderState where
  order := { id := some 1, kind := some .sell, minAmount := some 10, maxAmount := some 200 }
  amountInput := input
  isRangeOrder := true
  validationError := none

theorem takes_typed_fifty : TakesTyped (validateRangeAmount (takeOfSell "50")) := by
  refine (takes_typed_iff (takeOfSell "50") rfl).2 fun _ _ => ⟨50, ?_, ?_, ?_, ?_⟩
  · decide
  · decide
  · simp [takeOfSell]
  · simp [takeOfSell]

/-- 100.0 is within the bounds, and the message asks for 0. -/
theorem decimal_amount_taken_as_zero :
    ∃ task message,
      (executeTakeOrderAction {} (validateRangeAmount (takeOfSell "100.0"))).2 = some task ∧
      F64.decimal "100.0".toList = some 100 ∧ task.amount = none ∧
      task.request (.ok 1) 7 = .ok message ∧ message.payload = some (.amount 0) ∧
      ¬ TakesTyped (validateRangeAmount (takeOfSell "100.0")) := by
  have haccepts : Accepts (takeOfSell "100.0").order "100.0" := by
    refine ⟨100, by decide +kernel, ?_, ?_⟩
    · rintro _ ⟨⟩
      decide +kernel
    · rintro _ ⟨⟩
      decide +kernel
  have hstart : (executeTakeOrderAction {} (validateRangeAmount (takeOfSell "100.0"))).2 =
      some ⟨validateRangeAmount (takeOfSell "100.0"), none, none⟩ := by
    rw [executeTakeOrderAction_eq_some_iff _ _ _ rfl]
    refine ⟨by decide, (rangeAmountError_eq_none_iff (by decide)).2 haccepts, ?_⟩
    have hamount : parseI64 (String.ofList (Text.trim "100.0".toList)) = none := by decide
    exact congrArg (TakeOrderTask.mk _ · none) hamount.symm
  refine ⟨_, ⟨some 1, some 7, some 1, .takeSell, some (.amount 0)⟩, hstart, by decide +kernel,
    rfl, rfl, rfl, fun h => ?_⟩
  obtain ⟨a, ha, -⟩ := h _ _ hstart
  cases ha

end Mostrix.Ui
