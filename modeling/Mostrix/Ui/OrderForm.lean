import Mostrix.Book.OrderEvents
import Mostrix.Keys.User
import Mostrix.Library.Case
import Mostrix.Ui.State

/-!
# From the order form to the order

`ui/order_form.rs` reads the texts of the form twice, for the glyph of each field (`field_status`)
and for the line under the preview (`validate`); `send_new_order` reads them once more and builds
the order. The first two agree (`validate_ready_iff`, `fields_valid_iff`). The third puts a default
where a text is blank or no number, takes the upper case of Unicode where the preview takes the
ASCII one, and adds the days to the clock with operators that panic. `form_exact_iff` says for
which forms the order is still the one that was previewed.
-/

namespace Mostrix.Ui

open Book (parseI64)

/-! ## The texts of the form -/

/-- `str::trim`; irreducible, as an unifier that looks into it gets lost in the characters. -/
@[irreducible] def trimmed (s : String) : String := String.ofList (Text.trim s.toList)

/-- `s.trim().parse::<i64>()`. -/
def readI64 (s : String) : Option Int := parseI64 (trimmed s)

/-- `s.trim().parse::<i64>().map(|n| n > 0).unwrap_or(false)`. -/
def isPositive (s : String) : Bool := (readI64 s).any fun n => 0 < n

/-- The amount of an order at market price. -/
def isMarketPrice (form : FormState) : Bool := trimmed form.amount = "" || trimmed form.amount = "0"

/-- The currency as the form shows it. -/
def formCode (form : FormState) : String := toAsciiUppercase (trimmed form.fiatCode)

/-- Whether the instance takes orders in a currency: it restricts none, or lists it. -/
def currencyAccepted (accepted : List String) (code : String) : Bool :=
  accepted.isEmpty || accepted.any fun a => eqIgnoreAsciiCase a code

/-! ## `field_status` and `validate` -/

/-- `FormField`. -/
inductive FormField
  | orderType
  | currency
  | amountSats
  | fiatAmount
  | fiatAmountMax
  | paymentMethod
  | premium
  | invoice
  | expirationDays
deriving DecidableEq, Repr

/-- `field_status`: `none` for what is optional. -/
def fieldStatus (form : FormState) (field : FormField) (accepted : List String) : Option Bool :=
  match field with
  | .orderType => none
  | .currency =>
    if formCode form = "" then some false else some (currencyAccepted accepted (formCode form))
  | .amountSats => if isMarketPrice form then some true else some (isPositive form.amount)
  | .fiatAmount =>
    if trimmed form.fiatAmount = "" then some false else some (isPositive form.fiatAmount)
  | .fiatAmountMax =>
    if form.useRange then
      match readI64 form.fiatAmount, readI64 form.fiatAmountMax with
      | some min, some max => some (min < max)
      | _, _ => some false
    else none
  | .paymentMethod => some (trimmed form.paymentMethod ≠ "")
  | .premium => some (trimmed form.premium = "" || (readI64 form.premium).isSome)
  | .invoice => if trimmed form.invoice = "" then none else some true
  | .expirationDays =>
    if trimmed form.expirationDays = "" then some false
    else some ((readI64 form.expirationDays).any fun n => 1 ≤ n)

/-- `PreviewStatus`. -/
inductive PreviewStatus
  | ready
  | missing (what : String)
  | invalid (why : String)
deriving DecidableEq, Repr

/-- What `validate` says about the maximum of a range. -/
def rangeError (form : FormState) : Option PreviewStatus :=
  if form.useRange then
    match readI64 form.fiatAmountMax with
    | some max =>
      if max ≤ (readI64 form.fiatAmount).getD 0 then some (.invalid "max must exceed min") else none
    | none => some (.missing "fiat max")
  else none

/-- What `validate` says about the expiration. -/
def expirationStatus (form : FormState) : PreviewStatus :=
  match readI64 form.expirationDays with
  | some n => if 1 ≤ n then .ready else .invalid "expiration (min 1 day)"
  | none =>
    if trimmed form.expirationDays = "" then .missing "expiration" else .invalid "expiration"

/-- What `validate` says about the texts below the amounts. -/
def termsStatus (form : FormState) : PreviewStatus :=
  if trimmed form.paymentMethod = "" then .missing "payment method"
  else if trimmed form.premium ≠ "" ∧ readI64 form.premium = none then .invalid "premium"
  else expirationStatus form

/-- `validate`. -/
def validate (form : FormState) (accepted : List String) : PreviewStatus :=
  if formCode form = "" then .missing "currency"
  else if currencyAccepted accepted (formCode form) = false then .invalid "currency (not accepted)"
  else if isMarketPrice form = false ∧ isPositive form.amount = false then .invalid "amount"
  else if trimmed form.fiatAmount = "" then .missing "fiat amount"
  else if isPositive form.fiatAmount = false then .invalid "fiat amount"
  else (rangeError form).getD (termsStatus form)

/-- A form that is filled in. -/
structure FormReady (form : FormState) (accepted : List String) : Prop where
  code : formCode form ≠ ""
  accepts : currencyAccepted accepted (formCode form) = true
  amount : isMarketPrice form = true ∨ ∃ n, readI64 form.amount = some n ∧ 0 < n
  fiat : ∃ n, readI64 form.fiatAmount = some n ∧ 0 < n
  range : form.useRange = true → ∃ min max, readI64 form.fiatAmount = some min ∧
    readI64 form.fiatAmountMax = some max ∧ min < max
  method : trimmed form.paymentMethod ≠ ""
  premium : trimmed form.premium = "" ∨ ∃ n, readI64 form.premium = some n
  days : ∃ n, readI64 form.expirationDays = some n ∧ 1 ≤ n

section
variable {form : FormState} {accepted : List String} {s : String}

theorem isPositive_iff : isPositive s = true ↔ ∃ n, readI64 s = some n ∧ 0 < n := by
  simp [isPositive, Option.any_eq_true]

/-- A blank text is no number. -/
theorem readI64_blank (h : trimmed s = "") : readI64 s = none := by
  unfold readI64
  rw [h]
  decide

theorem trimmed_ne_of_readI64 {n : Int} (h : readI64 s = some n) : trimmed s ≠ "" := by
  intro hblank
  rw [readI64_blank hblank] at h
  cases h

theorem rangeError_eq_none_iff (hfiat : ∃ n, readI64 form.fiatAmount = some n ∧ 0 < n) :
    rangeError form = none ↔ (form.useRange = true → ∃ min max,
      readI64 form.fiatAmount = some min ∧ readI64 form.fiatAmountMax = some max ∧ min < max) := by
  obtain ⟨min, hmin, -⟩ := hfiat
  unfold rangeError
  cases form.useRange with
  | false => simp
  | true =>
    cases hmax : readI64 form.fiatAmountMax with
    | none => simp
    | some max => simp [hmin]

theorem rangeError_ne_ready : rangeError form ≠ some .ready := by
  unfold rangeError
  split
  · split
    · split <;> simp
    · simp
  · simp

theorem expirationStatus_ready_iff :
    expirationStatus form = .ready ↔ ∃ n, readI64 form.expirationDays = some n ∧ 1 ≤ n := by
  unfold expirationStatus
  cases hdays : readI64 form.expirationDays with
  | none => by_cases hblank : trimmed form.expirationDays = "" <;> simp [hblank]
  | some n => by_cases hone : 1 ≤ n <;> simp [hone]

theorem termsStatus_ready_iff :
    termsStatus form = .ready ↔ trimmed form.paymentMethod ≠ "" ∧
      (trimmed form.premium = "" ∨ ∃ n, readI64 form.premium = some n) ∧
      ∃ n, readI64 form.expirationDays = some n ∧ 1 ≤ n := by
  rw [← expirationStatus_ready_iff, ← Option.isSome_iff_exists]
  unfold termsStatus
  by_cases hmethod : trimmed form.paymentMethod = ""
  · simp [hmethod]
  · by_cases hpremium : trimmed form.premium = "" <;>
      cases readI64 form.premium <;> simp [hmethod, hpremium]

/-- `validate` accepts the forms that are filled in. -/
theorem validate_ready_iff : validate form accepted = .ready ↔ FormReady form accepted := by
  constructor
  · intro h
    unfold validate at h
    split_ifs at h with hcode haccepts hamount hblank hfiat
    have hfiat : ∃ n, readI64 form.fiatAmount = some n ∧ 0 < n :=
      isPositive_iff.1 (eq_true_of_ne_false hfiat)
    cases hrange : rangeError form with
    | some status =>
      rw [hrange] at h
      exact absurd (hrange.trans (congrArg some h)) rangeError_ne_ready
    | none =>
      rw [hrange] at h
      obtain ⟨hmethod, hpremium, hdays⟩ := termsStatus_ready_iff.1 h
      have hamount : isMarketPrice form = true ∨ ∃ n, readI64 form.amount = some n ∧ 0 < n := by
        rw [← isPositive_iff]
        grind
      exact ⟨hcode, eq_true_of_ne_false haccepts, hamount, hfiat,
        (rangeError_eq_none_iff hfiat).1 hrange, hmethod, hpremium, hdays⟩
  · intro h
    have hamount : ¬ (isMarketPrice form = false ∧ isPositive form.amount = false) := by
      rintro ⟨hmarket, hpos⟩
      rcases h.amount with hmarket' | hpos'
      · exact Bool.false_ne_true (hmarket.symm.trans hmarket')
      · exact Bool.false_ne_true (hpos.symm.trans (isPositive_iff.2 hpos'))
    obtain ⟨n, hn, -⟩ := id h.fiat
    unfold validate
    rw [if_neg h.code, if_neg (ne_false_of_eq_true h.accepts), if_neg hamount,
      if_neg (trimmed_ne_of_readI64 hn), if_neg (ne_false_of_eq_true (isPositive_iff.2 h.fiat)),
      (rangeError_eq_none_iff h.fiat).2 h.range]
    exact termsStatus_ready_iff.2 ⟨h.method, h.premium, h.days⟩

/-! ### One lemma for each field that can have a cross -/

theorem currency_valid_iff :
    fieldStatus form .currency accepted ≠ some false ↔
      formCode form ≠ "" ∧ currencyAccepted accepted (formCode form) = true := by
  show (if formCode form = "" then some false
    else some (currencyAccepted accepted (formCode form))) ≠ some false ↔ _
  by_cases hcode : formCode form = "" <;> simp [hcode]

theorem amountSats_valid_iff :
    fieldStatus form .amountSats accepted ≠ some false ↔
      isMarketPrice form = true ∨ ∃ n, readI64 form.amount = some n ∧ 0 < n := by
  rw [← isPositive_iff]
  show (if isMarketPrice form then some true else some (isPositive form.amount)) ≠ some false ↔ _
  cases hmarket : isMarketPrice form <;> simp

theorem fiatAmount_valid_iff :
    fieldStatus form .fiatAmount accepted ≠ some false ↔
      ∃ n, readI64 form.fiatAmount = some n ∧ 0 < n := by
  rw [← isPositive_iff]
  show (if trimmed form.fiatAmount = "" then some false
    else some (isPositive form.fiatAmount)) ≠ some false ↔ _
  by_cases hblank : trimmed form.fiatAmount = ""
  · simp [hblank, isPositive, readI64_blank hblank]
  · simp [hblank]

theorem fiatAmountMax_valid_iff :
    fieldStatus form .fiatAmountMax accepted ≠ some false ↔
      (form.useRange = true → ∃ min max, readI64 form.fiatAmount = some min ∧
        readI64 form.fiatAmountMax = some max ∧ min < max) := by
  cases hrange : form.useRange with
  | false => simp [fieldStatus, hrange]
  | true =>
    cases hmin : readI64 form.fiatAmount <;> cases hmax : readI64 form.fiatAmountMax <;>
      simp [fieldStatus, hrange, hmin, hmax]

theorem premium_valid_iff :
    fieldStatus form .premium accepted ≠ some false ↔
      trimmed form.premium = "" ∨ ∃ n, readI64 form.premium = some n := by
  show some (decide (trimmed form.premium = "") || (readI64 form.premium).isSome) ≠ some false ↔ _
  by_cases hblank : trimmed form.premium = ""
  · simp [hblank]
  · cases hpremium : readI64 form.premium <;> simp [hblank]

theorem paymentMethod_valid_iff :
    fieldStatus form .paymentMethod accepted ≠ some false ↔ trimmed form.paymentMethod ≠ "" := by
  show some (decide (trimmed form.paymentMethod ≠ "")) ≠ some false ↔ _
  simp

theorem expirationDays_valid_iff :
    fieldStatus form .expirationDays accepted ≠ some false ↔
      ∃ n, readI64 form.expirationDays = some n ∧ 1 ≤ n := by
  show (if trimmed form.expirationDays = "" then some false
    else some ((readI64 form.expirationDays).any fun n => 1 ≤ n)) ≠ some false ↔ _
  by_cases hblank : trimmed form.expirationDays = ""
  · simp [hblank, readI64_blank hblank]
  · cases hdays : readI64 form.expirationDays <;> simp [hblank]

/-- The two fields that are optional never have a cross. -/
theorem optional_valid :
    fieldStatus form .orderType accepted ≠ some false ∧
      fieldStatus form .invoice accepted ≠ some false := by
  show (none : Option Bool) ≠ some false ∧
    (if trimmed form.invoice = "" then none else some true) ≠ some false
  by_cases hblank : trimmed form.invoice = "" <;> simp [hblank]

/-- No field has a cross exactly when the form is filled in. -/
theorem fields_valid_iff :
    (∀ field, fieldStatus form field accepted ≠ some false) ↔ FormReady form accepted := by
  constructor
  · intro h
    obtain ⟨hcode, haccepts⟩ := currency_valid_iff.1 (h .currency)
    exact
      { code := hcode
        accepts := haccepts
        amount := amountSats_valid_iff.1 (h .amountSats)
        fiat := fiatAmount_valid_iff.1 (h .fiatAmount)
        range := fiatAmountMax_valid_iff.1 (h .fiatAmountMax)
        method := paymentMethod_valid_iff.1 (h .paymentMethod)
        premium := premium_valid_iff.1 (h .premium)
        days := expirationDays_valid_iff.1 (h .expirationDays) }
  · intro h field
    cases field with
    | orderType => exact optional_valid.1
    | currency => exact currency_valid_iff.2 ⟨h.code, h.accepts⟩
    | amountSats => exact amountSats_valid_iff.2 h.amount
    | fiatAmount => exact fiatAmount_valid_iff.2 h.fiat
    | fiatAmountMax => exact fiatAmountMax_valid_iff.2 h.range
    | paymentMethod => exact paymentMethod_valid_iff.2 h.method
    | premium => exact premium_valid_iff.2 h.premium
    | invoice => exact optional_valid.2
    | expirationDays => exact expirationDays_valid_iff.2 h.days

end

/-! ## The preview -/

/-- The fiat line of the preview. -/
inductive FiatLine
  | fixed (amount : Option Int)
  | range (min max : Option Int)
deriving DecidableEq, Repr

/-- The values that `build_preview_lines` shows; `none` stands for a question mark or for a text
that is no value. -/
structure OrderPreview where
  side : Kind
  code : String
  /-- 0 is shown as the market price. -/
  sats : Option Int
  fiat : FiatLine
  premium : Option Int
  method : String
  days : Option Int
deriving DecidableEq, Repr

/-- `build_preview_lines`. -/
def buildPreview (form : FormState) : OrderPreview where
  side := if eqIgnoreAsciiCase form.kind "buy" then .buy else .sell
  code := formCode form
  sats := if isMarketPrice form then some 0 else readI64 form.amount
  fiat :=
    if form.useRange then .range (readI64 form.fiatAmount) (readI64 form.fiatAmountMax)
    else .fixed (readI64 form.fiatAmount)
  premium := readI64 form.premium
  method := trimmed form.paymentMethod
  days := (readI64 form.expirationDays).filter fun n => 1 ≤ n

/-- An order has the values of a preview, and expires the previewed days after `now`. -/
structure OrderPreview.Shows (preview : OrderPreview) (now : Int) (order : SmallOrder) : Prop where
  side : order.kind = some preview.side
  code : order.fiatCode = preview.code
  sats : some order.amount = preview.sats
  fiat : preview.fiat =
    match order.minAmount, order.maxAmount with
    | some min, some max => .range (some min) (some max)
    | _, _ => .fixed (some order.fiatAmount)
  premium : some order.premium = preview.premium
  method : order.paymentMethod = preview.method
  days : ∃ days, preview.days = some days ∧ order.expiresAt = some (now + days * 86400)

/-! ## `send_new_order` -/

/-- A second that `DateTime<Utc>` can hold. -/
def InDateTimeRange (ts : Int) : Prop := -8334601228800 ≤ ts ∧ ts ≤ 8210266876799

instance (ts : Int) : Decidable (InDateTimeRange ts) :=
  inferInstanceAs (Decidable (_ ∧ _))

/-- What the submission takes from elsewhere: letter case, `OrderKind::from_str` and the clock. -/
structure SubmitEnv where
  cases : CaseTable
  parseKind : String → Option Kind
  parseKind_buy : parseKind "buy" = some .buy
  parseKind_sell : parseKind "sell" = some .sell
  now : Int
  now_inRange : InDateTimeRange now

/-- What it is answered: the currencies of the fiat market, the reserved trade index with its keys,
and the request id it draws. -/
structure SubmitAnswers where
  currencies : Except String (List String)
  reserved : Except String (Int × Keys)
  requestId : Nat

/-- How `send_new_order` comes to the message it sends. -/
inductive SendOutcome
  | panics
  | fails (error : String)
  | sends (message : MessageKind) (tradeKeys : Keys)
deriving DecidableEq, Repr

/-- `Utc::now() + chrono::Duration::days(days)`, in seconds; each of the two panics out of its
range. -/
def expiresAt (now days : Int) : Option Int :=
  if -9223372036854775 ≤ days * 86400 ∧ days * 86400 ≤ 9223372036854775 then
    if InDateTimeRange (now + days * 86400) then some (now + days * 86400) else none
  else none

section
variable (env : SubmitEnv)

/-- `kind_str`. -/
def kindStr (form : FormState) : String :=
  if trimmed form.kind = "" then "buy" else env.cases.toLowercase (trimmed form.kind)

/-- `fiat_code`. -/
def sentCode (form : FormState) : String :=
  if trimmed form.fiatCode = "" then "USD" else env.cases.toUppercase (trimmed form.fiatCode)

/-- `amount`. -/
def sentAmount (form : FormState) : Int := (readI64 form.amount).getD 0

/-- The fiat amount, the minimum and the maximum. -/
def sentFiat (form : FormState) : Int × Option Int × Option Int :=
  if form.useRange ∧ trimmed form.fiatAmountMax ≠ "" then
    (0, some ((readI64 form.fiatAmount).getD 0), some ((readI64 form.fiatAmountMax).getD 0))
  else ((readI64 form.fiatAmount).getD 0, none, none)

/-- The `SmallOrder` that is sent. -/
def sentOrder (form : FormState) (kindChecked : Kind) (expires : Int) : SmallOrder where
  kind := some kindChecked
  status := some .pending
  amount := sentAmount form
  fiatCode := sentCode env form
  minAmount := (sentFiat form).2.1
  maxAmount := (sentFiat form).2.2
  fiatAmount := (sentFiat form).1
  paymentMethod := trimmed form.paymentMethod
  premium := (readI64 form.premium).getD 0
  buyerInvoice := if trimmed form.invoice = "" then none else some (trimmed form.invoice)
  createdAt := some 0
  expiresAt := some expires

/-- The check of the fiat market, for an order at market price. -/
def checkMarket (answers : SubmitAnswers) (form : FormState) : Except String Unit :=
  if sentAmount form = 0 then do
    let currencies ← answers.currencies
    if sentCode env form ∈ currencies then .ok ()
    else
      .error (s!"{sentCode env form} is not present in the fiat market, please specify " ++
        "an amount with -a flag to fix the rate")
  else .ok ()

/-- The message of a new order. -/
def newOrderMessage (requestId : Nat) (nextIdx : Int) (order : SmallOrder) : MessageKind where
  requestId := some requestId
  tradeIndex := some nextIdx
  action := .newOrder
  payload := some (.order order)

/-- `send_new_order`, up to the message it sends. -/
def sendNewOrder (answers : SubmitAnswers) (form : FormState) : SendOutcome :=
  match checkMarket env answers form with
  | .error e => .fails e
  | .ok () =>
    match env.parseKind (kindStr env form) with
    | none => .fails "Invalid order kind"
    | some kindChecked =>
      let expirationDays := (readI64 form.expirationDays).getD 0
      if expirationDays = 0 then .fails "Minimum expiration time is 1 day"
      else
        match expiresAt env.now expirationDays with
        | none => .panics
        | some expires =>
          match answers.reserved with
          | .error e => .fails e
          | .ok (nextIdx, tradeKeys) =>
            let order := sentOrder env form kindChecked expires
            .sends (newOrderMessage answers.requestId nextIdx order) tradeKeys

/-! ## When the order is the previewed one -/

/-- The answers that let an order through: the market lists the currency of an order at market
price, and a trade index is reserved. -/
structure SubmitAnswers.Good (answers : SubmitAnswers) (form : FormState) : Prop where
  market : checkMarket env answers form = .ok ()
  reserved : ∃ index keys, answers.reserved = .ok (index, keys)

/-- A form is submitted as it is previewed: nothing panics, whatever the answers are, and with good
answers an order with the previewed values is sent. -/
structure SubmitsPreview (form : FormState) : Prop where
  noPanic : ∀ answers, sendNewOrder env answers form ≠ .panics
  sends : ∀ answers : SubmitAnswers, answers.Good env form →
    ∃ nextIdx tradeKeys order, answers.reserved = .ok (nextIdx, tradeKeys) ∧
      sendNewOrder env answers form =
        .sends (newOrderMessage answers.requestId nextIdx order) tradeKeys ∧
      (buildPreview form).Shows env.now order

/-- What a form that is filled in needs besides: its kind is read as the side it shows, its currency
has the same upper case for Unicode as for ASCII, its premium is typed, and its days end in a year
that the calendar has. -/
structure Submittable (form : FormState) : Prop where
  side : env.parseKind (kindStr env form) = some (buildPreview form).side
  code : env.cases.toUppercase (trimmed form.fiatCode) = formCode form
  premium : trimmed form.premium ≠ ""
  days : ∀ n, readI64 form.expirationDays = some n → env.now + n * 86400 ≤ 8210266876799

end

section
variable {env : SubmitEnv} {answers : SubmitAnswers} {form : FormState} {accepted : List String}

/-- From one day on only the end of the calendar matters. -/
theorem expiresAt_of_pos (env : SubmitEnv) {days : Int} (h : 1 ≤ days) :
    expiresAt env.now days =
      if env.now + days * 86400 ≤ 8210266876799 then some (env.now + days * 86400) else none := by
  obtain ⟨hlow, hhigh⟩ := env.now_inRange
  unfold expiresAt
  by_cases hend : env.now + days * 86400 ≤ 8210266876799
  · have hduration : -9223372036854775 ≤ days * 86400 ∧ days * 86400 ≤ 9223372036854775 := by
      omega
    have hrange : InDateTimeRange (env.now + days * 86400) := ⟨by omega, hend⟩
    rw [if_pos hend, if_pos hduration, if_pos hrange]
  · have hrange : ¬ InDateTimeRange (env.now + days * 86400) := fun h => hend h.2
    rw [if_neg hend, if_neg hrange, ite_self]

theorem trimmed_fiatCode_ne (h : formCode form ≠ "") : trimmed form.fiatCode ≠ "" := by
  intro hblank
  refine h ?_
  unfold formCode
  rw [hblank]
  rfl

/-- The sats of a form that is filled in. -/
theorem previewed_sats (h : FormReady form accepted) :
    some (sentAmount form) = (buildPreview form).sats := by
  unfold sentAmount
  cases hmarket : isMarketPrice form with
  | true =>
    have hzero : (readI64 form.amount).getD 0 = 0 := by
      unfold isMarketPrice at hmarket
      rcases (Bool.or_eq_true ..).mp hmarket with hblank | hzero
      · rw [readI64_blank (of_decide_eq_true hblank)]
        rfl
      · unfold readI64
        rw [of_decide_eq_true hzero]
        decide
    simp [buildPreview, hmarket, hzero]
  | false =>
    rcases h.amount with hmarket' | ⟨n, hn, -⟩
    · exact absurd (hmarket.symm.trans hmarket') Bool.false_ne_true
    · simp [buildPreview, hmarket, hn]

/-- The fiat amounts of a form that is filled in. -/
theorem previewed_fiat (h : FormReady form accepted) :
    (buildPreview form).fiat =
      match (sentFiat form).2.1, (sentFiat form).2.2 with
      | some min, some max => .range (some min) (some max)
      | _, _ => .fixed (some (sentFiat form).1) := by
  cases hrange : form.useRange with
  | true =>
    obtain ⟨min, max, hmin, hmax, -⟩ := h.range hrange
    simp [buildPreview, sentFiat, hrange, hmin, hmax, trimmed_ne_of_readI64 hmax]
  | false =>
    obtain ⟨n, hn, -⟩ := h.fiat
    simp [buildPreview, sentFiat, hrange, hn]

/-- The order of a form that is filled in has the previewed values, those apart that the form only
has when it is submittable. -/
theorem shows_iff (h : FormReady form accepted) {days : Int}
    (hdays : readI64 form.expirationDays = some days) (hone : 1 ≤ days) (kind : Kind) :
    (buildPreview form).Shows env.now (sentOrder env form kind (env.now + days * 86400)) ↔
      kind = (buildPreview form).side ∧
        env.cases.toUppercase (trimmed form.fiatCode) = formCode form ∧
          trimmed form.premium ≠ "" := by
  have hcode : sentCode env form = env.cases.toUppercase (trimmed form.fiatCode) :=
    if_neg (trimmed_fiatCode_ne h.code)
  constructor
  · intro hshows
    refine ⟨Option.some.inj hshows.side, hcode.symm.trans hshows.code, fun hblank => ?_⟩
    have hpremium : some _ = readI64 form.premium := hshows.premium
    rw [readI64_blank hblank] at hpremium
    cases hpremium
  · rintro ⟨rfl, hupper, hpremium⟩
    have hsent : sentCode env form = (buildPreview form).code := hcode.trans hupper
    obtain ⟨p, hp⟩ := h.premium.resolve_left hpremium
    exact
      { side := rfl
        code := hsent
        sats := by simpa only [sentOrder] using previewed_sats h
        fiat := by simpa only [sentOrder] using previewed_fiat h
        premium := by simp [sentOrder, buildPreview, hp]
        method := rfl
        days := ⟨days, by simp [buildPreview, hdays, hone], rfl⟩ }

/-- The submission of a form that is filled in, once the market has been checked. -/
theorem sendNewOrder_of_market (hmarket : checkMarket env answers form = .ok ()) {days : Int}
    (hdays : readI64 form.expirationDays = some days) (hone : 1 ≤ days) :
    sendNewOrder env answers form =
      match env.parseKind (kindStr env form) with
      | none => .fails "Invalid order kind"
      | some kindChecked =>
        if env.now + days * 86400 ≤ 8210266876799 then
          match answers.reserved with
          | .error e => .fails e
          | .ok (nextIdx, tradeKeys) =>
            let order := sentOrder env form kindChecked (env.now + days * 86400)
            .sends (newOrderMessage answers.requestId nextIdx order) tradeKeys
        else .panics := by
  have hzero : days ≠ 0 := by omega
  unfold sendNewOrder
  rw [hmarket, hdays]
  simp only [Option.getD_some, if_neg hzero, expiresAt_of_pos env hone]
  cases env.parseKind (kindStr env form) with
  | none => rfl
  | some kindChecked =>
    by_cases hend : env.now + days * 86400 ≤ 8210266876799
    · simp only [if_pos hend]
    · simp only [if_neg hend]

/-- A market that lists the currency, and a reserved index. -/
def goodAnswers (env : SubmitEnv) (form : FormState) : SubmitAnswers where
  currencies := .ok [sentCode env form]
  reserved := .ok (1, ⟨"", ""⟩)
  requestId := 0

theorem goodAnswers_good : (goodAnswers env form).Good env form where
  market := by
    unfold checkMarket goodAnswers
    split
    · show (if _ then _ else _) = _
      rw [if_pos (List.mem_singleton_self _)]
    · rfl
  reserved := ⟨1, ⟨"", ""⟩, rfl⟩

/-- A form that is filled in and submitted as it is previewed is submittable. -/
theorem submittable_of_submits (h : FormReady form accepted) (hsubmits : SubmitsPreview env form) :
    Submittable env form := by
  obtain ⟨days, hdays, hone⟩ := id h.days
  obtain ⟨nextIdx, tradeKeys, order, hreserved, hsends, hshows⟩ :=
    hsubmits.sends (goodAnswers env form) goodAnswers_good
  rw [sendNewOrder_of_market goodAnswers_good.market hdays hone, hreserved] at hsends
  split at hsends
  · cases hsends
  next kindChecked hkind =>
    split at hsends
    next hend =>
      obtain rfl : sentOrder env form kindChecked (env.now + days * 86400) = order := by
        injection hsends with hmessage
        injection congrArg MessageKind.payload hmessage with hpayload
        exact Payload.order.inj hpayload
      obtain ⟨hside, hcode, hpremium⟩ := (shows_iff h hdays hone kindChecked).1 hshows
      refine ⟨hkind.trans (congrArg some hside), hcode, hpremium, fun n hn => ?_⟩
      obtain rfl := Option.some.inj (hdays.symm.trans hn)
      exact hend
    · cases hsends

/-- A submittable form that is filled in is submitted as it is previewed. -/
theorem submits_of_submittable (h : FormReady form accepted) (hsub : Submittable env form) :
    SubmitsPreview env form := by
  obtain ⟨days, hdays, hone⟩ := id h.days
  refine ⟨fun answers => ?_, fun answers hgood => ?_⟩
  · cases hmarket : checkMarket env answers form with
    | error e =>
      unfold sendNewOrder
      rw [hmarket]
      exact SendOutcome.noConfusion
    | ok =>
      rw [sendNewOrder_of_market hmarket hdays hone, hsub.side]
      simp only [if_pos (hsub.days days hdays)]
      split <;> exact SendOutcome.noConfusion
  · obtain ⟨index, keys, hreserved⟩ := hgood.reserved
    refine ⟨index, keys, _, hreserved, ?_,
      (shows_iff h hdays hone _).2 ⟨rfl, hsub.code, hsub.premium⟩⟩
    rw [sendNewOrder_of_market hgood.market hdays hone, hsub.side, hreserved]
    simp only [if_pos (hsub.days days hdays)]

/-- A kind in ASCII is sent in ASCII lower case. -/
theorem kindStr_of_isAscii (env : SubmitEnv) (hblank : trimmed form.kind ≠ "")
    (hascii : IsAscii (trimmed form.kind)) :
    kindStr env form = String.ofList ((trimmed form.kind).toList.map Char.toLower) := by
  unfold kindStr
  rw [if_neg hblank, env.cases.toLowercase_of_isAscii hascii]

/-- A kind in lower case is sent as it is. -/
theorem kindStr_of_lower (env : SubmitEnv) {kind : String} (htrimmed : trimmed form.kind = kind)
    (hblank : kind ≠ "") (hascii : IsAscii kind)
    (hlower : String.ofList (kind.toList.map Char.toLower) = kind) : kindStr env form = kind := by
  rw [kindStr_of_isAscii env (by rwa [htrimmed]) (by rwa [htrimmed]), htrimmed, hlower]

theorem trimmed_buy : trimmed "buy" = "buy" := by
  unfold trimmed
  decide

theorem trimmed_sell : trimmed "sell" = "sell" := by
  unfold trimmed
  decide

/-- The kinds that the form's toggle writes are read as the side they show. -/
theorem side_of_toggled (h : form.kind = "buy" ∨ form.kind = "sell") :
    env.parseKind (kindStr env form) = some (buildPreview form).side := by
  rcases h with hkind | hkind
  · have htrimmed : trimmed form.kind = "buy" := by rw [hkind, trimmed_buy]
    have hside : (buildPreview form).side = .buy := by
      simp only [buildPreview, hkind]
      decide
    rw [kindStr_of_lower env htrimmed (by decide) (by decide) (by decide), hside, env.parseKind_buy]
  · have htrimmed : trimmed form.kind = "sell" := by rw [hkind, trimmed_sell]
    have hside : (buildPreview form).side = .sell := by
      simp only [buildPreview, hkind]
      decide
    rw [kindStr_of_lower env htrimmed (by decide) (by decide) (by decide), hside,
      env.parseKind_sell]

/-- A form with a toggled kind, a currency in ASCII, a premium and an end before the calendar's is
submittable. -/
theorem submittable_of_toggled (hkind : form.kind = "buy" ∨ form.kind = "sell")
    (hcode : IsAscii (trimmed form.fiatCode)) (hpremium : trimmed form.premium ≠ "")
    (hdays : ∀ n, readI64 form.expirationDays = some n →
      env.now + n * 86400 ≤ 8210266876799) : Submittable env form where
  side := side_of_toggled hkind
  code := env.cases.toUppercase_of_isAscii hcode
  premium := hpremium
  days := hdays

end

/-- **From the form to the order.** `validate` and the glyphs of the fields always agree; a form
that is ready is submitted as it is previewed exactly when it is submittable. -/
theorem form_exact_iff (env : SubmitEnv) (accepted : List String) (form : FormState) :
    ((validate form accepted = .ready ↔ ∀ field, fieldStatus form field accepted ≠ some false) ∧
        (validate form accepted = .ready → SubmitsPreview env form)) ↔
      (validate form accepted = .ready → Submittable env form) := by
  rw [fields_valid_iff, validate_ready_iff]
  constructor
  · rintro ⟨-, hsubmits⟩ hready
    exact submittable_of_submits hready (hsubmits hready)
  · intro hsub
    exact ⟨Iff.rfl, fun hready => submits_of_submittable hready (hsub hready)⟩

/-- A clock in 2026, and the letters of ASCII. -/
def plainEnv : SubmitEnv where
  cases := .ascii
  parseKind := fun s => if s = "buy" then some .buy else if s = "sell" then some .sell else none
  parseKind_buy := rfl
  parseKind_sell := rfl
  now := 1767225600
  now_inRange := by decide

/-- The default form, filled in for an order that is open for a hundred million days. -/
def farForm : FormState :=
  { FormState.newDefaultForm with
    fiatAmount := "100"
    paymentMethod := "SEPA"
    expirationDays := "100000000" }

/-- It is ready, and its submission panics. -/
theorem far_expiration_panics :
    ¬ ∀ (env : SubmitEnv) (accepted : List String) (form : FormState),
      (validate form accepted = .ready ↔
          ∀ field, fieldStatus form field accepted ≠ some false) ∧
        (validate form accepted = .ready → SubmitsPreview env form) := by
  intro h
  have hready : validate farForm [] = .ready := by decide +kernel
  have hpanics : sendNewOrder plainEnv (goodAnswers plainEnv farForm) farForm = .panics := by
    decide +kernel
  exact ((h plainEnv [] farForm).2 hready).noPanic _ hpanics

end Mostrix.Ui
