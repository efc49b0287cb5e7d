import Mathlib.Data.List.Sort
import Afcon360.Marketplace.Creation

/-!
# Payment methods offered and accepted

`list_available_methods` filters the configured methods by the terms of a payment;
`create_invoice` looks one method up and checks it against the same terms. The two agree on
everything but the country of the service.
-/

namespace Afcon360.Marketplace

open Foundation Wallet

/-- A row of `payment_method_configs`. Rows are made by `initialize_defaults` only, with
identifiers in lower case and without blanks around them; no update writes that column. -/
structure PaymentMethodConfig where
  methodId : String
  displayName : String
  providerName : String
  countryCode : String
  isEnabled : Bool := true
  isActive : Bool := false
  supportedCurrencies : List String := []
  allowedTimings : List String := []
  marketplaceCollectionImplemented : Bool := false
  minAmount : Option ℚ := some 0
  maxAmount : Option ℚ := some 1000000
  normal : (strip methodId).toLower = methodId := by decide +kernel

namespace PaymentMethodConfig

def supportsCurrency (config : PaymentMethodConfig) (currency : Currency) : Bool :=
  currency.toUpper ∈ config.supportedCurrencies.map String.toUpper

/-- What `_method_config` reads of the row. -/
def toMethodConfig (config : PaymentMethodConfig) : MethodConfig where
  marketplaceCollectionImplemented := config.marketplaceCollectionImplemented
  supportsCurrency := config.supportsCurrency
  allowedTimings := config.allowedTimings
  countryCode := some config.countryCode
  minAmount := config.minAmount
  maxAmount := config.maxAmount

end PaymentMethodConfig

/-- The table with its unique identifiers. -/
structure MethodTable where
  rows : List PaymentMethodConfig := []
  unique : (rows.map PaymentMethodConfig.methodId).Nodup := by simp

/-- An entry of the list. -/
structure OfferedMethod where
  code : String
  label : String
  default : Bool
  category : String
  gateway : Option String
  description : String
  currency : Currency
  settlementTiming : String
  serviceCountryCode : Option String
  payerCountryCode : Option String
  deriving DecidableEq

/-- `_wallet_account_available`; nobody has no account. -/
def Market.accountAvailable (market : Market) (payer : Option UserId) (currency : Currency) :
    Bool :=
  payer.any (fun payer => market.walletAccountAvailable payer currency)

/-- `_wallet_requires_transaction_pin`; nobody counts as a payer with a PIN. -/
def Market.requiresTransactionPin (market : Market) (payer : Option UserId) : Bool :=
  payer.all market.walletRequiresTransactionPin

namespace PaymentMethodConfig

/-- The checks of the loop other than that of the country. -/
def serves (config : PaymentMethodConfig) (market : Market) (payer : Option UserId)
    (currency : Currency) (amount : Option ℚ) (timing : String) : Bool :=
  config.marketplaceCollectionImplemented ∧ config.supportsCurrency currency ∧
    timing ∈ config.allowedTimings.map (fun item => (strip item).toLower) ∧
    (∀ quote ∈ amount,
      config.minAmount.getD 0 ≤ quote ∧ ∀ maximum ∈ config.maxAmount, quote ≤ maximum) ∧
    ((strip config.methodId).toLower = "wallet" →
      market.accountAvailable payer currency ∧ ¬ market.requiresTransactionPin payer)

/-- The check of the country in the loop: both texts in upper case, as they are. -/
def listsCountry (config : PaymentMethodConfig) (service : Option String) : Bool :=
  ∀ country ∈ service.filter (fun text => text ≠ ""),
    config.countryCode.toUpper = country.toUpper

/-- The entry of a row. -/
def offer (config : PaymentMethodConfig) (currency : Currency) (timing : String)
    (service payerCountry : Option String) : OfferedMethod :=
  let code := (strip config.methodId).toLower
  { code
    label := config.displayName
    default := code = "cash"
    category := if code = "cash" then "offline" else "digital"
    gateway := if config.providerName ≠ "afcon360" then some config.providerName else none
    description :=
      if code = "wallet" then
        "Pay from your " ++ currency ++ " Wallet balance at trip end. " ++
          "No automatic currency conversion is performed."
      else "Pay the driver directly in " ++ currency ++ " after the trip."
    currency
    settlementTiming := timing
    serviceCountryCode := service
    payerCountryCode := payerCountry }

end PaymentMethodConfig

/-- The order of the list: cash first, then by label in lower case. -/
def OfferedMethod.before (a b : OfferedMethod) : Bool :=
  if a.default = b.default then
    ¬ (b.label.toLower.toList.map Char.toNat).lex (a.label.toLower.toList.map Char.toNat)
      (fun m n => decide (m < n))
  else a.default

namespace MethodTable

/-- The enabled and active row of an identifier. -/
def find (table : MethodTable) (methodId : String) : Option PaymentMethodConfig :=
  table.rows.find? (fun row => row.methodId = methodId ∧ row.isEnabled ∧ row.isActive)

/-- What `create_invoice` reads, with the method configuration of the table. -/
def market (table : MethodTable) (market : Market) : Market :=
  { market with
    methodConfig := fun methodId =>
      (table.find methodId).map PaymentMethodConfig.toMethodConfig }

/-- `list_available_methods` before the exceptions are caught; an amount may be left out. -/
def offered (table : MethodTable) (market : Market) (payer : Option UserId) (currency : String)
    (amount : Option (Option ℚ)) (settlementTiming : String)
    (service payerCountry : Option String) : Except InvoiceError (List OfferedMethod) := do
  let currency ← currencyCode currency
  let timing := (strip settlementTiming).toLower
  if timing ∉ supportedSettlementTimings then pure []
  else
    let quote ← match amount with
      | none => pure none
      | some value => some <$> money value
    let configs := table.rows.filter (fun row => row.isEnabled ∧ row.isActive)
    let available := configs.filter (fun row =>
      row.serves market payer currency quote timing && row.listsCountry service)
    pure ((available.map (fun row => row.offer currency timing service payerCountry)).insertionSort
      (fun a b => a.before b = true))

/-- `list_available_methods`. -/
def listAvailableMethods (table : MethodTable) (market : Market) (payer : Option UserId)
    (currency : String) (amount : Option (Option ℚ)) (settlementTiming : String)
    (service payerCountry : Option String) : List OfferedMethod :=
  match table.offered market payer currency amount settlementTiming service payerCountry with
  | .ok methods => methods
  | .error _ => []

end MethodTable

/-! ## The rows a table begins with -/

/-- The rows of `initialize_defaults`. -/
def PaymentMethodConfig.defaults : List PaymentMethodConfig :=
  [{  methodId := "wallet"
      displayName := "AFCON360 Wallet"
      providerName := "afcon360"
      countryCode := "UG"
      isActive := true
      supportedCurrencies := ["UGX", "KES", "NGN", "USD", "EUR", "GBP"]
      allowedTimings := ["pay_now", "deposit", "pay_on_completion"]
      maxAmount := some 10000000
      marketplaceCollectionImplemented := true },
    { methodId := "cash"
      displayName := "Cash"
      providerName := "afcon360"
      countryCode := "UG"
      isActive := true
      supportedCurrencies := ["UGX", "KES", "NGN", "USD", "EUR", "GBP"]
      allowedTimings := ["pay_on_arrival", "pay_on_completion"]
      maxAmount := some 10000000
      marketplaceCollectionImplemented := true },
    { methodId := "mobile_money_mtn_ug"
      displayName := "MTN Mobile Money Uganda"
      providerName := "mtn"
      countryCode := "UG"
      isEnabled := false
      supportedCurrencies := ["UGX"]
      minAmount := some 500
      maxAmount := some 5000000 },
    { methodId := "mobile_money_airtel_ug"
      displayName := "Airtel Money Uganda"
      providerName := "airtel"
      countryCode := "UG"
      isEnabled := false
      supportedCurrencies := ["UGX"]
      minAmount := some 500
      maxAmount := some 5000000 },
    { methodId := "mobile_money_mpesa_ke"
      displayName := "M-PESA Kenya"
      providerName := "safaricom"
      countryCode := "KE"
      isEnabled := false
      supportedCurrencies := ["KES"]
      minAmount := some 10
      maxAmount := some 700000 },
    { methodId := "mobile_money_mtn_ng"
      displayName := "MTN Mobile Money Nigeria"
      providerName := "mtn"
      countryCode := "NG"
      isEnabled := false
      supportedCurrencies := ["NGN"]
      minAmount := some 100
      maxAmount := some 10000000 },
    { methodId := "mobile_money_airtel_ng"
      displayName := "Airtel Money Nigeria"
      providerName := "airtel"
      countryCode := "NG"
      isEnabled := false
      supportedCurrencies := ["NGN"]
      minAmount := some 100
      maxAmount := some 10000000 },
    { methodId := "mock_gateway"
      displayName := "Test Gateway (Sandbox)"
      providerName := "afcon360_mock"
      countryCode := "UG"
      isEnabled := false
      supportedCurrencies := ["UGX", "USD"]
      maxAmount := some 10000000 }]

namespace MethodTable

/-- Add a row unless its identifier is taken. -/
def addMissing (table : MethodTable) (row : PaymentMethodConfig) : MethodTable :=
  if free : row.methodId ∉ table.rows.map PaymentMethodConfig.methodId then
    { rows := table.rows ++ [row]
      unique := by
        rw [List.map_append]
        exact List.Nodup.append table.unique (by simp) (by simpa using free) }
  else table

/-- `initialize_defaults`. -/
def initializeDefaults (table : MethodTable) : MethodTable :=
  PaymentMethodConfig.defaults.foldl addMissing table

variable {table : MethodTable} {row other : PaymentMethodConfig} {methodId : String}

theorem eq_of_methodId (hrow : row ∈ table.rows) (hother : other ∈ table.rows)
    (h : row.methodId = other.methodId) : row = other :=
  List.inj_on_of_nodup_map table.unique hrow hother h

theorem find_eq_some : table.find methodId = some row ↔
    row ∈ table.rows ∧ row.isEnabled ∧ row.isActive ∧ row.methodId = methodId := by
  constructor
  · intro h
    have hrow := List.find?_some h
    simp only [decide_eq_true_eq] at hrow
    exact ⟨List.mem_of_find?_eq_some h, hrow.2.1, hrow.2.2, hrow.1⟩
  · rintro ⟨hrow, henabled, hactive, rfl⟩
    cases h : table.find row.methodId with
    | none =>
      have := List.find?_eq_none.mp h row hrow
      simp [henabled, hactive] at this
    | some found =>
      have hfound := List.find?_some h
      simp only [decide_eq_true_eq] at hfound
      rw [eq_of_methodId (List.mem_of_find?_eq_some h) hrow hfound.1]

end MethodTable

/-! ## The checks that both make -/

variable {table : MethodTable} {market : Market} {request : CreationRequest}
  {row : PaymentMethodConfig} {payer : UserId}

variable {terms : Terms} {text : String}

/-- The row of the method that a request names passes every check but that of the country. -/
structure MethodTable.Suits (table : MethodTable) (market : Market) (request : CreationRequest)
    (row : PaymentMethodConfig) : Prop where
  mem : row ∈ table.rows
  enabled : row.isEnabled = true
  active : row.isActive = true
  named : row.methodId = (strip request.paymentMethod).toLower
  timing : (strip request.settlementTiming).toLower ∈ supportedSettlementTimings
  serves : ∃ currency amount, currencyCode request.currency = .ok currency ∧
    money request.amount = .ok amount ∧
    row.serves market request.payerUserId currency (some amount)
      (strip request.settlementTiming).toLower = true

theorem MethodTable.Suits.unique {other : PaymentMethodConfig} (h : table.Suits market request row)
    (hother : table.Suits market request other) : row = other :=
  MethodTable.eq_of_methodId h.mem hother.mem (h.named.trans hother.named.symm)

/-- The method of a request is in the list for its terms. -/
def CreationRequest.methodListed (request : CreationRequest) (table : MethodTable)
    (market : Market) : Prop :=
  ∃ entry ∈ table.listAvailableMethods market request.payerUserId request.currency
      (some request.amount) request.settlementTiming request.serviceCountryCode
      request.payerCountryCode,
    entry.code = (strip request.paymentMethod).toLower

instance : Decidable (request.methodListed table market) :=
  inferInstanceAs (Decidable (∃ entry ∈ _, _))

/-- `create_invoice` up to the end of its method validation, when no invoice is there yet. -/
def CreationRequest.methodValidation (request : CreationRequest) (table : MethodTable)
    (market : Market) : Except InvoiceError Unit := do
  let (_, terms) ← request.normalize
  checkTerms (table.market market) terms

/-- A call of `create_invoice` passes its method validation. -/
def CreationRequest.methodAccepted (request : CreationRequest) (table : MethodTable)
    (market : Market) : Prop :=
  (request.methodValidation table market).isOk

instance : Decidable (request.methodAccepted table market) :=
  inferInstanceAs (Decidable (_ = true))

theorem methodAccepted_iff_terms : request.methodAccepted table market ↔
    ∃ key terms, request.normalize = .ok (key, terms) ∧
      checkTerms (table.market market) terms = .ok () := by
  unfold CreationRequest.methodAccepted CreationRequest.methodValidation
  cases hnormalize : request.normalize with
  | error e => simp [bind, Except.bind, Except.isOk, Except.toBool]
  | ok result =>
    obtain ⟨key, terms⟩ := result
    cases hcheck : checkTerms (table.market market) terms with
    | error e => simp [bind, Except.bind, hcheck, Except.isOk, Except.toBool]
    | ok u => simp [bind, Except.bind, hcheck, Except.isOk, Except.toBool]

/-- What is in the list: the entries of the rows that pass the loop, if the terms are valid. -/
theorem mem_listAvailableMethods {entry : OfferedMethod} {payer : Option UserId}
    {currency settlementTiming : String} {value : Option ℚ} {service payerCountry : Option String} :
    entry ∈ table.listAvailableMethods market payer currency (some value) settlementTiming service
        payerCountry ↔
      (strip settlementTiming).toLower ∈ supportedSettlementTimings ∧
      ∃ normalized amount, currencyCode currency = .ok normalized ∧ money value = .ok amount ∧
      ∃ row ∈ table.rows, row.isEnabled = true ∧ row.isActive = true ∧
        row.serves market payer normalized (some amount) (strip settlementTiming).toLower = true ∧
        row.listsCountry service = true ∧
        row.offer normalized (strip settlementTiming).toLower service payerCountry = entry := by
  unfold MethodTable.listAvailableMethods MethodTable.offered
  cases hcurrency : currencyCode currency with
  | error e => simp [bind, Except.bind]
  | ok normalized =>
    by_cases htiming : (strip settlementTiming).toLower ∈ supportedSettlementTimings
    · cases hamount : money value with
      | error e => simp [bind, Except.bind, htiming, Functor.map, Except.map, hamount]
      | ok amount =>
        simp [bind, Except.bind, htiming, Functor.map, Except.map, pure, Except.pure, hamount,
          and_assoc]
        refine exists_congr ?_
        intro row
        tauto
    · simp [bind, Except.bind, htiming, pure, Except.pure]

theorem methodListed_iff : request.methodListed table market ↔
    ∃ row, table.Suits market request row ∧ row.listsCountry request.serviceCountryCode = true := by
  simp only [CreationRequest.methodListed, mem_listAvailableMethods]
  constructor
  · rintro ⟨-, ⟨htiming, currency, amount, hcurrency, hamount, row, hmem, henabled,
      hactive, hserves,
      hcountry, rfl⟩, hcode⟩
    refine ⟨row, ⟨hmem, henabled, hactive, ?_, htiming, currency, amount, hcurrency, hamount,
      hserves⟩, hcountry⟩
    exact row.normal.symm.trans hcode
  · rintro ⟨row, hsuits, hcountry⟩
    obtain ⟨currency, amount, hcurrency, hamount, hserves⟩ := hsuits.serves
    refine ⟨_, ⟨hsuits.timing, currency, amount, hcurrency, hamount, row, hsuits.mem,
      hsuits.enabled,
      hsuits.active, hserves, hcountry, rfl⟩, ?_⟩
    exact row.normal.trans hsuits.named

/-! ## The validation -/

/-- The check of the country in `_method_config`, which strips the service's and takes a row without
a country for every market. -/
def PaymentMethodConfig.acceptsCountry (row : PaymentMethodConfig) (service : Option String) :
    Prop :=
  ∀ country ∈ (Marketplace.countryCode service).filter (fun text => text ≠ ""),
    row.countryCode ≠ "" → row.countryCode.toUpper = country

theorem countryCode_countryCode (code : Option String) :
    countryCode (countryCode code) = (countryCode code).filter (fun text => text ≠ "") := by
  unfold countryCode
  cases code with
  | none => rfl
  | some text =>
    by_cases hempty : text = ""
    · simp [hempty, Option.filter_some]
    · by_cases hblank : (strip text).toUpper = ""
      · simp [hempty, hblank, Option.filter_some]
      · simp [hempty, hblank, Option.filter_some, strip_toUpper, strip_strip, toUpper_toUpper]

/-- The terms of a request whose payer, currency and amount are read. -/
def CreationRequest.termsFor (request : CreationRequest) (payer : UserId) (currency : Currency)
    (amount : ℚ) : Terms where
  serviceCode := (strip request.serviceCode).toLower
  serviceReference := strip request.serviceReference
  payerUserId := payer
  amount := amount
  currency := currency
  paymentMethod := (strip request.paymentMethod).toLower
  settlementTiming := (strip request.settlementTiming).toLower
  serviceCountryCode := countryCode request.serviceCountryCode
  payerCountryCode := countryCode request.payerCountryCode

theorem termsFor_paymentMethod {currency : Currency} {amount : ℚ} :
    (strip (request.termsFor payer currency amount).paymentMethod).toLower =
      (request.termsFor payer currency amount).paymentMethod := by
  simp only [CreationRequest.termsFor]
  rw [strip_toLower, strip_strip, toLower_toLower]

/-- The terms a call is checked against. -/
theorem normalize_terms {key : String} (h : request.normalize = .ok (key, terms)) :
    ∃ payer currency amount, request.payerUserId = some payer ∧
      currencyCode request.currency = .ok currency ∧ money request.amount = .ok amount ∧
      (strip request.settlementTiming).toLower ∈ supportedSettlementTimings ∧
      terms = request.termsFor payer currency amount := by
  obtain ⟨currency, hcurrency, h⟩ := bind_eq_ok.mp h
  obtain ⟨amount, hamount, h⟩ := bind_eq_ok.mp h
  obtain ⟨-, h⟩ := check_bind_eq_ok.mp h
  obtain ⟨-, h⟩ := check_bind_eq_ok.mp h
  split at h
  · cases h
  · rename_i payer hpayer
    obtain ⟨htiming, h⟩ := check_bind_eq_ok.mp h
    obtain ⟨-, rfl⟩ := Prod.mk.inj (pure_eq_ok.mp h)
    exact ⟨payer, currency, amount, hpayer, hcurrency, hamount, require_eq_ok.mp htiming, rfl⟩

/-- The arguments that have nothing to do with the method are ones the call takes. -/
structure CreationRequest.Identified (request : CreationRequest) : Prop where
  key : strip request.idempotencyKey ≠ "" ∧ (strip request.idempotencyKey).length ≤ 255
  service : (strip request.serviceCode).toLower ≠ "" ∧
    (strip request.serviceCode).toLower.length ≤ 50 ∧ strip request.serviceReference ≠ "" ∧
    (strip request.serviceReference).length ≤ 255
  payer : request.payerUserId ≠ none

/-- `_method_config` finds the row and lets it pass. -/
theorem checkMethod_ok :
    checkMethod (table.market market) terms = .ok () ↔
      ∃ row, table.find (strip terms.paymentMethod).toLower = some row ∧
        row.marketplaceCollectionImplemented = true ∧ row.supportsCurrency terms.currency = true ∧
        terms.settlementTiming ∈ row.allowedTimings.map (fun item => (strip item).toLower) ∧
        (∀ country ∈ countryCode terms.serviceCountryCode,
          row.countryCode ≠ "" → row.countryCode.toUpper = country) ∧
        row.minAmount.getD 0 ≤ terms.amount ∧ ∀ maximum ∈ row.maxAmount,
          terms.amount ≤ maximum := by
  unfold checkMethod
  cases hfind : table.find (strip terms.paymentMethod).toLower with
  | none => simp [MethodTable.market, hfind]
  | some row =>
    simp only [MethodTable.market, hfind, Option.map_some, check_bind_eq_ok, require_eq_ok,
      Option.some.injEq, exists_eq_left', PaymentMethodConfig.toMethodConfig]
    simp [Option.filter_some]

/-- The wallet's own checks, made when the method is the wallet. -/
theorem checkTerms_wallet_ok :
    checkTerms market terms = .ok () ↔ checkMethod market terms = .ok () ∧
      (terms.paymentMethod = "wallet" →
        market.walletAccountAvailable terms.payerUserId terms.currency = true ∧
        ¬ market.walletRequiresTransactionPin terms.payerUserId = true) := by
  rw [checkTerms, check_bind_eq_ok]
  by_cases hwallet : terms.paymentMethod = "wallet"
  · simp [hwallet, check_bind_eq_ok]
  · simp [hwallet]

theorem checkTerms_ok (hmethod : (strip terms.paymentMethod).toLower = terms.paymentMethod) :
    checkTerms (table.market market) terms = .ok () ↔
      ∃ row ∈ table.rows, row.isEnabled = true ∧ row.isActive = true ∧
        row.methodId = terms.paymentMethod ∧
        row.serves market (some terms.payerUserId) terms.currency (some terms.amount)
          terms.settlementTiming = true ∧
        ∀ country ∈ countryCode terms.serviceCountryCode,
          row.countryCode ≠ "" → row.countryCode.toUpper = country := by
  rw [checkTerms_wallet_ok, checkMethod_ok, hmethod]
  simp only [MethodTable.find_eq_some]
  constructor
  · rintro ⟨⟨row, ⟨hmem, henabled, hactive, hnamed⟩, himplemented, hcurrency, htiming, hcountry,
      hlimits⟩, hwallet⟩
    refine ⟨row, hmem, henabled, hactive, hnamed, ?_, hcountry⟩
    simp only [PaymentMethodConfig.serves, decide_eq_true_eq]
    refine ⟨himplemented, hcurrency, htiming, ?_, ?_⟩
    · intro quote hquote
      obtain rfl := Option.mem_some_iff.mp hquote
      exact hlimits
    · intro hcode
      rw [row.normal, hnamed] at hcode
      exact hwallet hcode
  · rintro ⟨row, hmem, henabled, hactive, hnamed, hserves, hcountry⟩
    simp only [PaymentMethodConfig.serves, decide_eq_true_eq] at hserves
    obtain ⟨himplemented, hcurrency, htiming, hlimits, hwallet⟩ := hserves
    refine ⟨⟨row, ⟨hmem, henabled, hactive, hnamed⟩, himplemented, hcurrency, htiming, hcountry,
      hlimits _ rfl⟩, ?_⟩
    intro hcode
    rw [row.normal, hnamed] at hwallet
    exact hwallet hcode

/-- A call with valid arguments goes on with these terms. -/
theorem normalize_ok (hidentified : request.Identified) {currency : Currency} {amount : ℚ}
    (hpayer : request.payerUserId = some payer)
    (hcurrency : currencyCode request.currency = .ok currency)
    (hamount : money request.amount = .ok amount)
    (htiming : (strip request.settlementTiming).toLower ∈ supportedSettlementTimings) :
    request.normalize =
      .ok (strip request.idempotencyKey, request.termsFor payer currency amount) := by
  unfold CreationRequest.normalize
  rw [hpayer]
  refine bind_eq_ok.mpr ⟨currency, hcurrency, bind_eq_ok.mpr ⟨amount, hamount, ?_⟩⟩
  refine check_bind_eq_ok.mpr ⟨require_eq_ok.mpr hidentified.key, ?_⟩
  refine check_bind_eq_ok.mpr ⟨require_eq_ok.mpr hidentified.service, ?_⟩
  exact check_bind_eq_ok.mpr ⟨require_eq_ok.mpr htiming, rfl⟩

theorem methodAccepted_iff (hidentified : request.Identified) :
    request.methodAccepted table market ↔
      ∃ row, table.Suits market request row ∧ row.acceptsCountry request.serviceCountryCode := by
  rw [methodAccepted_iff_terms]
  constructor
  · rintro ⟨key, terms, hnormalize, hcheck⟩
    obtain ⟨payer, currency, amount, hpayer, hcurrency, hamount, htiming, rfl⟩ :=
      normalize_terms hnormalize
    obtain ⟨row, hmem, henabled, hactive, hnamed, hserves, haccepts⟩ :=
      (checkTerms_ok termsFor_paymentMethod).mp hcheck
    refine ⟨row, ⟨hmem, henabled, hactive, hnamed, htiming, currency, amount, hcurrency,
      hamount, ?_⟩,
      ?_⟩
    · rw [hpayer]
      exact hserves
    · rw [CreationRequest.termsFor, countryCode_countryCode] at haccepts
      exact haccepts
  · rintro ⟨row, hsuits, haccepts⟩
    obtain ⟨currency, amount, hcurrency, hamount, hserves⟩ := hsuits.serves
    obtain ⟨payer, hpayer⟩ := Option.ne_none_iff_exists'.mp hidentified.payer
    refine ⟨_, _, normalize_ok hidentified hpayer hcurrency hamount hsuits.timing,
      (checkTerms_ok termsFor_paymentMethod).mpr ⟨row, hsuits.mem, hsuits.enabled, hsuits.active,
        hsuits.named, ?_, ?_⟩⟩
    · rw [hpayer] at hserves
      exact hserves
    · rw [CreationRequest.termsFor, countryCode_countryCode]
      exact haccepts

/-! ## Where the two checks of the country agree -/

/-- No country is given; or it has no blanks around it and the row has a country; or it has, and
the row has a country that is not this one either way; or it is blank and the row's as well. -/
def CountriesAgree (configured : String) (service : Option String) : Prop :=
  ∀ text ∈ service.filter (fun text => text ≠ ""),
    if strip text = "" then configured.toUpper = text.toUpper
    else configured ≠ "" ∧ (strip text = text ∨
      configured.toUpper ≠ text.toUpper ∧ configured.toUpper ≠ (strip text).toUpper)

theorem strip_eq_of_toUpper (h : text.toUpper = (strip text).toUpper) :
    strip text = text := by
  have hlength : (strip text).toList.length = text.toList.length := by
    simpa [String.toUpper] using congrArg (fun upper => upper.toList.length) h.symm
  have hsublist : List.Sublist (strip text).toList text.toList := by
    have hfront := (List.dropWhile_suffix Char.isWhitespace (l := text.toList)).sublist
    have hback := (List.rdropWhile_prefix Char.isWhitespace
      (text.toList.dropWhile Char.isWhitespace)).sublist
    simpa [strip, List.rdropWhile] using hback.trans hfront
  exact String.toList_injective (hsublist.eq_of_length hlength)

theorem toUpper_eq_empty : text.toUpper = "" ↔ text = "" := by
  rw [← String.toList_eq_nil_iff, ← String.toList_eq_nil_iff]
  simp [String.toUpper]

theorem listsCountry_some (h : text ≠ "") :
    row.listsCountry (some text) = true ↔ row.countryCode.toUpper = text.toUpper := by
  simp [PaymentMethodConfig.listsCountry, Option.filter_some, h]

theorem acceptsCountry_some (h : text ≠ "") :
    row.acceptsCountry (some text) ↔
      (strip text ≠ "" → row.countryCode ≠ "" →
        row.countryCode.toUpper = (strip text).toUpper) := by
  by_cases hblank : strip text = ""
  · simp [PaymentMethodConfig.acceptsCountry, countryCode, Option.filter_some, h, hblank,
      toUpper_eq_empty]
  · simp [PaymentMethodConfig.acceptsCountry, countryCode, Option.filter_some, h, hblank,
      toUpper_eq_empty]

/-- The loop and the validation agree on the country of a row exactly when `CountriesAgree`. -/
theorem countriesAgree_iff {service : Option String} :
    CountriesAgree row.countryCode service ↔
      (row.listsCountry service = true ↔ row.acceptsCountry service) := by
  obtain _ | text := service
  · simp [CountriesAgree, PaymentMethodConfig.listsCountry, PaymentMethodConfig.acceptsCountry,
      countryCode]
  by_cases hempty : text = ""
  · simp [CountriesAgree, PaymentMethodConfig.listsCountry, PaymentMethodConfig.acceptsCountry,
      countryCode, hempty, Option.filter_some]
  rw [listsCountry_some hempty, acceptsCountry_some hempty]
  have hagree : CountriesAgree row.countryCode (some text) ↔
      if strip text = "" then row.countryCode.toUpper = text.toUpper
      else row.countryCode ≠ "" ∧ (strip text = text ∨
        row.countryCode.toUpper ≠ text.toUpper ∧
          row.countryCode.toUpper ≠ (strip text).toUpper) := by
    simp [CountriesAgree, Option.filter_some, hempty]
  rw [hagree]
  by_cases hblank : strip text = ""
  · simp [hblank]
  rw [if_neg hblank]
  by_cases hconfigured : row.countryCode = ""
  · have hupper : "".toUpper ≠ text.toUpper := by
      rw [toUpper_eq_empty.mpr rfl]
      exact fun h => hempty (toUpper_eq_empty.mp h.symm)
    simp [hconfigured, hupper]
  by_cases hstrip : strip text = text
  · simp [hconfigured, hstrip, hempty]
  · -- one of the two may hold, but not both: the stripped text is shorter
    have hdiffer : text.toUpper ≠ (strip text).toUpper := fun h => hstrip (strip_eq_of_toUpper h)
    constructor
    · rintro ⟨-, hfalse | ⟨hlisted, haccepted⟩⟩
      · exact absurd hfalse hstrip
      · exact ⟨fun h => absurd h hlisted, fun h => absurd (h hblank hconfigured) haccepted⟩
    · intro hiff
      refine ⟨hconfigured, .inr ⟨?_, ?_⟩⟩
      · intro hlisted
        exact hdiffer (hlisted.symm.trans (hiff.mp hlisted hblank hconfigured))
      · intro haccepted
        exact hdiffer ((hiff.mpr fun _ _ => haccepted).symm.trans haccepted)

/-! ## Offered and accepted -/

/-- Where the countries agree, what is offered is what is accepted. -/
theorem listed_iff_accepted_of_agree (hidentified : request.Identified)
    (hagree : ∀ row, table.Suits market request row →
      CountriesAgree row.countryCode request.serviceCountryCode) :
    request.methodListed table market ↔ request.methodAccepted table market := by
  rw [methodListed_iff, methodAccepted_iff hidentified]
  refine exists_congr ?_
  intro row
  refine and_congr_right ?_
  intro hsuits
  exact countriesAgree_iff.mp (hagree row hsuits)

/-- A method is offered exactly when it is accepted, or else its row passes everything that both
check and the checks of the country differ. -/
theorem methodListed_iff_methodAccepted (table : MethodTable) (market : Market)
    (request : CreationRequest) (hidentified : request.Identified) :
    (request.methodListed table market ↔ request.methodAccepted table market) ↔
      ∀ row, table.Suits market request row →
        CountriesAgree row.countryCode request.serviceCountryCode := by
  constructor
  · intro hiff row hsuits
    rw [methodListed_iff, methodAccepted_iff hidentified] at hiff
    rw [countriesAgree_iff]
    constructor
    · intro hlists
      obtain ⟨other, hother, haccepts⟩ := hiff.mp ⟨row, hsuits, hlists⟩
      obtain rfl := hsuits.unique hother
      exact haccepts
    · intro haccepts
      obtain ⟨other, hother, hlists⟩ := hiff.mpr ⟨row, hsuits, haccepts⟩
      obtain rfl := hsuits.unique hother
      exact hlists
  · exact listed_iff_accepted_of_agree hidentified

/-- A payment of 50 by cash for a service. -/
private def cashPayment (service : Option String) : CreationRequest where
  idempotencyKey := "key"
  serviceCode := "transport"
  serviceReference := "TRP-1"
  payerUserId := some 7
  amount := some 50
  currency := "ugx"
  paymentMethod := "cash"
  serviceCountryCode := service

private def quietMarket : Market where
  methodConfig := fun _ => none
  walletAccountAvailable := fun _ _ => false
  walletRequiresTransactionPin := fun _ => true
  userExists := fun _ => true

theorem methodListed_iff_methodAccepted_cash :
    let table := MethodTable.initializeDefaults {}
    let request := cashPayment (some "UG")
    request.Identified ∧
    ((request.methodListed table quietMarket ↔ request.methodAccepted table quietMarket) ↔
      ∀ row, table.Suits quietMarket request row →
        CountriesAgree row.countryCode request.serviceCountryCode) := by
  intro table request
  have hidentified : request.Identified := ⟨by decide +kernel, by decide +kernel, by decide⟩
  exact ⟨hidentified, methodListed_iff_methodAccepted table quietMarket request hidentified⟩

/-- Cash for every market is accepted in Uganda but not offered there, and cash for Uganda is
accepted but not offered where a blank stands before the country. -/
theorem cash_accepted_not_offered :
    let anywhere : PaymentMethodConfig :=
      { methodId := "cash", displayName := "Cash", providerName := "afcon360", countryCode := ""
        isActive := true, supportedCurrencies := ["UGX"], allowedTimings := ["pay_on_completion"]
        marketplaceCollectionImplemented := true }
    let table : MethodTable := { rows := [anywhere] }
    ((cashPayment (some "UG")).methodAccepted table quietMarket ∧
      ¬ (cashPayment (some "UG")).methodListed table quietMarket) ∧
    (cashPayment (some " UG")).methodAccepted (MethodTable.initializeDefaults {}) quietMarket ∧
    ¬ (cashPayment (some " UG")).methodListed (MethodTable.initializeDefaults {}) quietMarket := by
  decide +kernel

end Afcon360.Marketplace
