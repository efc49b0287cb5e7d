import Afcon360.Foundation.Run
import Afcon360.Marketplace.Invoice

/-!
# Creation of invoices

`create_invoice` finds the invoice of an idempotency key, or else of a service
reference, and compares the terms; if there is none, it inserts one. Every statement
is a step of its own, so calls may interleave anywhere between two statements. A
session runs one call after another in a transaction that its caller ends; what it
has inserted is visible to others only then, but the unique constraints count it at
once: a conflicting insert waits for the end of the other transaction, and does
nothing if a row it can see is in the way.
-/

namespace Afcon360.Marketplace

open Foundation Wallet

/-- The arguments of `create_invoice`. -/
structure CreationRequest where
  idempotencyKey : String
  serviceCode : String
  serviceReference : String
  payerUserId : Option UserId
  amount : Option ℚ
  currency : String
  paymentMethod : String
  settlementTiming : String := "pay_on_completion"
  serviceCountryCode : Option String := none
  payerCountryCode : Option String := none

/-- The immutable terms of an invoice, as they are normalised and stored. -/
structure Terms where
  serviceCode : String
  serviceReference : String
  payerUserId : UserId
  amount : ℚ
  currency : Currency
  paymentMethod : String
  settlementTiming : String
  serviceCountryCode : Option String
  payerCountryCode : Option String
  deriving DecidableEq

/-- What the second unique constraint is on. -/
def Terms.reference (terms : Terms) : String × String := (terms.serviceCode, terms.serviceReference)

/-- `_SUPPORTED_SETTLEMENT_TIMINGS`. -/
def supportedSettlementTimings : List String :=
  ["pay_on_completion", "pay_now", "deposit", "pay_on_arrival"]

/-- An optional country code; the empty text counts as none. -/
def countryCode (code : Option String) : Option String :=
  (code.filter (fun text => text ≠ "")).map (fun text => (strip text).toUpper)

/-- The key and the terms a call asks for, or the error it raises before it reads any
invoice. -/
def CreationRequest.normalize (request : CreationRequest) :
    Except InvoiceError (String × Terms) := do
  let currency ← currencyCode request.currency
  let amount ← money request.amount
  let key := strip request.idempotencyKey
  let code := (strip request.serviceCode).toLower
  let reference := strip request.serviceReference
  let timing := (strip request.settlementTiming).toLower
  require (key ≠ "" ∧ key.length ≤ 255)
    (.refused .invalidIdempotencyKey "Wallet invoice idempotency key is invalid")
  require (code ≠ "" ∧ code.length ≤ 50 ∧ reference ≠ "" ∧ reference.length ≤ 255)
    (.refused .invalidServiceReference "Marketplace service reference is invalid")
  match request.payerUserId with
  | none => .error (.refused .payerRequired "A payer is required for this invoice")
  | some payer =>
    require (timing ∈ supportedSettlementTimings)
      (.refused .timingNotSupported "Wallet does not support this settlement timing")
    pure (key,
      { serviceCode := code, serviceReference := reference, payerUserId := payer, amount, currency
        paymentMethod := (strip request.paymentMethod).toLower
        settlementTiming := timing
        serviceCountryCode := countryCode request.serviceCountryCode
        payerCountryCode := countryCode request.payerCountryCode })

/-- `_immutable_terms_match`. -/
def immutableTermsMatch (stored terms : Terms) : Bool :=
  stored.serviceCode = terms.serviceCode ∧ stored.serviceReference = terms.serviceReference ∧
    stored.payerUserId = terms.payerUserId ∧ quantizeHalfEven stored.amount = terms.amount ∧
    stored.currency.toUpper = terms.currency ∧
    stored.paymentMethod.toLower = terms.paymentMethod ∧
    stored.settlementTiming.toLower = terms.settlementTiming ∧
    stored.serviceCountryCode = terms.serviceCountryCode ∧
    stored.payerCountryCode = terms.payerCountryCode

/-- A row of the payment method configuration that is enabled and active. -/
structure MethodConfig where
  marketplaceCollectionImplemented : Bool
  supportsCurrency : Currency → Bool
  allowedTimings : List String
  countryCode : Option String
  minAmount : Option ℚ
  maxAmount : Option ℚ

/-- What the call reads from other tables. -/
structure Market where
  methodConfig : String → Option MethodConfig
  walletAccountAvailable : UserId → Currency → Bool
  walletRequiresTransactionPin : UserId → Bool
  userExists : UserId → Bool

/-- `_method_config`. -/
def checkMethod (market : Market) (terms : Terms) : Except InvoiceError Unit :=
  match market.methodConfig (strip terms.paymentMethod).toLower with
  | none => .error (.refused .methodUnavailable
      "This payment method is not enabled in Wallet configuration.")
  | some config => do
      require config.marketplaceCollectionImplemented (.refused .methodNotIntegrated
        "This payment method does not have marketplace collection implemented.")
      require (config.supportsCurrency terms.currency) (.refused .currencyNotSupported
        "Wallet has not enabled this payment method for the quoted currency.")
      require (terms.settlementTiming ∈ config.allowedTimings.map
        (fun item => (strip item).toLower))
        (.refused .timingNotSupported
          "Wallet has not enabled this payment method for pay-on-completion.")
      require
        (∀ country ∈ countryCode terms.serviceCountryCode,
          ∀ configured ∈ config.countryCode.filter (fun text => text ≠ ""),
            configured.toUpper = country)
        (.refused .marketNotSupported
          "This payment method is not configured for the service market.")
      require (config.minAmount.getD 0 ≤ terms.amount ∧
          ∀ maximum ∈ config.maxAmount, terms.amount ≤ maximum)
        (.refused .amountOutOfRange
          "The quoted amount is outside the configured limits for this payment method.")

/-- The checks between the lookups and the insert. -/
def checkTerms (market : Market) (terms : Terms) : Except InvoiceError Unit := do
  checkMethod market terms
  if terms.paymentMethod = "wallet" then
    require (market.walletAccountAvailable terms.payerUserId terms.currency)
      (.refused .walletAccountMissing
        "A Wallet account in the quoted currency is required for this payment method.")
    require (¬ market.walletRequiresTransactionPin terms.payerUserId)
      (.refused .walletPinAuthorizationUnavailable
        "Wallet payment with a configured transaction PIN needs rider pre-authorization, which is not yet available. Choose another available method.")

/-- The row fits the columns and the foreign key of the table. -/
def Market.takes (market : Market) (terms : Terms) : Bool :=
  terms.amount < 10 ^ 12 ∧ terms.paymentMethod.length ≤ 50 ∧
    (terms.serviceCountryCode.getD "").length ≤ 2 ∧ (terms.payerCountryCode.getD "").length ≤ 2 ∧
    market.userExists terms.payerUserId

/-- A row of `wallet_marketplace_invoices`. Its identifier is the number of the call that
generated it; `writer` is the session whose open transaction holds it. -/
structure InvoiceRow where
  id : ℕ
  idempotencyKey : String
  terms : Terms
  writer : Option ℕ
  deriving DecidableEq

def InvoiceRow.reference (row : InvoiceRow) : String × String := row.terms.reference

/-- The row is found by one of the two lookups. -/
def InvoiceRow.Meets (row : InvoiceRow) (key : String) (terms : Terms) : Prop :=
  row.idempotencyKey = key ∨ row.reference = terms.reference

instance (row : InvoiceRow) (key : String) (terms : Terms) : Decidable (row.Meets key terms) :=
  inferInstanceAs (Decidable (_ ∨ _))

def InvoiceRow.visibleTo (session : ℕ) (row : InvoiceRow) : Bool :=
  row.writer = none ∨ row.writer = some session

/-- The table with its two unique constraints. -/
structure InvoiceTable where
  rows : List InvoiceRow := []
  uniqueKey : (rows.map InvoiceRow.idempotencyKey).Nodup := by simp
  uniqueReference : (rows.map InvoiceRow.reference).Nodup := by simp

namespace InvoiceTable

variable {table : InvoiceTable} {row other : InvoiceRow} {session : ℕ} {key : String}

/-- The rows a statement of the session sees. -/
def visible (table : InvoiceTable) (session : ℕ) : List InvoiceRow :=
  table.rows.filter (InvoiceRow.visibleTo session)

def findKey (table : InvoiceTable) (session : ℕ) (key : String) : Option InvoiceRow :=
  (table.visible session).find? (fun row => row.idempotencyKey = key)

def findReference (table : InvoiceTable) (session : ℕ) (terms : Terms) : Option InvoiceRow :=
  (table.visible session).find? (fun row => row.reference = terms.reference)

/-- Append a row unless one of the constraints forbids it. -/
def insert? (table : InvoiceTable) (row : InvoiceRow) : Option InvoiceTable :=
  if free : row.idempotencyKey ∉ table.rows.map InvoiceRow.idempotencyKey ∧
      row.reference ∉ table.rows.map InvoiceRow.reference then
    some
      { rows := table.rows ++ [row]
        uniqueKey := by
          rw [List.map_append]
          exact List.Nodup.append table.uniqueKey (by simp) (by simpa using free.1)
        uniqueReference := by
          rw [List.map_append]
          exact List.Nodup.append table.uniqueReference (by simp) (by simpa using free.2) }
  else none

/-- The end of a transaction: its rows become visible to all. -/
def commit (table : InvoiceTable) (session : ℕ) : InvoiceTable where
  rows := table.rows.map (fun row =>
    if row.writer = some session then { row with writer := none } else row)
  uniqueKey := by
    rw [List.map_map]
    convert table.uniqueKey using 2
    funext row
    simp only [Function.comp_apply]
    split <;> rfl
  uniqueReference := by
    rw [List.map_map]
    convert table.uniqueReference using 2
    funext row
    simp only [Function.comp_apply]
    split <;> rfl

/-- The end of a transaction: its rows are gone. -/
def rollback (table : InvoiceTable) (session : ℕ) : InvoiceTable where
  rows := table.rows.filter (fun row => row.writer ≠ some session)
  uniqueKey := table.uniqueKey.sublist (List.filter_sublist.map _)
  uniqueReference := table.uniqueReference.sublist (List.filter_sublist.map _)

end InvoiceTable

/-- The statement a call executes next. -/
inductive CreationPhase
  | findKey | findReference | check | insert | resolveKey | resolveReference
  deriving DecidableEq, Repr

/-- A call with its number, the key and terms it asks for, and the invoices its session
saw when it began. -/
structure CreationCall where
  number : ℕ
  key : String
  terms : Terms
  stored : List InvoiceRow
  phase : CreationPhase := .findKey

/-- A call that has come to its end. -/
structure Creation where
  number : ℕ
  key : String
  terms : Terms
  stored : List InvoiceRow
  outcome : Except InvoiceError ℕ

def CreationCall.ends (call : CreationCall) (outcome : Except InvoiceError ℕ) : Creation :=
  ⟨call.number, call.key, call.terms, call.stored, outcome⟩

/-- The error for terms that differ. -/
def idempotencyConflict : InvoiceError :=
  .refused .invoiceIdempotencyConflict
    "This marketplace reference already has a Wallet invoice with different terms."

def conflictUnresolved : InvoiceError :=
  .refused .invoiceConflictUnresolved
    "Wallet could not resolve a concurrent invoice request. Retry safely."

/-- The table, the call each session runs, the answers of calls whose transaction is
still open, and those that stand. -/
structure InvoiceDesk where
  table : InvoiceTable := {}
  calls : ℕ → Option CreationCall := fun _ => none
  provisional : List (ℕ × Creation) := []
  log : List Creation := []
  next : ℕ := 0

namespace InvoiceDesk

variable {s t : InvoiceDesk} {session : ℕ} {call : CreationCall}

/-- The call of the session goes on with another statement. -/
def goOn (s : InvoiceDesk) (session : ℕ) (call : CreationCall) (phase : CreationPhase) :
    InvoiceDesk :=
  { s with calls := Function.update s.calls session (some { call with phase }) }

/-- The call of the session raises. -/
def raise (s : InvoiceDesk) (session : ℕ) (call : CreationCall) (e : InvoiceError) : InvoiceDesk :=
  { s with
    calls := Function.update s.calls session none
    log := s.log ++ [call.ends (.error e)] }

/-- The call of the session returns the invoice of a row. That stands at once if the row
is not one of its own open transaction. -/
def answer (s : InvoiceDesk) (session : ℕ) (call : CreationCall) (row : InvoiceRow) : InvoiceDesk :=
  if row.writer = none then
    { s with
      calls := Function.update s.calls session none
      log := s.log ++ [call.ends (.ok row.id)] }
  else
    { s with
      calls := Function.update s.calls session none
      provisional := s.provisional ++ [(session, call.ends (.ok row.id))] }

/-- An invoice was found: return it if its terms are those asked for. -/
def compare (s : InvoiceDesk) (session : ℕ) (call : CreationCall) (row : InvoiceRow) :
    InvoiceDesk :=
  if immutableTermsMatch row.terms call.terms then s.answer session call row
  else s.raise session call idempotencyConflict

/-- The transaction of the session ends without effect, and its call with it. -/
def rollback (s : InvoiceDesk) (session : ℕ) : InvoiceDesk :=
  { s with
    table := s.table.rollback session
    calls := Function.update s.calls session none
    provisional := s.provisional.filter (fun entry => entry.1 ≠ session) }

/-- The insert with `ON CONFLICT DO NOTHING`. A row the session sees is in the way, or it
waits for another transaction, or it inserts. A value that the table does not take
ends the transaction. -/
def insertRow (s : InvoiceDesk) (session : ℕ) (call : CreationCall) (market : Market) :
    InvoiceDesk :=
  let row : InvoiceRow := ⟨call.number, call.key, call.terms, some session⟩
  if market.takes call.terms = false then (s.rollback session).raise session call .database
  else if (s.table.visible session).any (fun other => other.Meets call.key call.terms) then
    s.goOn session call .resolveKey
  else
    match s.table.insert? row with
    | none => s
    | some table => { s with table }.answer session call row

/-- The next statement of the call of a session. -/
def advance (s : InvoiceDesk) (session : ℕ) (market : Market) : InvoiceDesk :=
  match s.calls session with
  | none => s
  | some call =>
    match call.phase with
    | .findKey =>
      match s.table.findKey session call.key with
      | some row => s.compare session call row
      | none => s.goOn session call .findReference
    | .findReference =>
      match s.table.findReference session call.terms with
      | some row => s.compare session call row
      | none => s.goOn session call .check
    | .check =>
      match checkTerms market call.terms with
      | .error e => s.raise session call e
      | .ok () => s.goOn session call .insert
    | .insert => s.insertRow session call market
    | .resolveKey =>
      match s.table.findKey session call.key with
      | some row => s.compare session call row
      | none => s.goOn session call .resolveReference
    | .resolveReference =>
      match s.table.findReference session call.terms with
      | some row => s.compare session call row
      | none => s.raise session call conflictUnresolved

/-- A session calls `create_invoice`; invalid arguments raise before anything is read. -/
def start (s : InvoiceDesk) (session : ℕ) (request : CreationRequest) : InvoiceDesk :=
  match s.calls session, request.normalize with
  | none, .ok (key, terms) =>
    { s with
      calls := Function.update s.calls session
        (some ⟨s.next, key, terms, s.table.visible session, .findKey⟩)
      next := s.next + 1 }
  | _, _ => s

/-- The transaction of a session that runs no call is committed. -/
def commit (s : InvoiceDesk) (session : ℕ) : InvoiceDesk :=
  match s.calls session with
  | some _ => s
  | none =>
    { s with
      table := s.table.commit session
      provisional := s.provisional.filter (fun entry => entry.1 ≠ session)
      log := s.log ++ (s.provisional.filter (fun entry => entry.1 = session)).map Prod.snd }

inductive Move
  | start (session : ℕ) (request : CreationRequest)
  | advance (session : ℕ) (market : Market)
  | commit (session : ℕ)
  | rollback (session : ℕ)

def move (s : InvoiceDesk) : Move → InvoiceDesk
  | .start session request => s.start session request
  | .advance session market => s.advance session market
  | .commit session => s.commit session
  | .rollback session => s.rollback session

def Step (s : InvoiceDesk) (a : Move) (t : InvoiceDesk) : Prop := s.move a = t

end InvoiceDesk

/-! ## Normalised terms -/

theorem money_quantized {value : Option ℚ} {amount : ℚ} (h : money value = .ok amount) :
    quantizeHalfEven amount = amount := by
  unfold money at h
  split at h
  · cases h
  · obtain ⟨-, h⟩ := check_bind_eq_ok.mp h
    rw [← pure_eq_ok.mp h, quantizeHalfEven, roundHalfEven_gridValue (by decide)]

theorem currencyCode_ok {value : String} {currency : Currency}
    (h : currencyCode value = .ok currency) : currency = (strip value).toUpper := by
  obtain ⟨-, h⟩ := check_bind_eq_ok.mp h
  exact (pure_eq_ok.mp h).symm

/-- Terms that the comparison takes as they are. -/
structure Terms.Normal (terms : Terms) : Prop where
  amount : quantizeHalfEven terms.amount = terms.amount
  currency : terms.currency.toUpper = terms.currency
  paymentMethod : terms.paymentMethod.toLower = terms.paymentMethod
  settlementTiming : terms.settlementTiming.toLower = terms.settlementTiming

theorem CreationRequest.normalize_normal {request : CreationRequest} {key : String} {terms : Terms}
    (h : request.normalize = .ok (key, terms)) : terms.Normal := by
  obtain ⟨currency, hcurrency, h⟩ := bind_eq_ok.mp h
  obtain ⟨amount, hamount, h⟩ := bind_eq_ok.mp h
  obtain ⟨-, h⟩ := check_bind_eq_ok.mp h
  obtain ⟨-, h⟩ := check_bind_eq_ok.mp h
  split at h
  · cases h
  · obtain ⟨-, h⟩ := check_bind_eq_ok.mp h
    obtain ⟨-, rfl⟩ := Prod.mk.inj (pure_eq_ok.mp h)
    refine ⟨?_, ?_, toLower_toLower _, toLower_toLower _⟩
    · exact money_quantized hamount
    · obtain rfl := currencyCode_ok hcurrency
      exact toUpper_toUpper _

/-- Against normalised terms of a row, the comparison is equality. -/
theorem Terms.Normal.match_iff {stored terms : Terms} (h : stored.Normal) :
    immutableTermsMatch stored terms = true ↔ stored = terms := by
  simp only [immutableTermsMatch, decide_eq_true_eq, h.amount, h.currency, h.paymentMethod,
    h.settlementTiming]
  constructor
  · rintro ⟨h1, h2, h3, h4, h5, h6, h7, h8, h9⟩
    cases stored
    cases terms
    simp_all
  · rintro rfl
    simp

end Afcon360.Marketplace
