import Afcon360.Transport.FarePricing
import Afcon360.Transport.RideQuote

/-!
# Fare quotes, issued and accepted

A trip is priced at one moment, and `issue_fare_quote` signs the price with that moment cut to the
second. `create_request` prices the trip again at the signed moment, with the tables as they are
then, and `validate_fare_quote` asks that the two prices and the facts of the trip agree.

Signing and the texts of times are those of the helpers of `Transport.RideQuote`; `isoformat`
writes what `fromisoformat` reads.
-/

namespace Afcon360.Transport

open Foundation

/-! ## Pricing and signing -/

/-- `time.hour` -/
def DateTime.hour (time : DateTime) : ℤ := time.wall / 3600000000 % 24

/-- `time.replace(microsecond=0)` -/
def DateTime.truncated (time : DateTime) : DateTime :=
  { time with wall := time.wall - time.wall % 1000000 }

theorem DateTime.hour_truncated (time : DateTime) : time.truncated.hour = time.hour := by
  unfold truncated hour
  dsimp only
  omega

/-- `str(version or "")` -/
def versionText (version : ℕ) : String := if version = 0 then "" else toString version

/-- What a quote keeps of an estimate; an amount that is no number has no quote. -/
def PricedTrip.quoted? (priced : PricedTrip) : Option FareEstimate :=
  match priced.total with
  | .finite total => some {
      total := total
      currency := match priced.currency with
        | .str code => some code
        | _ => none
      version := versionText priced.version }
  | _ => none

section Quotes

variable (number decimalText : String → Option Number)

/-- `calculate_estimate` at a moment, with the tables in force then. -/
def estimateAt (row : Option FareSetting) (serviceType vehicleClass : Option String)
    (distanceKm : ℚ) (moment : DateTime) : Option FareEstimate :=
  (calculateEstimate decimalText (resolveTables number row moment)
    ⟨serviceType, vehicleClass, .float (.finite distanceKm), moment.hour⟩).toOption.bind
      PricedTrip.quoted?

/-- Stands where a trip has no price: the request fails, as it does with this amount. -/
def unpriced : FareEstimate := ⟨0, none, ""⟩

/-- The world of a request that prices with a row of tables. -/
def RideWorld.pricedBy (world : RideWorld) (row : Option FareSetting) : RideWorld :=
  { world with
    estimate := fun serviceType vehicleClass distanceKm moment =>
      (estimateAt number decimalText row (some serviceType) (some vehicleClass) distanceKm
        moment).getD unpriced }

/-- `issue_fare_quote` up to the signature. -/
def issueFareQuote (isoformat : DateTime → String) (serviceType vehicleClass : Option String)
    (estimate : FareEstimate) (pickup dropoff : Coordinates) (distanceKm : ℚ)
    (quotedAt : DateTime) : Except RideOutcome FareQuote := do
  let amount ← moneyAmount (some estimate.total)
  let quote : FareQuote := {
    serviceType := plainText serviceType "on_demand"
    vehicleClass := plainText vehicleClass ""
    currency := (strip estimate.currencyCode).toUpper
    amount := some amount
    fareVersion := estimate.version
    pickup := quoteCoords pickup
    dropoff := quoteCoords dropoff
    distanceKm := roundHalfEven (10 ^ 6) distanceKm
    quotedAt := isoformat quotedAt.truncated }
  require (quote.vehicleClass ≠ "" ∧ quote.currency ≠ "" ∧ quote.fareVersion ≠ "")
    (invalidField "The fare quote is incomplete. Please try again." "fare_quote_token")
  pure quote

/-- The trip has, at the moment, a fare of the same amount, currency and version. -/
def SameFare (row : Option FareSetting) (serviceType vehicleClass : Option String)
    (distanceKm : ℚ) (moment : DateTime) (quoted : FareEstimate) : Prop :=
  ∃ estimate, estimateAt number decimalText row serviceType vehicleClass distanceKm moment =
      some estimate ∧
    estimate.currencyCode = quoted.currencyCode ∧ estimate.version = quoted.version ∧
    moneyAmount (some estimate.total) = moneyAmount (some quoted.total)

end Quotes

/-- The checks of a request that do not look at the quote. -/
structure OtherChecks (helpers : RideHelpers) (world : RideWorld) (owner : ℕ)
    (payload : RidePayload) (survey : RideSurvey) (estimate : FareEstimate) : Prop where
  currency : ∃ requested, payload.requestedCurrency = .ok requested
  method : payload.method ≠ ""
  ready : payload.method ∈ world.readyMethods owner estimate.currencyCode estimate.total
  times : ∃ times, pickupTimes helpers world payload survey.pickup = .ok times

section Facts

variable {number decimalText : String → Option Number}
variable {helpers : RideHelpers} {payload : RidePayload} {survey : RideSurvey}

theorem moneyAmount_again {value : Option ℚ} {amount : ℚ} (h : moneyAmount value = .ok amount) :
    moneyAmount (some amount) = .ok amount := by
  obtain ⟨hpos, h⟩ := check_bind_eq_ok.mp h
  cases h
  have hround : roundHalfUp 100 (gridValue 100 (roundHalfUp 100 (value.getD 0))) =
      roundHalfUp 100 (value.getD 0) := roundHalfUp_gridValue (by decide)
  simp only [moneyAmount, Option.getD_some, hround]
  exact check_bind_eq_ok.mpr ⟨hpos, rfl⟩

theorem surveyRide_ok (h : surveyRide helpers payload = .ok survey) :
    survey.serviceType = (textOr payload.serviceType "").toLower ∧
      survey.serviceType ∈ serviceTypes ∧
      survey.vehicleClass = (textOr payload.vehicleClass "comfort").toLower := by
  obtain ⟨-, h⟩ := check_bind_eq_ok.mp h
  obtain ⟨-, h⟩ := check_bind_eq_ok.mp h
  obtain ⟨hservice, h⟩ := check_bind_eq_ok.mp h
  obtain ⟨_, -, h⟩ := bind_eq_ok.mp h
  obtain ⟨_, -, h⟩ := bind_eq_ok.mp h
  split at h
  · cases h
  · cases h
    exact ⟨rfl, require_eq_ok.mp hservice, rfl⟩

theorem textOr_of_ne {value : Option String} (h : textOr value "" ≠ "") (absent : String) :
    textOr value absent = textOr value "" := by
  unfold textOr at h ⊢
  cases hfilter : value.filter fun text => text ≠ "" with
  | none =>
    rw [hfilter] at h
    exact absurd rfl h
  | some text => rfl

theorem textOr_some {text : String} (h : text ≠ "") (absent : String) :
    textOr (some text) absent = text := by
  simp [textOr, Option.filter, h]

/-- A service that passed the check is written out. -/
theorem textOr_service (h : surveyRide helpers payload = .ok survey) (absent : String) :
    textOr payload.serviceType absent = textOr payload.serviceType "" := by
  obtain ⟨hservice, hmem, -⟩ := surveyRide_ok h
  refine textOr_of_ne (fun hempty => ?_) absent
  rw [hservice, hempty] at hmem
  exact absurd hmem (by decide +kernel)

/-- The tables in force have a known currency. -/
theorem currencyCode_mem {row : Option FareSetting} {moment : DateTime} {estimate : FareEstimate}
    {serviceType vehicleClass : Option String} {distanceKm : ℚ}
    (hvalid : validateTables number (resolveTables number row moment).tables = .ok ())
    (h : estimateAt number decimalText row serviceType vehicleClass distanceKm moment =
      some estimate) : estimate.currencyCode ∈ currencies := by
  obtain ⟨priced, hpriced, hquoted⟩ := Option.bind_eq_some_iff.mp h
  have hcurrency := calculateEstimate_currency (eq_ok_of_toOption hpriced)
  obtain ⟨items, htables, -, hitem⟩ := validateTables_ok hvalid
  rw [htables] at hcurrency
  have husd : "USD".toUpper ∈ currencies := by decide +kernel
  unfold PricedTrip.quoted? at hquoted
  split at hquoted
  · cases hquoted
    unfold FareEstimate.currencyCode
    dsimp only
    rw [hcurrency]
    unfold Data.getOr Data.items
    unfold Data.get at hitem
    cases hkey : items.lookup "currency" with
    | none => exact husd
    | some value =>
      rw [hkey] at hitem
      cases value with
      | none => exact husd
      | str code =>
        obtain ⟨hlength, hcode⟩ := check_bind_eq_ok.mp hitem
        have hne : code ≠ "" := by
          rintro rfl
          exact absurd (require_eq_ok.mp hlength) (by decide)
        simp only [Option.getD_some, textOr_some hne]
        exact require_eq_ok.mp hcode
      | _ => cases hitem
  · cases hquoted

/-- Only the keys of the service and the class are looked at. -/
theorem estimateAt_keys {row : Option FareSetting} {moment : DateTime} {distanceKm : ℚ}
    {serviceType vehicleClass serviceType' vehicleClass' : Option String}
    (hservice : (textOr serviceType "on_demand").toLower =
      (textOr serviceType' "on_demand").toLower)
    (hclass : (textOr vehicleClass "comfort").toLower =
      (textOr vehicleClass' "comfort").toLower) :
    estimateAt number decimalText row serviceType vehicleClass distanceKm moment =
      estimateAt number decimalText row serviceType' vehicleClass' distanceKm moment := by
  unfold estimateAt calculateEstimate baseFareOf classMultiplierOf FareRequest.serviceKey
    FareRequest.classKey
  simp only [hservice, hclass]

end Facts

/-- The payload brings the quote, signed at a second from which it is not too old yet, and
confirms its amount. -/
structure Brings (helpers : RideHelpers) (world : RideWorld) (payload : RidePayload)
    (quote : FareQuote) : Prop where
  token : ∃ signedAt, helpers.unsign (payload.fareQuoteToken.getD "") = some (quote, signedAt) ∧
    world.accepts signedAt
  written : strip (payload.fareQuoteToken.getD "") ≠ ""
  confirmed : payload.confirmedFareAmount = quote.amount

section Acceptance

variable {number decimalText : String → Option Number} {isoformat : DateTime → String}
variable {helpers : RideHelpers} {world : RideWorld} {owner : ℕ} {payload : RidePayload}
variable {survey : RideSurvey} {estimate : FareEstimate} {quote : FareQuote}
variable {row : Option FareSetting} {moment : DateTime}

theorem issueFareQuote_ok
    (h : issueFareQuote isoformat payload.serviceType payload.vehicleClass estimate survey.pickup
      survey.dropoff survey.measuredKm moment = .ok quote) :
    ∃ amount, moneyAmount (some estimate.total) = .ok amount ∧ quote =
      { serviceType := plainText payload.serviceType "on_demand"
        vehicleClass := plainText payload.vehicleClass ""
        currency := (strip estimate.currencyCode).toUpper
        amount := some amount
        fareVersion := estimate.version
        pickup := quoteCoords survey.pickup
        dropoff := quoteCoords survey.dropoff
        distanceKm := roundHalfEven (10 ^ 6) survey.measuredKm
        quotedAt := isoformat moment.truncated } ∧ plainText payload.vehicleClass "" ≠ "" := by
  obtain ⟨amount, hamount, h⟩ := bind_eq_ok.mp h
  obtain ⟨hcomplete, h⟩ := check_bind_eq_ok.mp h
  exact ⟨amount, hamount, (pure_eq_ok.mp h).symm, (require_eq_ok.mp hcomplete).1⟩

/-- The request asks the tables for the same service and class as the quote. -/
theorem estimateAt_survey (hsurvey : surveyRide helpers payload = .ok survey)
    (hclass : plainText payload.vehicleClass "" ≠ "") (row : Option FareSetting)
    (moment : DateTime) :
    estimateAt number decimalText row (some survey.serviceType) (some survey.vehicleClass)
        survey.measuredKm moment =
      estimateAt number decimalText row payload.serviceType payload.vehicleClass
        survey.measuredKm moment := by
  obtain ⟨hservice, hmem, hvehicle⟩ := surveyRide_ok hsurvey
  have hwritten : textOr payload.vehicleClass "" ≠ "" := by
    intro hempty
    rw [plainText, hempty] at hclass
    exact hclass (by decide +kernel)
  have hlower : survey.vehicleClass ≠ "" := by
    intro hempty
    rw [textOr_of_ne hwritten] at hvehicle
    rw [plainText, ← strip_toLower, ← hvehicle, hempty] at hclass
    exact hclass (by decide +kernel)
  have hnonempty : survey.serviceType ≠ "" := by
    intro hempty
    rw [hempty] at hmem
    exact absurd hmem (by decide +kernel)
  refine estimateAt_keys ?_ ?_
  · rw [textOr_some hnonempty, textOr_service hsurvey, hservice, toLower_toLower]
  · rw [textOr_some hlower, hvehicle, toLower_toLower]

/-- The facts of the trip are those of the quote, so only the fare can differ. -/
theorem matches_iff (hsurvey : surveyRide helpers payload = .ok survey)
    (hissued : issueFareQuote isoformat payload.serviceType payload.vehicleClass estimate
      survey.pickup survey.dropoff survey.measuredKm moment = .ok quote)
    (hcurrency : estimate.currencyCode ∈ currencies) {currency version : String}
    (hcode : currency ∈ currencies) :
    quote.Matches survey currency version ↔
      currency = estimate.currencyCode ∧ version = estimate.version := by
  obtain ⟨hservice, hmem, hvehicle⟩ := surveyRide_ok hsurvey
  obtain ⟨amount, -, rfl, hclass⟩ := issueFareQuote_ok hissued
  have hwritten : textOr payload.vehicleClass "" ≠ "" := by
    intro hempty
    rw [plainText, hempty] at hclass
    exact hclass (by decide +kernel)
  have hserviceText : plainText payload.serviceType "on_demand" =
      (strip survey.serviceType).toLower := by
    rw [plainText, textOr_service hsurvey, hservice, strip_toLower, toLower_toLower]
  have hclassText : plainText payload.vehicleClass "" = (strip survey.vehicleClass).toLower := by
    rw [plainText, hvehicle, textOr_of_ne hwritten "comfort", strip_toLower, toLower_toLower]
  simp only [FareQuote.Matches, hserviceText, hclassText, strip_currency hcurrency,
    strip_currency hcode, true_and]
  constructor
  · rintro ⟨hsame, hversion⟩
    exact ⟨hsame.symm, hversion.symm⟩
  · rintro ⟨hsame, hversion⟩
    exact ⟨hsame.symm, hversion.symm⟩

theorem moneyAmount_unpriced (amount : ℚ) :
    moneyAmount (some unpriced.total) ≠ .ok amount := by
  intro h
  obtain ⟨hpos, -⟩ := check_bind_eq_ok.mp h
  have hzero : gridValue 100 (roundHalfUp 100 ((some unpriced.total).getD 0)) = 0 := by
    decide +kernel
  have hpositive := require_eq_ok.mp hpos
  rw [hzero] at hpositive
  exact lt_irrefl 0 hpositive

/-- The signed moment is read back where it was naive. -/
theorem reference_truncated
    (hissued : issueFareQuote isoformat payload.serviceType payload.vehicleClass estimate
      survey.pickup survey.dropoff survey.measuredKm moment = .ok quote)
    (htext : helpers.fromisoformat (isoformat moment.truncated) = some moment.truncated) :
    quote.reference helpers =
      match moment.utcoffset with
      | none => .ok moment.truncated
      | some _ => .error (invalidField
          "Your fare quote is invalid. Please review the fare again." "fare_quote_token") := by
  obtain ⟨amount, -, rfl, -⟩ := issueFareQuote_ok hissued
  unfold FareQuote.reference
  rw [htext]
  cases hoffset : moment.utcoffset <;> simp [Option.filter, DateTime.truncated, hoffset]

/-- The request that brings a quote is accepted exactly where its moment was naive and the trip
has the same fare at the signed moment. -/
theorem checkRide_iff_sameFare (hsurvey : surveyRide helpers payload = .ok survey)
    (hissued : issueFareQuote isoformat payload.serviceType payload.vehicleClass estimate
      survey.pickup survey.dropoff survey.measuredKm moment = .ok quote)
    (hcurrency : estimate.currencyCode ∈ currencies)
    (htext : helpers.fromisoformat (isoformat moment.truncated) = some moment.truncated)
    (hbrings : Brings helpers world payload quote)
    (hothers : OtherChecks helpers (world.pricedBy number decimalText row) owner payload survey
      ((world.pricedBy number decimalText row).estimate survey.serviceType survey.vehicleClass
        survey.measuredKm moment.truncated)) :
    (∃ draft, checkRide helpers (world.pricedBy number decimalText row) owner payload = .ok draft ∧
        some draft.trip.acceptedFareAmount = quote.amount ∧
        draft.trip.fareVersion = quote.fareVersion) ↔
      moment.utcoffset = none ∧
        SameFare number decimalText row payload.serviceType payload.vehicleClass
          survey.measuredKm moment.truncated estimate := by
  obtain ⟨amount, hamount, hquote, hclass⟩ := issueFareQuote_ok hissued
  obtain ⟨signedAt, hsigned, haccepts⟩ := hbrings.token
  have hload : loadFareQuote helpers (world.pricedBy number decimalText row)
      payload.fareQuoteToken = .ok quote := by
    refine loadFareQuote_eq_ok.mpr ⟨hbrings.written, ?_, signedAt, hsigned, haccepts⟩
    rw [hquote]
  have hprices : (world.pricedBy number decimalText row).estimate survey.serviceType
      survey.vehicleClass survey.measuredKm moment.truncated =
        (estimateAt number decimalText row payload.serviceType payload.vehicleClass
          survey.measuredKm moment.truncated).getD unpriced := by
    rw [← estimateAt_survey hsurvey hclass]
    rfl
  have hreference := reference_truncated hissued htext
  rw [hprices] at hothers
  constructor
  · rintro ⟨draft, hdraft, -, -⟩
    obtain ⟨survey', hsurvey', quote', hload', quotedAt, hquotedAt, found, hfound, hcode, requested,
      -, -, -, accepted, haccepted, -⟩ := checkRide_eq_ok.mp hdraft
    obtain rfl : survey = survey' := Except.ok.inj (hsurvey.symm.trans hsurvey')
    obtain rfl : quote = quote' := Except.ok.inj (hload.symm.trans hload')
    cases hoffset : moment.utcoffset with
    | some offset => rw [hreference, hoffset] at hquotedAt; cases hquotedAt
    | none =>
      rw [hreference, hoffset] at hquotedAt
      cases hquotedAt
      rw [hprices] at hfound
      obtain ⟨-, hquoted, hcurrent, hmatches⟩ := validateFareQuote_eq_ok.mp haccepted
      refine ⟨rfl, ?_⟩
      cases hlater : estimateAt number decimalText row payload.serviceType payload.vehicleClass
        survey.measuredKm moment.truncated with
      | none =>
        rw [hlater] at hfound
        rw [hfound] at hcurrent
        exact absurd hcurrent (moneyAmount_unpriced accepted)
      | some later =>
        rw [hlater] at hfound
        obtain rfl : found = later := hfound
        obtain ⟨hsame, hversion⟩ := (matches_iff hsurvey hissued hcurrency hcode).mp hmatches
        have hsigns : moneyAmount quote.amount = .ok amount := by
          rw [hquote]
          exact moneyAmount_again hamount
        obtain rfl : accepted = amount := Except.ok.inj (hquoted.symm.trans hsigns)
        exact ⟨found, hlater, hsame, hversion, hcurrent.trans hamount.symm⟩
  · rintro ⟨hnaive, later, hlater, hsame, hversion, hmoney⟩
    rw [hlater, Option.getD_some] at hothers hprices
    have hcode : later.currencyCode ∈ currencies := hsame ▸ hcurrency
    obtain ⟨requested, hrequested⟩ := hothers.currency
    obtain ⟨times, htimes⟩ := hothers.times
    have hsigns : moneyAmount quote.amount = .ok amount := by
      rw [hquote]
      exact moneyAmount_again hamount
    have hvalidate : validateFareQuote quote survey later.currencyCode later
        payload.confirmedFareAmount = .ok amount := by
      refine validateFareQuote_eq_ok.mpr ⟨?_, hsigns, hmoney.trans hamount, ?_⟩
      · rw [hbrings.confirmed]
        exact hsigns
      · exact (matches_iff hsurvey hissued hcurrency hcode).mpr ⟨hsame, hversion⟩
    rw [hnaive] at hreference
    refine ⟨_, checkRide_eq_ok.mpr ⟨survey, hsurvey, quote, hload, moment.truncated, hreference,
      later, hprices.symm, hcode, requested, hrequested, hothers.method, hothers.ready, amount,
      hvalidate, times, htimes, rfl⟩, ?_, ?_⟩
    · rw [hquote]
    · rw [hquote]
      exact hversion

/-- The same tables give the same fare. -/
theorem sameFare_of_resolveTables {later : Option FareSetting}
    {serviceType vehicleClass : Option String} {distanceKm : ℚ}
    (h : resolveTables number later moment.truncated = resolveTables number row moment)
    (hpriced : estimateAt number decimalText row serviceType vehicleClass distanceKm moment =
      some estimate) :
    SameFare number decimalText later serviceType vehicleClass distanceKm moment.truncated
      estimate := by
  refine ⟨estimate, ?_, rfl, rfl, rfl⟩
  unfold estimateAt at hpriced ⊢
  rw [h, DateTime.hour_truncated]
  exact hpriced

end Acceptance

/-! ## The tables in between -/

section Between

variable {number : String → Option Number} {fromisoformat : String → Option DateTime}

/-- The call stages its tables for a later moment, and it does not push out the newest version
where that is in force at the moment and not the first. -/
def Keeps (number : String → Option Number) (fromisoformat : String → Option DateTime)
    (moment : DateTime) (history : FareHistory) (call : FareUpdate) : Prop :=
  ∀ effective tables, call.published number fromisoformat = some (effective, tables) →
    moment.instant < effective.instant ∧
      (2 ≤ history.written.length → ∀ newest ∈ history.written.getLast?,
        moment.instant < newest.effectiveFrom.instant)

variable {moment : DateTime}

theorem resolveTables_next {history : FareHistory} {call : FareUpdate}
    (h : Recorded number history) (hkeeps : Keeps number fromisoformat moment history call) :
    resolveTables number (history.next number fromisoformat call).row moment =
      resolveTables number history.row moment := by
  cases hcall : call.published number fromisoformat with
  | none => rw [FareHistory.next_of_not_published hcall]
  | some published =>
    obtain ⟨effective, tables⟩ := published
    obtain ⟨hlater, hnewest⟩ := hkeeps effective tables hcall
    exact (h.resolveTables_next_iff hcall hlater).mpr hnewest

/-- Calls that keep what is in force at a moment keep it all along. -/
theorem resolveTables_along {history : FareHistory} {calls : List FareUpdate}
    (h : Recorded number history)
    (hkeeps : Along (FareHistory.next number fromisoformat) (Keeps number fromisoformat moment)
      history calls) :
    resolveTables number (calls.foldl (FareHistory.next number fromisoformat) history).row moment =
      resolveTables number history.row moment := by
  induction calls generalizing history with
  | nil => rfl
  | cons call rest ih =>
    obtain ⟨hfirst, hrest⟩ := along_cons.mp hkeeps
    rw [List.foldl_cons, ih (h.next call) hrest, resolveTables_next h hfirst]

theorem DateTime.truncated_le (moment : DateTime) :
    moment.truncated.instant ≤ moment.instant := by
  unfold truncated instant
  dsimp only
  omega

/-- The signed moment has the same tables where none come into force between it and the moment. -/
theorem resolveTables_truncated {row : Option FareSetting}
    (h : ∀ stored ∈ storedVersions row, stored.effectiveFrom.instant ≤ moment.instant →
      stored.effectiveFrom.instant ≤ moment.truncated.instant) :
    resolveTables number row moment.truncated = resolveTables number row moment := by
  unfold resolveTables
  congr 1
  refine List.foldl_ext _ _ _ fun best stored hstored => ?_
  have hsame : moment.truncated.instant < stored.effectiveFrom.instant ↔
      moment.instant < stored.effectiveFrom.instant := by
    have hfirst := h stored hstored
    have hle := moment.truncated_le
    omega
  simp only [considerVersion, hsame]

end Between

/-! ## The round trip -/

section RoundTrip

/-- A signed quote is accepted with the same trip and amount exactly where its moment was naive
and the trip has the same fare at the signed moment. It has where no tables come into force in
between the two moments, and where every update after the quote is staged for later and keeps the
version that counts. The last part says all that an accepted quote agrees with. -/
theorem quote_round_trip (number decimalText : String → Option Number)
    (fromisoformat : String → Option DateTime) {isoformat : DateTime → String}
    {helpers : RideHelpers} {world : RideWorld} {owner : ℕ} {payload : RidePayload}
    {survey : RideSurvey} {estimate : FareEstimate} {quote : FareQuote} {moment : DateTime}
    {row later : Option FareSetting} (calls more : List FareUpdate)
    (hrow : row = (fareHistory number fromisoformat calls).row)
    (hlater : later = (fareHistory number fromisoformat (calls ++ more)).row)
    (hsurvey : surveyRide helpers payload = .ok survey)
    (hpriced : estimateAt number decimalText row payload.serviceType payload.vehicleClass
      survey.measuredKm moment = some estimate)
    (hissued : issueFareQuote isoformat payload.serviceType payload.vehicleClass estimate
      survey.pickup survey.dropoff survey.measuredKm moment = .ok quote)
    (htext : helpers.fromisoformat (isoformat moment.truncated) = some moment.truncated)
    (hbrings : Brings helpers world payload quote)
    (hothers : OtherChecks helpers (world.pricedBy number decimalText later) owner payload survey
      ((world.pricedBy number decimalText later).estimate survey.serviceType survey.vehicleClass
        survey.measuredKm moment.truncated)) :
    let Accepted := ∃ draft,
      checkRide helpers (world.pricedBy number decimalText later) owner payload = .ok draft ∧
        some draft.trip.acceptedFareAmount = quote.amount ∧
        draft.trip.fareVersion = quote.fareVersion
    (Accepted ↔ moment.utcoffset = none ∧
      SameFare number decimalText later payload.serviceType payload.vehicleClass
        survey.measuredKm moment.truncated estimate) ∧
    (moment.utcoffset = none →
      (∀ stored ∈ storedVersions row, stored.effectiveFrom.instant ≤ moment.instant →
        stored.effectiveFrom.instant ≤ moment.truncated.instant) →
      Along (FareHistory.next number fromisoformat)
        (Keeps number fromisoformat moment.truncated) (fareHistory number fromisoformat calls)
        more → Accepted) ∧
    ∀ quote survey currency estimate confirmed amount,
      validateFareQuote quote survey currency estimate confirmed = .ok amount ↔
        moneyAmount confirmed = .ok amount ∧ moneyAmount quote.amount = .ok amount ∧
          moneyAmount (some estimate.total) = .ok amount ∧
          quote.Matches survey currency estimate.version := by
  intro Accepted
  have hrecorded : Recorded number (fareHistory number fromisoformat calls) :=
    Recorded.fareHistory calls
  have hvalid : validateTables number (resolveTables number row moment).tables = .ok () := by
    rw [hrow]
    exact (hrecorded.resolveTables_valid moment).1
  have hiff : Accepted ↔ moment.utcoffset = none ∧
      SameFare number decimalText later payload.serviceType payload.vehicleClass
        survey.measuredKm moment.truncated estimate :=
    checkRide_iff_sameFare hsurvey hissued (currencyCode_mem hvalid hpriced) htext hbrings hothers
  refine ⟨hiff, ?_, ?_⟩
  · intro hnaive hsecond hkeeps
    refine hiff.mpr ⟨hnaive, sameFare_of_resolveTables ?_ hpriced⟩
    have hfold : (fareHistory number fromisoformat (calls ++ more)) =
        more.foldl (FareHistory.next number fromisoformat)
          (fareHistory number fromisoformat calls) := List.foldl_append
    calc resolveTables number later moment.truncated
        = resolveTables number row moment.truncated := by
          rw [hlater, hrow, hfold, resolveTables_along hrecorded hkeeps]
      _ = resolveTables number row moment := resolveTables_truncated hsecond
  · intro quote survey currency estimate confirmed amount
    exact validateFareQuote_eq_ok

/-! ### A ride in the city -/

def cityPayload (amount : ℚ) : RidePayload where
  idempotencyKey := some "city"
  pickup := some { latitude := some 0, longitude := some 0 }
  dropoff := some { latitude := some 0, longitude := some 0 }
  serviceType := some "on_demand"
  vehicleClass := some "comfort"
  fareQuoteToken := some "token"
  confirmedFareAmount := some amount
  paymentMethod := some "cash"

def citySurvey : RideSurvey := ⟨"city", "on_demand", "comfort", 1, ⟨0, 0⟩, ⟨0, 0⟩, 5⟩

/-- Fifty seconds past midnight. -/
def cityMoment : DateTime := ⟨50000000, none⟩

def cityQuote (amount : ℚ) (version : String) : FareQuote where
  serviceType := "on_demand"
  vehicleClass := "comfort"
  currency := "USD"
  amount := some amount
  fareVersion := version
  pickup := (0, 0)
  dropoff := (0, 0)
  distanceKm := 5000000
  quotedAt := ""

def cityHelpers (quote : FareQuote) : RideHelpers where
  fromisoformat := fun _ => some cityMoment
  snapshot := fun _ _ _ => .ok ⟨0, 0⟩
  measuredDistance := fun _ _ => some 5
  resolveSchedule := fun _ _ => .error ""
  unsign := fun _ => some (quote, 0)

def cityWorld : RideWorld where
  now := 60000000
  estimate := fun _ _ _ _ => unpriced
  readyMethods := fun _ _ _ => ["cash"]

/-- Publishes tables with the base fare, in force from the second given. -/
def publishFrom (second : ℤ) (onDemand : ℤ) : FareUpdate :=
  ⟨tablesWith (.int onDemand) (.int 2), 1, .datetime ⟨second * 1000000, some 0⟩, ⟨0, some 0⟩, true⟩

/-- A quote with the first tables is accepted after others were staged. -/
theorem city_quote_accepted :
    ∃ draft, checkRide (cityHelpers (cityQuote 20 "1"))
        (cityWorld.pricedBy (fun _ => none) (fun _ => none)
          (fareHistory (fun _ => none) (fun _ => none) [publishFrom 0 10, publishFrom 100 20]).row)
        7 (cityPayload 20) = .ok draft ∧
      some draft.trip.acceptedFareAmount = some 20 ∧ draft.trip.fareVersion = "1" := by
  have hsurvey : surveyRide (cityHelpers (cityQuote 20 "1")) (cityPayload 20) = .ok citySurvey :=
    eq_ok_of_toOption (by decide +kernel)
  have hpriced : estimateAt (fun _ => none) (fun _ => none)
      (fareHistory (fun _ => none) (fun _ => none) [publishFrom 0 10]).row
      (cityPayload 20).serviceType (cityPayload 20).vehicleClass citySurvey.measuredKm cityMoment =
        some ⟨20, some "USD", "1"⟩ := by decide +kernel
  have hissued : issueFareQuote (fun _ => "") (cityPayload 20).serviceType
      (cityPayload 20).vehicleClass ⟨20, some "USD", "1"⟩ citySurvey.pickup citySurvey.dropoff
      citySurvey.measuredKm cityMoment = .ok (cityQuote 20 "1") :=
    eq_ok_of_toOption (by decide +kernel)
  have hbrings : Brings (cityHelpers (cityQuote 20 "1")) cityWorld (cityPayload 20)
      (cityQuote 20 "1") :=
    ⟨⟨0, rfl, by decide +kernel⟩, by decide +kernel, rfl⟩
  have hothers : ∀ row estimate, OtherChecks (cityHelpers (cityQuote 20 "1"))
      (cityWorld.pricedBy (fun _ => none) (fun _ => none) row) 7 (cityPayload 20) citySurvey
      estimate := by
    intro row estimate
    have hmode : (cityPayload 20).mode = "instant" := by decide +kernel
    refine ⟨⟨none, eq_ok_of_toOption (by decide +kernel)⟩, by decide +kernel, ?_, ?_⟩
    · exact List.mem_singleton.mpr (by decide +kernel)
    · refine ⟨(cityWorld.now, "immediate"), ?_⟩
      unfold pickupTimes
      rw [hmode]
      rfl
  have hkeeps : Along (FareHistory.next (fun _ => none) fun _ => none)
      (Keeps (fun _ => none) (fun _ => none) cityMoment.truncated)
      (fareHistory (fun _ => none) (fun _ => none) [publishFrom 0 10]) [publishFrom 100 20] := by
    refine along_cons.mpr ⟨?_, along_nil _ _ _⟩
    intro effective tables hcall
    obtain ⟨-, heffective, -⟩ := FareUpdate.published_eq_some hcall
    obtain rfl := Except.ok.inj heffective
    have hlength : (fareHistory (fun _ => none) (fun _ => none)
        [publishFrom 0 10]).written.length = 1 := by decide +kernel
    refine ⟨by decide +kernel, fun htwo => ?_⟩
    omega
  exact (quote_round_trip (fun _ => none) (fun _ => none) (fun _ => none) [publishFrom 0 10]
    [publishFrom 100 20] rfl rfl hsurvey hpriced hissued rfl hbrings (hothers _ _)).2.1 rfl
      (by decide +kernel) hkeeps

/-- With tables in force from 0 and others from 10, a quote at 50 is refused once a third version
is staged for 100. -/
theorem staged_update_refuses_quote :
    let priced := fun calls => cityWorld.pricedBy (fun _ => none) (fun _ => none)
      (fareHistory (fun _ => none) (fun _ => none) calls).row
    let calls := [publishFrom 0 10, publishFrom 10 20]
    estimateAt (fun _ => none) (fun _ => none)
        (fareHistory (fun _ => none) (fun _ => none) calls).row (some "on_demand")
        (some "comfort") 5 cityMoment = some ⟨30, some "USD", "2"⟩ ∧
      (issueFareQuote (fun _ => "") (some "on_demand") (some "comfort") ⟨30, some "USD", "2"⟩
        ⟨0, 0⟩ ⟨0, 0⟩ 5 cityMoment).toOption = some (cityQuote 30 "2") ∧
      (checkRide (cityHelpers (cityQuote 30 "2")) (priced calls) 7
        (cityPayload 30)).toOption.isSome = true ∧
      (checkRide (cityHelpers (cityQuote 30 "2")) (priced (calls ++ [publishFrom 100 20])) 7
        (cityPayload 30)).toOption.isSome = false := by
  refine ⟨?_, ?_, ?_, ?_⟩ <;> decide +kernel

end RoundTrip

end Afcon360.Transport
