import Afcon360.Foundation.Precision
import Afcon360.Foundation.Run

/-!
# Rates with safety halts

`FXService` keeps one rate for each currency pair in `fx_rates`. `get_rate_safe` looks at the
rate that is kept, halts if it is too old, fetches a rate, halts if it is too far from the
one kept, and keeps the new one.

The rates come from a table in the source; each fetch varies the rate of the table by a
random factor, an input of the call here. Amounts are decimals of 28 digits; the column has
eight places. Times are microseconds, and `clock i` is the `i`-th reading of the clock.
`upper` is the upper case of a currency code.
-/

namespace Afcon360.Wallet

open Foundation

/-- A row of `fx_rates`. -/
structure FxRate where
  rate : ℚ
  source : String
  expiresAt : ℤ
  timestamp : ℤ
  spread : ℚ
deriving DecidableEq, Repr

inductive FxFailure
  | unsupportedCurrency (currency : String)
  | rateStale (message : String)
  | rateUnavailable (message : String)
  | rateDeviation (message : String)
deriving DecidableEq, Repr

/-- The rows of `fx_rates`; a pair has one row at most. -/
abbrev FxCache := String × String → Option FxRate

namespace FXService

def maxRateAge : ℤ := 120 * 1000000

def maxDeviationPercent : ℚ := 2

def defaultTtl : ℤ := 5 * 60 * 1000000

def defaultSpread : ℚ := 1 / 100

def supportedCurrencies : List String :=
  ["USD", "EUR", "GBP", "NGN", "UGX", "KES", "GHS", "ZAR",
    "RWF", "TZS", "BWP", "ZMW", "MWK", "AOA", "XAF", "XOF",
    "CDF", "SCR", "MUR", "CVE", "GMD", "SLL", "LRD"]

/-- A result of decimal arithmetic. -/
def decimal (x : ℚ) : ℚ := toPrecision 28 x

/-- A rate in the column `Numeric(20, 8)`. -/
def column (rate : ℚ) : ℚ := gridValue (10 ^ 8) (roundHalfUp (10 ^ 8) rate)

/-- `_get_mock_rates`. -/
def mockRates : List ((String × String) × ℚ) :=
  [ (("USD", "UGX"), 3800), (("USD", "NGN"), 1550), (("USD", "EUR"), 0.926),
    (("USD", "GBP"), 0.787), (("USD", "KES"), 128), (("USD", "GHS"), 12.5),
    (("USD", "TZS"), 2500), (("USD", "RWF"), 1300), (("USD", "ZAR"), 18.5),
    (("UGX", "USD"), 0.000263), (("UGX", "EUR"), 0.000244), (("UGX", "GBP"), 0.000207),
    (("UGX", "KES"), 0.0337), (("UGX", "TZS"), 0.658), (("UGX", "RWF"), 0.77),
    (("UGX", "ZAR"), 0.00487), (("UGX", "NGN"), 0.408), (("UGX", "GHS"), 0.0033),
    (("UGX", "BWP"), 0.0014), (("UGX", "ZMW"), 0.0023), (("UGX", "MWK"), 0.18),
    (("UGX", "AOA"), 0.022), (("UGX", "XAF"), 0.015), (("UGX", "XOF"), 0.015),
    (("UGX", "CDF"), 0.062), (("UGX", "SCR"), 0.0011), (("UGX", "MUR"), 0.012),
    (("UGX", "CVE"), 0.0027), (("UGX", "GMD"), 0.0045), (("UGX", "SLL"), 0.55),
    (("UGX", "LRD"), 0.0051),
    (("EUR", "UGX"), decimal (1 / 0.000244)), (("GBP", "UGX"), decimal (1 / 0.000207)),
    (("KES", "UGX"), decimal (1 / 0.0337)), (("NGN", "UGX"), decimal (1 / 0.408)) ]

/-- `_fetch_from_api_safe`, with the factor that was drawn. -/
def fetchFromApiSafe (base quote : String) (variation : ℚ) : Option ℚ :=
  match mockRates.lookup (base, quote) with
  | some rate => some (decimal (rate * variation))
  | none =>
    -- For the inverse pair too: `random` is imported in the branch above only, so that it is a
    -- local name without a value here, and the call fails.
    none

/-- `_calculate_deviation`, in percent. -/
def calculateDeviation (oldRate newRate : ℚ) : ℚ :=
  if oldRate = 0 then 100
  else
    gridValue 100 (roundHalfEven 100
      (decimal (decimal (|decimal (newRate - oldRate)| / oldRate) * 100)))

/-- `_update_rate_cache`: the row, as it is read back after the commit. -/
def updateRateCache (cache : FxCache) (base quote : String) (rate : ℚ) (clock : ℕ → ℤ) : FxRate :=
  { rate := column rate
    source := "api_live"
    expiresAt := clock 1 + defaultTtl
    -- A new row takes its timestamp when it is inserted.
    timestamp := if (cache (base, quote)).isSome then clock 1 else clock 2
    spread := defaultSpread }

/-- A call of `get_rate_safe`. -/
structure Call where
  base : String
  quote : String
  variation : ℚ
  clock : ℕ → ℤ

/-- The factor is one that `random.uniform(0.995, 1.005)` may draw. -/
def Call.Drawn (call : Call) : Prop := 0.995 ≤ call.variation ∧ call.variation ≤ 1.005

section

variable (upper : String → String)

/-- The pair that a call asks for. -/
def Call.pair (call : Call) : String × String := (upper call.base, upper call.quote)

/-- `get_rate_safe`. -/
def getRateSafe (cache : FxCache) (call : Call) : Except FxFailure FxRate × FxCache :=
  let base := upper call.base
  let quote := upper call.quote
  if base ∉ supportedCurrencies then (.error (.unsupportedCurrency base), cache)
  else if quote ∉ supportedCurrencies then (.error (.unsupportedCurrency quote), cache)
  else
    let cached := cache (base, quote)
    if cached.any (fun row => maxRateAge < call.clock 0 - row.timestamp) then
      (.error (.rateStale ("Exchange rate for " ++ base ++ "/" ++ quote ++ " is stale. " ++
        "Please try again in a few seconds while we fetch current rates.")), cache)
    else
      match fetchFromApiSafe base quote call.variation with
      | none =>
        (.error (.rateUnavailable ("Unable to fetch current exchange rate for " ++ base ++ "/" ++
          quote ++ ". " ++ "Please try again later.")), cache)
      | some rate =>
        if cached.any (fun row => maxDeviationPercent < calculateDeviation row.rate rate) then
          (.error (.rateDeviation ("Exchange rate for " ++ base ++ "/" ++ quote ++
            " is currently unstable. " ++
            "Conversion temporarily disabled. Please check back later.")), cache)
        else
          let row := updateRateCache cache base quote rate call.clock
          (.ok row, fun pair => if pair = (base, quote) then some row else cache pair)

/-- A call and the rows it leaves. -/
def step (cache : FxCache) (call : Call) (later : FxCache) : Prop :=
  (getRateSafe upper cache call).2 = later

end

/-- The rows before the first call. -/
def noRates : FxCache := fun _ => none

/-- The rate of a pair: that of the table, or one over the inverse one. -/
def providerRate (pair : String × String) : Option ℚ :=
  (mockRates.lookup pair).or
    ((mockRates.lookup (pair.2, pair.1)).map (fun inverse => decimal (1 / inverse)))

/-! ## Decimals -/

theorem decimal_near {x : ℚ} (hx : 0 ≤ x) :
    999 / 1000 * x ≤ decimal x ∧ decimal x ≤ 1001 / 1000 * x :=
  toPrecision_mem (by norm_num) hx

theorem abs_decimal_le (x : ℚ) : |decimal x| ≤ 1001 / 1000 * |x| :=
  abs_toPrecision_le (by norm_num) x

/-! ## The rates of the table -/

variable {upper : String → String} {cache later : FxCache} {call : Call} {pair : String × String}
  {rate variation variation' : ℚ}

theorem mockRates_bounds :
    ∀ entry ∈ mockRates, 1 / 5000 ≤ entry.2 ∧ entry.2 ≤ 5000 := by
  decide +kernel

theorem mockRates_supported :
    ∀ entry ∈ mockRates, entry.1.1 ∈ supportedCurrencies ∧ entry.1.2 ∈ supportedCurrencies := by
  decide +kernel

theorem mem_mockRates (h : mockRates.lookup pair = some rate) : (pair, rate) ∈ mockRates := by
  obtain ⟨before, after, hrates, -⟩ := List.lookup_eq_some_iff.mp h
  rw [hrates]
  simp

theorem supported_of_mockRates (h : mockRates.lookup pair = some rate) :
    pair.1 ∈ supportedCurrencies ∧ pair.2 ∈ supportedCurrencies :=
  mockRates_supported _ (mem_mockRates h)

/-- No rate is so small that the eight places of the column would not hold it. -/
theorem le_mockRate (h : mockRates.lookup pair = some rate) : 1 / 10000 ≤ rate := by
  have := (mockRates_bounds _ (mem_mockRates h)).1
  linarith

theorem fetchFromApiSafe_eq (base quote : String) (variation : ℚ) :
    fetchFromApiSafe base quote variation =
      (mockRates.lookup (base, quote)).map (fun rate => decimal (rate * variation)) := by
  unfold fetchFromApiSafe
  cases mockRates.lookup (base, quote) <;> rfl

theorem abs_column_sub_le (rate : ℚ) : |column rate - rate| ≤ 1 / 200000000 := by
  have := abs_gridValue_roundHalfUp_sub_le (n := 10 ^ 8) (by norm_num) rate
  norm_num at this
  exact this

/-- A varied rate is within six thousandths of the rate, with what decimals round. -/
theorem decimal_mem (hrate : 0 < rate) (hvariation : 0.995 ≤ variation ∧ variation ≤ 1.005) :
    0.994 * rate ≤ decimal (rate * variation) ∧ decimal (rate * variation) ≤ 1.00601 * rate := by
  obtain ⟨hlow, hhigh⟩ := hvariation
  have hpos : 0 ≤ rate * variation := by
    have : (0 : ℚ) ≤ variation := by linarith
    positivity
  have hbounds := decimal_near hpos
  constructor <;> nlinarith [hbounds.1, hbounds.2]

theorem column_mem (hrate : 1 / 10000 ≤ rate)
    (hvariation : 0.995 ≤ variation ∧ variation ≤ 1.005) :
    0.99395 * rate ≤ column (decimal (rate * variation)) ∧
      column (decimal (rate * variation)) ≤ 1.00606 * rate := by
  have hbounds := decimal_mem (by linarith : 0 < rate) hvariation
  have herror := abs_le.mp (abs_column_sub_le (decimal (rate * variation)))
  constructor <;> linarith [hbounds.1, hbounds.2, herror.1, herror.2]

/-- A rate that was kept is never too far from one that is fetched. -/
theorem calculateDeviation_le (hrate : 1 / 10000 ≤ rate)
    (hvariation : 0.995 ≤ variation ∧ variation ≤ 1.005)
    (hvariation' : 0.995 ≤ variation' ∧ variation' ≤ 1.005) :
    calculateDeviation (column (decimal (rate * variation))) (decimal (rate * variation')) ≤
      maxDeviationPercent := by
  obtain ⟨hkeptLow, hkeptHigh⟩ := column_mem hrate hvariation
  obtain ⟨hlow, hhigh⟩ := decimal_mem (by linarith : 0 < rate) hvariation'
  generalize column (decimal (rate * variation)) = kept at *
  generalize decimal (rate * variation') = fetched at *
  have hkept : 0 < kept := by linarith
  have hdifference : |decimal (fetched - kept)| ≤ 0.0122 * rate := by
    have hrounded := abs_decimal_le (fetched - kept)
    have hdistance : |fetched - kept| ≤ 0.0121 * rate := by
      rw [abs_le]
      constructor <;> linarith
    linarith
  have hquotient : |decimal (fetched - kept)| / kept ≤ 0.0123 := by
    rw [div_le_iff₀ hkept]
    linarith
  have hnonneg : 0 ≤ |decimal (fetched - kept)| / kept := by positivity
  have hshare := decimal_near hnonneg
  have hpercent := decimal_near
    (by linarith [hshare.1] : 0 ≤ decimal (|decimal (fetched - kept)| / kept) * 100)
  have hsteps : roundHalfEven 100
      (decimal (decimal (|decimal (fetched - kept)| / kept) * 100)) ≤ 200 := by
    rw [roundHalfEven_le_iff]
    left
    push_cast
    linarith [hpercent.2, hshare.2]
  unfold calculateDeviation
  rw [if_neg hkept.ne', maxDeviationPercent, gridValue_le_iff (by norm_num)]
  norm_num
  exact_mod_cast hsteps

/-! ## The rates that are kept -/

/-- Every row has a rate of the table, varied by a factor that may be drawn. -/
def Kept (cache : FxCache) : Prop :=
  ∀ pair row, cache pair = some row → ∃ rate variation, mockRates.lookup pair = some rate ∧
    (0.995 ≤ variation ∧ variation ≤ 1.005) ∧ row.rate = column (decimal (rate * variation))

/-- No row is kept for the pair, or it is young enough. -/
def Fresh (cache : FxCache) (pair : String × String) (now : ℤ) : Prop :=
  ∀ row, cache pair = some row → now - row.timestamp ≤ maxRateAge

/-- A call is answered with the rate of the provider. -/
def Answers (upper : String → String) (cache : FxCache) (call : Call) : Prop :=
  ∀ rate, providerRate (call.pair upper) = some rate →
    ∃ row, (getRateSafe upper cache call).1 = .ok row ∧ row.rate = rate

theorem any_stale_iff {now : ℤ} :
    (cache pair).any (fun row => maxRateAge < now - row.timestamp) = true ↔
      ¬ Fresh cache pair now := by
  simp only [Option.any_eq_true, decide_eq_true_eq, Fresh, not_forall, not_le, exists_prop]

/-- A call that is answered is answered with a row that it keeps, and that has a varied rate of
the table; other pairs keep theirs. The row that was kept before is young enough. -/
theorem getRateSafe_cases (upper : String → String) (cache : FxCache) (call : Call) :
    ((∀ row, (getRateSafe upper cache call).1 ≠ .ok row) ∧
      (getRateSafe upper cache call).2 = cache) ∨
    ∃ row rate, mockRates.lookup (call.pair upper) = some rate ∧
      Fresh cache (call.pair upper) (call.clock 0) ∧
      row.rate = column (decimal (rate * call.variation)) ∧
      getRateSafe upper cache call =
        (.ok row, fun pair => if pair = call.pair upper then some row else cache pair) := by
  simp only [getRateSafe, fetchFromApiSafe_eq]
  split
  · exact .inl ⟨fun _ => by simp, rfl⟩
  split
  · exact .inl ⟨fun _ => by simp, rfl⟩
  split
  · exact .inl ⟨fun _ => by simp, rfl⟩
  rename_i hstale
  cases hrate : mockRates.lookup (upper call.base, upper call.quote) with
  | none => exact .inl ⟨fun _ => by simp, rfl⟩
  | some rate =>
    simp only [Option.map_some]
    split
    · exact .inl ⟨fun _ => by simp, rfl⟩
    · exact .inr ⟨_, rate, hrate, not_not.mp (mt any_stale_iff.mpr hstale), rfl, rfl⟩

theorem Kept.step (kept : Kept cache) (drawn : call.Drawn) (h : step upper cache call later) :
    Kept later := by
  obtain rfl : (getRateSafe upper cache call).2 = later := h
  obtain ⟨-, hsame⟩ | ⟨row, rate, hrate, -, hrow, hresult⟩ := getRateSafe_cases upper cache call
  · rw [hsame]
    exact kept
  · rw [hresult]
    intro pair other hother
    dsimp only at hother
    split at hother
    · rename_i hpair
      cases hother
      exact ⟨rate, call.variation, hpair ▸ hrate, drawn, hrow⟩
    · exact kept pair other hother

theorem kept_of_run {calls : List Call}
    (run : Run (Guarded (fun _ call => Call.Drawn call) (step upper)) noRates calls cache) :
    Kept cache :=
  run.invariant Kept (fun _ _ _ kept h => kept.step h.1 h.2) (fun _ _ h => by cases h)

/-- A call for a pair of the table is answered when no row is too old. -/
theorem getRateSafe_of_fresh (kept : Kept cache) (drawn : call.Drawn)
    (hrate : mockRates.lookup (call.pair upper) = some rate)
    (fresh : Fresh cache (call.pair upper) (call.clock 0)) :
    ∃ row, (getRateSafe upper cache call).1 = .ok row := by
  obtain ⟨hbase, hquote⟩ := supported_of_mockRates hrate
  have hfresh := mt any_stale_iff.mp (not_not.mpr fresh)
  have hnear : ¬ ((cache (call.pair upper)).any (fun row =>
      maxDeviationPercent < calculateDeviation row.rate (decimal (rate * call.variation)))) =
        true := by
    rw [Option.any_eq_true]
    rintro ⟨row, hrow, hfar⟩
    obtain ⟨other, variation, hother, hvariation, hkept⟩ := kept _ row hrow
    cases hrate.symm.trans hother
    rw [hkept, decide_eq_true_eq] at hfar
    exact absurd hfar (not_lt.mpr (calculateDeviation_le (le_mockRate hrate) hvariation drawn))
  refine ⟨updateRateCache cache (upper call.base) (upper call.quote)
    (decimal (rate * call.variation)) call.clock, ?_⟩
  simp only [Call.pair] at hbase hquote hfresh hnear hrate
  simp only [getRateSafe, fetchFromApiSafe_eq]
  rw [if_neg (not_not.mpr hbase), if_neg (not_not.mpr hquote), if_neg hfresh, hrate]
  simp only [Option.map_some]
  rw [if_neg hnear]

/-- Every answer has the rate of the table for the pair, varied. -/
theorem rate_of_answer {row : FxRate} (hanswer : (getRateSafe upper cache call).1 = .ok row) :
    ∃ rate, mockRates.lookup (call.pair upper) = some rate ∧
      Fresh cache (call.pair upper) (call.clock 0) ∧
      row.rate = column (decimal (rate * call.variation)) := by
  obtain ⟨hnone, -⟩ | ⟨answer, rate, hrate, hfresh, hrow, hresult⟩ :=
    getRateSafe_cases upper cache call
  · exact absurd hanswer (hnone row)
  · rw [hresult] at hanswer
    cases hanswer
    exact ⟨rate, hrate, hfresh, hrow⟩

theorem abs_column_sub_rate_le (hrate : mockRates.lookup pair = some rate)
    (hvariation : 0.995 ≤ variation ∧ variation ≤ 1.005) :
    |column (decimal (rate * variation)) - rate| ≤ 0.0061 * rate := by
  have hlow := le_mockRate hrate
  obtain ⟨hbelow, habove⟩ := column_mem hlow hvariation
  rw [abs_le]
  constructor <;> linarith

/-- In every state that calls lead to: a call is answered exactly when the table has the rate of
the pair itself and the row that is kept is not too old; it is answered with the rate of the
provider exactly when in addition the factor drawn changes none of the eight places; and every
answer is the rate of the table within six thousandths. -/
theorem rate_of_run {calls : List Call}
    (run : Run (Guarded (fun _ call => Call.Drawn call) (step upper)) noRates calls cache)
    (drawn : call.Drawn) :
    ((∃ row, (getRateSafe upper cache call).1 = .ok row) ↔
      (mockRates.lookup (call.pair upper)).isSome ∧
        Fresh cache (call.pair upper) (call.clock 0)) ∧
    (Answers upper cache call ↔ ∀ rate, providerRate (call.pair upper) = some rate →
      mockRates.lookup (call.pair upper) = some rate ∧
        Fresh cache (call.pair upper) (call.clock 0) ∧
        column (decimal (rate * call.variation)) = rate) ∧
    ∀ row, (getRateSafe upper cache call).1 = .ok row →
      ∃ rate, mockRates.lookup (call.pair upper) = some rate ∧
        row.rate = column (decimal (rate * call.variation)) ∧
        |row.rate - rate| ≤ 0.0061 * rate := by
  have kept := kept_of_run run
  refine ⟨⟨?_, ?_⟩, ⟨?_, ?_⟩, ?_⟩
  · rintro ⟨row, hanswer⟩
    obtain ⟨rate, hrate, hfresh, -⟩ := rate_of_answer hanswer
    exact ⟨hrate ▸ rfl, hfresh⟩
  · rintro ⟨hlisted, hfresh⟩
    obtain ⟨rate, hrate⟩ := Option.isSome_iff_exists.mp hlisted
    exact getRateSafe_of_fresh kept drawn hrate hfresh
  · intro answers rate hprovider
    obtain ⟨row, hanswer, hrow⟩ := answers rate hprovider
    obtain ⟨direct, hdirect, hfresh, hvaried⟩ := rate_of_answer hanswer
    have hsame : direct = rate := by
      rw [providerRate, hdirect, Option.some_or] at hprovider
      exact Option.some.inj hprovider
    subst hsame
    exact ⟨hdirect, hfresh, hvaried.symm.trans hrow⟩
  · intro h rate hprovider
    obtain ⟨hdirect, hfresh, hunchanged⟩ := h rate hprovider
    obtain ⟨row, hanswer⟩ := getRateSafe_of_fresh kept drawn hdirect hfresh
    obtain ⟨other, hother, -, hvaried⟩ := rate_of_answer hanswer
    cases hdirect.symm.trans hother
    exact ⟨row, hanswer, hvaried.trans hunchanged⟩
  · intro row hanswer
    obtain ⟨rate, hrate, -, hrow⟩ := rate_of_answer hanswer
    exact ⟨rate, hrate, hrow, hrow ▸ abs_column_sub_rate_le hrate drawn⟩

/-- A call for shillings, by the dollar. -/
def askUgx (variation : ℚ) (now : ℤ) : Call := ⟨"USD", "UGX", variation, fun _ => now⟩

/-- A second call a minute after the first is answered, with the rate of the table when the
factor drawn is one. -/
theorem rate_of_run_minute :
    (0.995 ≤ (1 : ℚ) ∧ (1 : ℚ) ≤ 1.005) ∧
    Answers id (getRateSafe id noRates (askUgx 1.005 0)).2 (askUgx 1 60000000) := by
  have drawn : (askUgx 1 60000000).Drawn := by unfold Call.Drawn askUgx; norm_num
  have first : (askUgx 1.005 0).Drawn := by unfold Call.Drawn askUgx; norm_num
  refine ⟨drawn, (rate_of_run (.single ⟨first, rfl⟩) drawn).2.1.mpr ?_⟩
  intro rate hrate
  obtain rfl : rate = 3800 := Option.some.inj (hrate.symm.trans (by decide +kernel))
  refine ⟨by decide +kernel, ?_, by decide +kernel⟩
  intro row hrow
  obtain rfl : row = ⟨3819, "api_live", 300000000, 0, 1 / 100⟩ :=
    Option.some.inj (hrow.symm.trans (by decide +kernel))
  decide

/-- A call for dollars, by the Kenyan shilling: the table has the inverse rate only. -/
def askKes (variation : ℚ) (now : ℤ) : Call := ⟨"KES", "USD", variation, fun _ => now⟩

/-- A pair that the table has in the other direction is not answered at all. A call two minutes
and a second after one that was answered is not answered either. -/
theorem inverse_and_stale :
    (askKes 1 0).Drawn ∧ (providerRate ("KES", "USD")).isSome ∧
    (∀ row, (getRateSafe id noRates (askKes 1 0)).1 ≠ .ok row) ∧
    ¬ Answers id noRates (askKes 1 0) ∧
    (askUgx 1.005 0).Drawn ∧ (askUgx 1 121000000).Drawn ∧
    ¬ Answers id (getRateSafe id noRates (askUgx 1.005 0)).2 (askUgx 1 121000000) := by
  have hinverse : (getRateSafe id noRates (askKes 1 0)).1 =
      .error (.rateUnavailable ("Unable to fetch current exchange rate for KES/USD. " ++
        "Please try again later.")) := by
    decide +kernel
  have hstale : (getRateSafe id (getRateSafe id noRates (askUgx 1.005 0)).2
      (askUgx 1 121000000)).1 = .error (.rateStale ("Exchange rate for USD/UGX is stale. " ++
        "Please try again in a few seconds while we fetch current rates.")) := by
    decide +kernel
  refine ⟨by unfold Call.Drawn askKes; norm_num, by decide +kernel, ?_, ?_,
    by unfold Call.Drawn askUgx; norm_num, by unfold Call.Drawn askUgx; norm_num, ?_⟩
  · intro row hanswer
    rw [hinverse] at hanswer
    cases hanswer
  · intro answers
    obtain ⟨row, hanswer, -⟩ := answers (decimal (1 / 128)) (by decide +kernel)
    rw [hinverse] at hanswer
    cases hanswer
  · intro answers
    obtain ⟨row, hanswer, -⟩ := answers 3800 (by decide +kernel)
    rw [hstale] at hanswer
    cases hanswer

end FXService

end Afcon360.Wallet
