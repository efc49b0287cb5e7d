import Afcon360.Foundation.Floating
import Afcon360.Foundation.Guard

/-!
# Fare tables

The tables an operator supplies are a JSON object. `validate_tables` checks their shape
before they are written and again whenever stored tables are read; tables that do not pass
are not used. The audited constants of the module stand in where nothing is configured.

`number` is what `float()` reads in a text. A float is given by the decimal that `repr` writes,
which lies on the same side of 0 and of 1.
-/

namespace Afcon360.Transport

open Foundation

/-- A decoded JSON value. -/
inductive Data
  | none
  | bool (value : Bool)
  | int (value : ℤ)
  | float (value : Number)
  | str (value : String)
  | list (items : List Data)
  | dict (items : List (String × Data))

namespace Data

/-- `float(value)` -/
def toFloat (number : String → Option Number) : Data → Except FloatError Number
  | bool value => .ok (.finite (if value then 1 else 0))
  | int value => floatOfInt value
  | float value => .ok value
  | str value =>
    match number value with
    | some amount => .ok amount
    | Option.none => .error .notNumeric
  | none | list _ | dict _ => .error .notNumeric

/-- `items.get(key)`. -/
def get (items : List (String × Data)) (key : String) : Data := (items.lookup key).getD none

/-- `isinstance(h, int) and 0 <= h <= 24`; a Boolean is an integer here. -/
def isHour : Data → Bool
  | bool _ => true
  | int value => 0 ≤ value ∧ value ≤ 24
  | _ => false

def isHourPair : Data → Bool
  | list [first, last] => first.isHour && last.isHour
  | _ => false

end Data

def requiredTableKeys : List String :=
  ["base_fares", "distance_rate_per_km", "class_multipliers", "minimum_fare", "peak",
    "currency"]

/-- The values of `Currency`. -/
def currencies : List String :=
  ["USD", "EUR", "GBP", "XOF", "XAF", "NGN", "KES", "GHS", "ZAR", "UGX"]

/-- A list of texts as it is printed. -/
def listText (texts : List String) : String :=
  "[" ++ ", ".intercalate (texts.map fun text => "'" ++ text ++ "'") ++ "]"

/-- `BASE_FARES`. -/
def baseFares : List (String × Data) :=
  [("on_demand", .float (.finite 10)), ("airport_transfer", .float (.finite 25)),
    ("stadium_shuttle", .float (.finite 15)), ("hotel_transfer", .float (.finite 20)),
    ("city_tour", .float (.finite 30))]

/-- `CLASS_MULTIPLIERS`. -/
def classMultipliers : List (String × Data) :=
  [("economy", .float (.finite 1)), ("comfort", .float (.finite (6 / 5))),
    ("premium", .float (.finite (3 / 2))), ("van", .float (.finite (9 / 5))),
    ("luxury", .float (.finite 2))]

/-- `PEAK_HOURS` and `PEAK_MULTIPLIER`. -/
def peakHours : List (String × Data) :=
  [("hours", .list [.list [.int 7, .int 10], .list [.int 17, .int 20]]),
    ("multiplier", .float (.finite (13 / 10)))]

/-- `_default_tables`. -/
def defaultTables : Data :=
  .dict [("base_fares", .dict baseFares), ("distance_rate_per_km", .float (.finite (5 / 2))),
    ("class_multipliers", .dict classMultipliers), ("minimum_fare", .float (.finite 5)),
    ("peak", .dict peakHours), ("currency", .str "USD")]

section Validation

variable (number : String → Option Number)

/-- `number < minimum or number != number` -/
def isBelow (minimum : ℚ) : Number → Bool
  | .finite amount => amount < minimum
  | .infinite negative => negative
  | .nan => true

def isPositive : Number → Bool
  | .finite amount => 0 < amount
  | .infinite negative => !negative
  | .nan => false

/-- `_num`; the minimum is also given as it is printed. -/
def num (value : Data) (label : String) (minimum : ℚ) (shown : String) : Except String Number :=
  match value.toFloat number with
  | .error .notNumeric => .error (label ++ " must be numeric")
  | .error .overflow => .error "int too large to convert to float"
  | .ok amount =>
    if isBelow minimum amount then .error (label ++ " must be >= " ++ shown) else .ok amount

/-- The items of a non-empty object. -/
def objectItems (value : Data) (label : String) : Except String (List (String × Data)) :=
  match value with
  | .dict (item :: items) => .ok (item :: items)
  | _ => .error (label ++ " must be a non-empty object")

def validateBaseFares (value : Data) : Except String Unit := do
  let base ← objectItems value "base_fares"
  base.forM fun item => do
    let _ ← num number item.2 ("base_fares[" ++ item.1 ++ "]") 0 "0.0"

def validateClassMultipliers (value : Data) : Except String Unit := do
  let classes ← objectItems value "class_multipliers"
  classes.forM fun item => do
    let label := "class_multipliers[" ++ item.1 ++ "]"
    let multiplier ← num number item.2 label 0 "0.0"
    require (isPositive multiplier = true) (label ++ " must be > 0")

def validatePeak (value : Data) : Except String Unit :=
  match value with
  | .dict peak => do
      match Data.get peak "hours" with
      | .list hours =>
        require (hours ≠ [] ∧ hours.all Data.isHourPair)
          "peak.hours must be [[start, end], ...] hour pairs"
      | _ => .error "peak.hours must be [[start, end], ...] hour pairs"
      let _ ← num number (Data.get peak "multiplier") "peak.multiplier" 1 "1.0"
  | _ => .error "peak must be an object"

def validateCurrency (value : Data) : Except String Unit :=
  match value with
  | .none => .ok ()
  | .str currency => do
      require (currency.length = 3) "currency must be a 3-letter ISO code"
      require (currency.toUpper ∈ currencies) ("Unknown currency: " ++ currency)
  | _ => .error "currency must be a 3-letter ISO code"

/-- `validate_tables`. -/
def validateTables (tables : Data) : Except String Unit :=
  match tables with
  | .dict items => do
      let missing := requiredTableKeys.filter fun key => (items.lookup key).isNone
      require (missing = []) ("tables missing keys: " ++ listText missing)
      validateBaseFares number (Data.get items "base_fares")
      validateClassMultipliers number (Data.get items "class_multipliers")
      let _ ← num number (Data.get items "distance_rate_per_km") "distance_rate_per_km" 0 "0.0"
      let _ ← num number (Data.get items "minimum_fare") "minimum_fare" 0 "0.0"
      validatePeak number (Data.get items "peak")
      validateCurrency (Data.get items "currency")
  | _ => .error "tables must be an object"

/-- `_coerce_tables` of the object that holds the tables: they are used if they pass. An
integer too large for a float is an exception there; no update stores such tables. -/
def coerceTables (tables : Data) : Option Data :=
  match validateTables number tables with
  | .ok _ => some tables
  | .error _ => none

theorem coerceTables_of_valid {tables : Data} (h : validateTables number tables = .ok ()) :
    coerceTables number tables = some tables := by
  rw [coerceTables, h]

theorem isPositive_finite {amount : ℚ} : isPositive (.finite amount) = true ↔ 0 < amount :=
  decide_eq_true_iff

variable {number} in
/-- A number that passes is read as a float that is not below the minimum. -/
theorem num_ok {value : Data} {label shown : String} {minimum : ℚ} {amount : Number}
    (h : num number value label minimum shown = .ok amount) :
    value.toFloat number = .ok amount ∧ isBelow minimum amount = false := by
  unfold num at h
  split at h
  · cases h
  · cases h
  next found hfound =>
    by_cases hbelow : isBelow minimum found = true
    · rw [if_pos hbelow] at h
      cases h
    · rw [if_neg hbelow] at h
      cases h
      exact ⟨hfound, by simpa using hbelow⟩

variable {number} in
theorem validatePeak_ok {value : Data} (h : validatePeak number value = .ok ()) :
    ∃ peak hours amount, value = .dict peak ∧ Data.get peak "hours" = .list hours ∧
      hours.all Data.isHourPair = true ∧
      num number (Data.get peak "multiplier") "peak.multiplier" 1 "1.0" = .ok amount := by
  unfold validatePeak at h
  split at h
  next peak =>
    dsimp only at h
    split at h
    next hours hhours =>
      obtain ⟨hpairs, h⟩ := check_bind_eq_ok.mp h
      obtain ⟨amount, hamount, -⟩ := bind_eq_ok.mp h
      exact ⟨peak, hours, amount, rfl, hhours, (require_eq_ok.mp hpairs).2, hamount⟩
    · cases h
  · cases h

variable {number} in
theorem validateTables_ok {tables : Data} (h : validateTables number tables = .ok ()) :
    ∃ items, tables = .dict items ∧ validatePeak number (Data.get items "peak") = .ok () ∧
      validateCurrency (Data.get items "currency") = .ok () := by
  unfold validateTables at h
  split at h
  next items =>
    obtain ⟨-, h⟩ := check_bind_eq_ok.mp h
    obtain ⟨-, h⟩ := check_bind_eq_ok.mp h
    obtain ⟨-, h⟩ := check_bind_eq_ok.mp h
    obtain ⟨_, -, h⟩ := bind_eq_ok.mp h
    obtain ⟨_, -, h⟩ := bind_eq_ok.mp h
    obtain ⟨hpeak, hcurrency⟩ := check_bind_eq_ok.mp h
    exact ⟨items, rfl, hpeak, hcurrency⟩
  · cases h

theorem num_float {amount minimum : ℚ} {label shown : String} (h : minimum ≤ amount) :
    num number (.float (.finite amount)) label minimum shown = .ok (.finite amount) := by
  simp [num, Data.toFloat, isBelow, not_lt.mpr h]

theorem validateBaseFares_baseFares : validateBaseFares number (.dict baseFares) = .ok () := by
  simp [validateBaseFares, objectItems, baseFares, num_float, bind, Except.bind,
    pure, Except.pure]

theorem validateClassMultipliers_classMultipliers :
    validateClassMultipliers number (.dict classMultipliers) = .ok () := by
  have hcomfort : (0 : ℚ) < 6 / 5 := by norm_num
  have hpremium : (0 : ℚ) < 3 / 2 := by norm_num
  have hvan : (0 : ℚ) < 9 / 5 := by norm_num
  simp [validateClassMultipliers, objectItems, classMultipliers, num_float, isPositive_finite,
    require, bind, Except.bind, hcomfort, hcomfort.le, hpremium, hpremium.le, hvan, hvan.le]

theorem validatePeak_peakHours : validatePeak number (.dict peakHours) = .ok () := by
  have hmultiplier : (1 : ℚ) ≤ 13 / 10 := by norm_num
  simp [validatePeak, Data.get, peakHours, List.lookup_cons, Data.isHourPair, Data.isHour,
    num_float, hmultiplier, require, bind, Except.bind, pure, Except.pure]

/-- The tables that stand in pass their own check. -/
theorem validateTables_defaultTables : validateTables number defaultTables = .ok () := by
  have hcurrency : validateCurrency (.str "USD") = .ok () := by decide +kernel
  have hdistance : (0 : ℚ) ≤ 5 / 2 := by norm_num
  simp [validateTables, defaultTables, requiredTableKeys, List.lookup_cons, Data.get,
    validateBaseFares_baseFares, validateClassMultipliers_classMultipliers, num_float,
    hdistance, validatePeak_peakHours, hcurrency, require, bind,
    Except.bind]

end Validation

end Afcon360.Transport
