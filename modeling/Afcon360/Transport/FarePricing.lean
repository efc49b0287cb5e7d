import Afcon360.Transport.BookingKey
import Afcon360.Transport.FareHistory

/-!
# Pricing a trip

`calculate_estimate` prices a trip with the tables in force, and `calculate_final` the ride that
was made. Both compute with decimals of 28 digits, while the check of the tables reads floats.

A table's number becomes a decimal through its text. A Boolean passes the check as a float and
its text is no decimal; an infinite float is one, and so is a text whose decimal lies outside the
floats. `decimalText` is what `Decimal()` reads in a text.
-/

namespace Afcon360.Transport

open Foundation Foundation.Format

namespace Data

/-- `items.get(key, absent)` -/
def getOr (items : List (String × Data)) (key : String) (absent : Data) : Data :=
  (items.lookup key).getD absent

/-- The items of an object; of the checked tables only objects are asked for theirs. -/
def items : Data → List (String × Data)
  | dict items => items
  | _ => []

/-- `Decimal(str(value))`; an integer of more than 4300 digits has no text. -/
def toDecimal (decimalText : String → Option Number) : Data → Except ArithmeticError Number
  | int value => if |value| < 10 ^ 4300 then .ok (.finite value) else .error .invalidOperation
  | float value => .ok value
  | str value =>
    match decimalText value with
    | some amount => .ok amount
    | Option.none => .error .invalidOperation
  | none | bool _ | list _ | dict _ => .error .invalidOperation

/-- `int(value)` of an hour. -/
def hour? : Data → Option ℤ
  | bool value => some (if value then 1 else 0)
  | int value => some value
  | _ => Option.none

end Data

/-- What is asked for: the service and the class as texts, the distance as it comes, and the hour
of the reference time. -/
structure FareRequest where
  serviceType : Option String
  vehicleClass : Option String
  distanceKm : Data
  hour : ℤ

/-- What `calculate_estimate` returns. The numbers of the inputs and of the breakdown are given
before they become floats. -/
structure PricedTrip where
  currency : Data
  version : ℕ
  effectiveFrom : Option DateTime
  serviceType : String
  vehicleClass : String
  distanceKm : Number
  surgeHour : ℤ
  baseFare : Number
  distanceCharge : Number
  classMultiplier : Number
  surgeMultiplier : Number
  total : Number

namespace FareRequest

def serviceKey (request : FareRequest) : String :=
  (textOr request.serviceType "on_demand").toLower

def classKey (request : FareRequest) : String := (textOr request.vehicleClass "comfort").toLower

end FareRequest

section Pricing

variable (decimalText : String → Option Number)

/-- The base fare of a service, or that of a ride on demand. -/
def baseFareOf (tables : Data) (request : FareRequest) : Data :=
  let baseMap := (Data.get tables.items "base_fares").items
  Data.getOr baseMap request.serviceKey (Data.getOr baseMap "on_demand" (.int 10))

/-- The multiplier of a class, or that of the default class. -/
def classMultiplierOf (tables : Data) (request : FareRequest) : Data :=
  let classMap := (Data.get tables.items "class_multipliers").items
  Data.getOr classMap request.classKey (Data.getOr classMap "comfort" (.float (.finite 1)))

def rateOf (tables : Data) : Data :=
  Data.getOr tables.items "distance_rate_per_km" (.float (.finite (5 / 2)))

def peakMultiplierOf (tables : Data) : Data :=
  Data.getOr (Data.get tables.items "peak").items "multiplier" (.float (.finite 1))

/-- The pairs under `peak.hours`. -/
def peakHoursOf (tables : Data) : List Data :=
  match Data.get (Data.get tables.items "peak").items "hours" with
  | .list pairs => pairs
  | _ => []

/-- The loop over the pairs: whether one of them has the hour. A pair that cannot be read ends the
loop. -/
def inPeak (hour : ℤ) : List Data → Bool
  | [] => false
  | .list [first, last] :: rest =>
    match first.hour?, last.hour? with
    | some start, some finish => (start ≤ hour && hour < finish) || inPeak hour rest
    | _, _ => false
  | _ :: _ => false

/-- `_surge_for_hour`: off the peak where anything fails. -/
def surgeForHour (hour : ℤ) (tables : Data) : Number :=
  match (peakMultiplierOf tables).toDecimal decimalText with
  | .error _ => .finite 1
  | .ok multiplier => if inPeak hour (peakHoursOf tables) then multiplier else .finite 1

/-- `DEFAULT_DISTANCE_KM` unless the tables have another. -/
def defaultDistance (tables : Data) : Except ArithmeticError Number :=
  (Data.getOr tables.items "default_distance_km" (.int 5)).toDecimal decimalText

/-- The distance as it can be read. -/
def readDistance (tables distance : Data) : Except ArithmeticError Number :=
  match distance with
  | .none => defaultDistance decimalText tables
  | distance =>
    match distance.toDecimal decimalText with
    | .ok km => .ok km
    | .error _ => defaultDistance decimalText tables

/-- The distance that is priced; a negative one is replaced. -/
def distanceOf (tables distance : Data) : Except ArithmeticError Number := do
  let km ← readDistance decimalText tables distance
  let negative ← km.less (.finite 0)
  if negative then defaultDistance decimalText tables else .ok km

/-- `calculate_estimate` with the tables that were resolved. -/
def calculateEstimate (resolved : ResolvedTables) (request : FareRequest) :
    Except ArithmeticError PricedTrip := do
  let tables := resolved.tables
  let base ← (baseFareOf tables request).toDecimal decimalText
  let km ← distanceOf decimalText tables request.distanceKm
  let multiplier ← (classMultiplierOf tables request).toDecimal decimalText
  let surge := surgeForHour decimalText request.hour tables
  let rate ← (rateOf tables).toDecimal decimalText
  let charge ← decimal.mul km rate
  let subtotal ← decimal.add base charge
  let scaled ← decimal.mul subtotal multiplier
  let total ← decimal.mul scaled surge
  .ok {
    currency := Data.getOr tables.items "currency" (.str "USD")
    version := resolved.version
    effectiveFrom := resolved.effectiveFrom
    serviceType := request.serviceKey
    vehicleClass := request.classKey
    distanceKm := km
    surgeHour := request.hour
    baseFare := base
    distanceCharge := charge
    classMultiplier := multiplier
    surgeMultiplier := surge
    total := total }

/-- `_dec`: what is absent or cannot be read is nothing. -/
def dec (value : Data) : Number :=
  match value.toDecimal decimalText with
  | .ok amount => amount
  | .error _ => .finite 0

def minimumFareOf (tables : Data) : Data :=
  Data.getOr tables.items "minimum_fare" (.float (.finite 5))

/-- `calculate_final` with the tables that were resolved. -/
def calculateFinal (tables basePrice tollFees parkingFees promotionDiscount minimumFare : Data) :
    Except ArithmeticError Number := do
  let floor ← match minimumFare with
    | .none => (minimumFareOf tables).toDecimal decimalText
    | minimum => .ok (dec decimalText minimum)
  let withTolls ← decimal.add (dec decimalText basePrice) (dec decimalText tollFees)
  let withParking ← decimal.add withTolls (dec decimalText parkingFees)
  let finalPrice ← decimal.add withParking (dec decimalText promotionDiscount).neg
  let below ← finalPrice.less floor
  .ok (if below then floor else finalPrice)

end Pricing

/-! ## The fare -/

/-- The numbers a fare is made of. -/
structure Fares where
  base : ℚ
  rate : ℚ
  multiplier : ℚ
  surge : ℚ
  km : ℚ

namespace Fares

/-- What the trip costs. -/
def exact (fares : Fares) : ℚ :=
  (fares.base + fares.km * fares.rate) * fares.multiplier * fares.surge

def charge (fares : Fares) : ℚ := decimal.round (fares.km * fares.rate)

def subtotal (fares : Fares) : ℚ := decimal.round (fares.base + fares.charge)

def scaled (fares : Fares) : ℚ := decimal.round (fares.subtotal * fares.multiplier)

/-- What the decimals come to. -/
def total (fares : Fares) : ℚ := decimal.round (fares.scaled * fares.surge)

/-- No step leaves the decimals. -/
structure InRange (fares : Fares) : Prop where
  charge : decimal.Holds (fares.km * fares.rate)
  subtotal : decimal.Holds (fares.base + fares.charge)
  scaled : decimal.Holds (fares.subtotal * fares.multiplier)
  total : decimal.Holds (fares.scaled * fares.surge)

structure Nonneg (fares : Fares) : Prop where
  base : 0 ≤ fares.base
  rate : 0 ≤ fares.rate
  multiplier : 0 ≤ fares.multiplier
  surge : 0 ≤ fares.surge
  km : 0 ≤ fares.km

/-- Each number is zero or has at most 249999 digits before the point or behind it. -/
structure Moderate (fares : Fares) : Prop where
  base : decimal.Moderate 249999 fares.base
  rate : decimal.Moderate 249999 fares.rate
  multiplier : decimal.Moderate 249999 fares.multiplier
  surge : decimal.Moderate 249999 fares.surge
  km : decimal.Moderate 249999 fares.km

variable {fares fares' : Fares}

theorem Moderate.nonneg (h : fares.Moderate) : fares.Nonneg :=
  ⟨h.base.nonneg, h.rate.nonneg, h.multiplier.nonneg, h.surge.nonneg, h.km.nonneg⟩

theorem Nonneg.charge (h : fares.Nonneg) : 0 ≤ fares.charge :=
  round_nonneg (mul_nonneg h.km h.rate)

theorem Nonneg.subtotal (h : fares.Nonneg) : 0 ≤ fares.subtotal :=
  round_nonneg (add_nonneg h.base h.charge)

theorem Nonneg.scaled (h : fares.Nonneg) : 0 ≤ fares.scaled :=
  round_nonneg (mul_nonneg h.subtotal h.multiplier)

theorem Nonneg.total (h : fares.Nonneg) : 0 ≤ fares.total :=
  round_nonneg (mul_nonneg h.scaled h.surge)

theorem total_mono (h : fares.Nonneg) {km : ℚ} (hkm : fares.km ≤ km) :
    fares.total ≤ { fares with km := km }.total := by
  have hcharge : fares.charge ≤ { fares with km := km }.charge :=
    round_mono (mul_nonneg h.km h.rate) (mul_le_mul_of_nonneg_right hkm h.rate)
  have hsubtotal : fares.subtotal ≤ { fares with km := km }.subtotal :=
    round_mono (add_nonneg h.base h.charge) (add_le_add_right hcharge fares.base)
  have hscaled : fares.scaled ≤ { fares with km := km }.scaled :=
    round_mono (mul_nonneg h.subtotal h.multiplier)
      (mul_le_mul_of_nonneg_right hsubtotal h.multiplier)
  exact round_mono (mul_nonneg h.scaled h.surge) (mul_le_mul_of_nonneg_right hscaled h.surge)

section Sizes

variable (h : fares.Moderate)

include h

theorem Moderate.product : decimal.Moderate 499998 (fares.km * fares.rate) := h.km.mul h.rate

theorem Moderate.charge : decimal.Moderate 499998 fares.charge :=
  h.product.round (by decide) (by decide)

theorem Moderate.sum : decimal.Moderate 499999 (fares.base + fares.charge) :=
  (h.base.mono (by decide)).add h.charge

theorem Moderate.subtotal : decimal.Moderate 499999 fares.subtotal :=
  h.sum.round (by decide) (by decide)

theorem Moderate.ofClass : decimal.Moderate 749998 (fares.subtotal * fares.multiplier) :=
  h.subtotal.mul h.multiplier

theorem Moderate.scaled : decimal.Moderate 749998 fares.scaled :=
  h.ofClass.round (by decide) (by decide)

theorem Moderate.surged : decimal.Moderate 999997 (fares.scaled * fares.surge) :=
  h.scaled.mul h.surge

theorem Moderate.inRange : fares.InRange where
  charge := h.product.holds (by decide) (by decide)
  subtotal := h.sum.holds (by decide) (by decide)
  scaled := h.ofClass.holds (by decide) (by decide)
  total := h.surged.holds (by decide) (by decide)

/-- The fare is the exact one up to four roundings. -/
theorem Moderate.near : decimal.Near 4 fares.exact fares.total := by
  have hcharge : decimal.Near 1 (fares.km * fares.rate) fares.charge :=
    (Near.refl decimal _).round h.product (by decide)
  have hsubtotal : decimal.Near 2 (fares.base + fares.km * fares.rate) fares.subtotal :=
    (hcharge.add h.base.nonneg).round h.sum (by decide)
  have hscaled : decimal.Near 3 ((fares.base + fares.km * fares.rate) * fares.multiplier)
      fares.scaled := (hsubtotal.mul h.multiplier.nonneg).round h.ofClass (by decide)
  exact (hscaled.mul h.surge.nonneg).round h.surged (by decide)

end Sizes

end Fares

/-! ## What the tables configure -/

/-- One of the pairs begins at the hour or before it and ends after it. -/
def PeakHour (tables : Data) (hour : ℤ) : Prop :=
  ∃ first last start finish, Data.list [first, last] ∈ peakHoursOf tables ∧
    first.hour? = some start ∧ last.hour? = some finish ∧ start ≤ hour ∧ hour < finish

/-- The number that a value is; a Boolean is 0 or 1. -/
def Data.number? (decimalText : String → Option Number) : Data → Option ℚ
  | .bool value => some (if value then 1 else 0)
  | value =>
    match value.toDecimal decimalText with
    | .ok (.finite amount) => some amount
    | _ => Option.none

/-- The fares that are read for a request. -/
structure Reads (decimalText : String → Option Number) (tables : Data) (request : FareRequest)
    (fares : Fares) : Prop where
  base : (baseFareOf tables request).toDecimal decimalText = .ok (.finite fares.base)
  rate : (rateOf tables).toDecimal decimalText = .ok (.finite fares.rate)
  multiplier : (classMultiplierOf tables request).toDecimal decimalText =
    .ok (.finite fares.multiplier)
  surge : surgeForHour decimalText request.hour tables = .finite fares.surge
  km : distanceOf decimalText tables request.distanceKm = .ok (.finite fares.km)

section Reads

variable {number decimalText : String → Option Number} {tables : Data} {request : FareRequest}
variable {fares : Fares} {hour : ℤ}

theorem hour?_of_isHour {value : Data} (h : value.isHour = true) :
    ∃ hour, value.hour? = some hour := by
  cases value with
  | bool value => exact ⟨_, rfl⟩
  | int value => exact ⟨value, rfl⟩
  | _ => cases h

theorem inPeak_iff {pairs : List Data} (h : pairs.all Data.isHourPair = true) :
    inPeak hour pairs = true ↔
      ∃ first last start finish, Data.list [first, last] ∈ pairs ∧ first.hour? = some start ∧
        last.hour? = some finish ∧ start ≤ hour ∧ hour < finish := by
  induction pairs with
  | nil => simp [inPeak]
  | cons pair rest ih =>
    rw [List.all_cons, Bool.and_eq_true] at h
    obtain ⟨hpair, hrest⟩ := h
    unfold Data.isHourPair at hpair
    split at hpair
    next first last =>
      rw [Bool.and_eq_true] at hpair
      obtain ⟨start, hstart⟩ := hour?_of_isHour hpair.1
      obtain ⟨finish, hfinish⟩ := hour?_of_isHour hpair.2
      simp only [inPeak, hstart, hfinish, Bool.or_eq_true, Bool.and_eq_true, decide_eq_true_eq,
        ih hrest]
      constructor
      · rintro (⟨hlow, hhigh⟩ | ⟨first', last', start', finish', hmem, hread⟩)
        · exact ⟨first, last, start, finish, List.mem_cons_self, hstart, hfinish, hlow, hhigh⟩
        · exact ⟨first', last', start', finish', List.mem_cons_of_mem _ hmem, hread⟩
      · rintro ⟨first', last', start', finish', hmem, hstart', hfinish', hlow, hhigh⟩
        obtain heq | hmem := List.mem_cons.mp hmem
        · obtain ⟨rfl, hlist⟩ := List.cons.inj (Data.list.inj heq)
          obtain rfl := (List.cons.inj hlist).1
          rw [hstart] at hstart'
          rw [hfinish] at hfinish'
          cases hstart'
          cases hfinish'
          exact .inl ⟨hlow, hhigh⟩
        · exact .inr ⟨first', last', start', finish', hmem, hstart', hfinish', hlow, hhigh⟩
    · cases hpair

/-- What the check says of the peak. -/
theorem peak_of_valid (h : validateTables number tables = .ok ()) :
    (peakHoursOf tables).all Data.isHourPair = true ∧ peakMultiplierOf tables ≠ .bool false := by
  obtain ⟨items, rfl, hpeak, -⟩ := validateTables_ok h
  obtain ⟨peak, hours, amount, hdict, hhours, hpairs, hamount⟩ := validatePeak_ok hpeak
  obtain ⟨hfloat, hbelow⟩ := num_ok hamount
  have hitems : (Data.get (Data.dict items).items "peak").items = peak := by
    simp only [Data.items, hdict]
  have hlookup : peakMultiplierOf (.dict items) = Data.get peak "multiplier" := by
    unfold peakMultiplierOf
    rw [hitems]
    unfold Data.getOr
    unfold Data.get at hfloat ⊢
    cases hkey : peak.lookup "multiplier" with
    | some value => rfl
    | none =>
      rw [hkey] at hfloat
      cases hfloat
  constructor
  · simpa [peakHoursOf, Data.items, hdict, hhours] using hpairs
  · rw [hlookup]
    intro hfalse
    rw [hfalse] at hfloat
    cases hfloat
    simp [isBelow] at hbelow

theorem inPeak_peakHoursOf (h : validateTables number tables = .ok ()) :
    inPeak hour (peakHoursOf tables) = true ↔ PeakHour tables hour :=
  inPeak_iff (peak_of_valid h).1

/-- Off the peak hours there is no surge. -/
theorem surge_off_peak (h : validateTables number tables = .ok ()) (hpeak : ¬PeakHour tables hour) :
    surgeForHour decimalText hour tables = .finite 1 := by
  have hout : ¬inPeak hour (peakHoursOf tables) = true := fun hin =>
    hpeak ((inPeak_peakHoursOf h).mp hin)
  unfold surgeForHour
  split
  · rfl
  · rw [if_neg hout]

/-- In the peak hours the surge is the multiplier of the tables, where that is a number. -/
theorem surge_in_peak (h : validateTables number tables = .ok ()) (hpeak : PeakHour tables hour)
    {multiplier : ℚ} (hnumber : (peakMultiplierOf tables).number? decimalText = some multiplier) :
    surgeForHour decimalText hour tables = .finite multiplier := by
  have hin : inPeak hour (peakHoursOf tables) = true := (inPeak_peakHoursOf h).mpr hpeak
  have hfalse := (peak_of_valid h).2
  unfold surgeForHour
  unfold Data.number? at hnumber
  split at hnumber
  next value hvalue =>
    -- the text of a Boolean is no decimal, and one that passed is 1
    rw [hvalue] at hfalse ⊢
    cases value with
    | false => exact absurd rfl hfalse
    | true =>
      cases hnumber
      rfl
  · split at hnumber
    next amount hamount =>
      cases hnumber
      rw [hamount]
      exact if_pos hin
    · cases hnumber

theorem calculateEstimate_currency {resolved : ResolvedTables} {priced : PricedTrip}
    (h : calculateEstimate decimalText resolved request = .ok priced) :
    priced.currency = Data.getOr resolved.tables.items "currency" (.str "USD") := by
  obtain ⟨_, -, h⟩ := bind_eq_ok.mp h
  obtain ⟨_, -, h⟩ := bind_eq_ok.mp h
  obtain ⟨_, -, h⟩ := bind_eq_ok.mp h
  obtain ⟨_, -, h⟩ := bind_eq_ok.mp h
  obtain ⟨_, -, h⟩ := bind_eq_ok.mp h
  obtain ⟨_, -, h⟩ := bind_eq_ok.mp h
  obtain ⟨_, -, h⟩ := bind_eq_ok.mp h
  obtain ⟨_, -, h⟩ := bind_eq_ok.mp h
  cases h
  rfl

/-- A fare is a finite number exactly where the numbers it is made of are finite and no step
leaves the decimals. -/
theorem calculateEstimate_finite {resolved : ResolvedTables} {total : ℚ} :
    (∃ estimate, calculateEstimate decimalText resolved request = .ok estimate ∧
        estimate.total = .finite total) ↔
      ∃ fares, Reads decimalText resolved.tables request fares ∧ fares.InRange ∧
        fares.total = total := by
  constructor
  · rintro ⟨estimate, h, htotal⟩
    obtain ⟨base, hbase, h⟩ := bind_eq_ok.mp h
    obtain ⟨km, hkm, h⟩ := bind_eq_ok.mp h
    obtain ⟨multiplier, hmultiplier, h⟩ := bind_eq_ok.mp h
    obtain ⟨rate, hrate, h⟩ := bind_eq_ok.mp h
    obtain ⟨charge, hcharge, h⟩ := bind_eq_ok.mp h
    obtain ⟨subtotal, hsubtotal, h⟩ := bind_eq_ok.mp h
    obtain ⟨scaled, hscaled, h⟩ := bind_eq_ok.mp h
    obtain ⟨sum, hsum, h⟩ := bind_eq_ok.mp h
    cases h
    obtain rfl : sum = .finite total := htotal
    -- a finite result is one of finite numbers, from the last step to the first
    obtain ⟨scaled, surge, rfl, hsurge, hfourth, htotal⟩ := mul_eq_finite.mp hsum
    obtain ⟨subtotal, multiplier, rfl, rfl, hthird, rfl⟩ := mul_eq_finite.mp hscaled
    obtain ⟨base, charge, rfl, rfl, hsecond, rfl⟩ := add_eq_finite.mp hsubtotal
    obtain ⟨km, rate, rfl, rfl, hfirst, rfl⟩ := mul_eq_finite.mp hcharge
    exact ⟨⟨base, rate, multiplier, surge, km⟩, ⟨hbase, hrate, hmultiplier, hsurge, hkm⟩,
      ⟨hfirst, hsecond, hthird, hfourth⟩, htotal⟩
  · rintro ⟨fares, hreads, hrange, rfl⟩
    have hcharge : decimal.mul (.finite fares.km) (.finite fares.rate) =
        .ok (.finite fares.charge) := mul_eq_finite.mpr ⟨_, _, rfl, rfl, hrange.charge, rfl⟩
    have hsubtotal : decimal.add (.finite fares.base) (.finite fares.charge) =
        .ok (.finite fares.subtotal) := add_eq_finite.mpr ⟨_, _, rfl, rfl, hrange.subtotal, rfl⟩
    have hscaled : decimal.mul (.finite fares.subtotal) (.finite fares.multiplier) =
        .ok (.finite fares.scaled) := mul_eq_finite.mpr ⟨_, _, rfl, rfl, hrange.scaled, rfl⟩
    have htotal : decimal.mul (.finite fares.scaled) (.finite fares.surge) =
        .ok (.finite fares.total) := mul_eq_finite.mpr ⟨_, _, rfl, rfl, hrange.total, rfl⟩
    refine ⟨?estimate, ?run, ?total⟩
    case run =>
      simp only [calculateEstimate, hreads.base, hreads.km, hreads.multiplier, hreads.rate,
        hreads.surge, bind, Except.bind, hcharge, hsubtotal, hscaled, htotal]
      rfl
    case total => rfl

theorem finite_unique {value : Except ArithmeticError Number} {x y : ℚ}
    (h : value = .ok (.finite x)) (h' : value = .ok (.finite y)) : x = y :=
  Number.finite.inj (Except.ok.inj (h.symm.trans h'))

/-- Two readings of a request that differ in the distance. -/
theorem reads_distance {distance : Data} {fares' : Fares}
    (h : Reads decimalText tables request fares)
    (h' : Reads decimalText tables { request with distanceKm := distance } fares') :
    fares' = { fares with km := fares'.km } := by
  have hbase := finite_unique h'.base h.base
  have hrate := finite_unique h'.rate h.rate
  have hmultiplier := finite_unique h'.multiplier h.multiplier
  have hsurge : fares'.surge = fares.surge := Number.finite.inj (h'.surge.symm.trans h.surge)
  cases fares'
  simp only at hbase hrate hmultiplier hsurge ⊢
  rw [hbase, hrate, hmultiplier, hsurge]

theorem reads_unique {fares' : Fares} (h : Reads decimalText tables request fares)
    (h' : Reads decimalText tables request fares') : fares = fares' := by
  have hkm : fares'.km = fares.km := finite_unique h'.km h.km
  rw [reads_distance h h', hkm]

end Reads

/-! ## The final fare -/

section Final

variable {decimalText : String → Option Number} {tables : Data}
variable {basePrice tollFees parkingFees promotionDiscount : Data}

/-- The final fare is not less than the minimum. -/
theorem calculateFinal_floor {price : Number}
    (h : calculateFinal decimalText tables basePrice tollFees parkingFees promotionDiscount .none =
      .ok price) :
    ∃ floor, (minimumFareOf tables).toDecimal decimalText = .ok floor ∧
      price.less floor = .ok false := by
  obtain ⟨floor, hfloor, h⟩ := bind_eq_ok.mp h
  obtain ⟨_, -, h⟩ := bind_eq_ok.mp h
  obtain ⟨_, -, h⟩ := bind_eq_ok.mp h
  obtain ⟨final, -, h⟩ := bind_eq_ok.mp h
  obtain ⟨below, hbelow, h⟩ := bind_eq_ok.mp h
  cases h
  refine ⟨floor, hfloor, ?_⟩
  cases below with
  | false => exact hbelow
  | true =>
    cases floor with
    | finite x => simp [Number.less]
    | infinite negative => cases negative <;> rfl
    | nan => cases final <;> cases hbelow

/-- A trip fact as a decimal of moderate size. -/
def Fact (decimalText : String → Option Number) (value : Data) : Prop :=
  ∃ x, dec decimalText value = .finite x ∧ |x| ≤ (decimal.radix : ℚ) ^ (249999 : ℤ)

theorem calculateFinal_returns {minimum : ℚ}
    (hminimum : (minimumFareOf tables).toDecimal decimalText = .ok (.finite minimum))
    (hbase : Fact decimalText basePrice) (htolls : Fact decimalText tollFees)
    (hparking : Fact decimalText parkingFees) (hdiscount : Fact decimalText promotionDiscount) :
    ∃ price, calculateFinal decimalText tables basePrice tollFees parkingFees promotionDiscount
      .none = .ok (.finite price) ∧ minimum ≤ price := by
  obtain ⟨base, hbase, hbasele⟩ := hbase
  obtain ⟨tolls, htolls, htollsle⟩ := htolls
  obtain ⟨parking, hparking, hparkingle⟩ := hparking
  obtain ⟨discount, hdiscount, hdiscountle⟩ := hdiscount
  have hgrow : ∀ {x : ℚ} {k l : ℤ}, |x| ≤ (decimal.radix : ℚ) ^ k → k ≤ l →
      |x| ≤ (decimal.radix : ℚ) ^ l := fun hx hle => hx.trans (power_le hle)
  have hdiscountle' : |-discount| ≤ (decimal.radix : ℚ) ^ (250001 : ℤ) := by
    rw [abs_neg]
    exact hgrow hdiscountle (by decide)
  obtain ⟨withTolls, hfirst, hfirstle⟩ := add_of_abs_le (by decide) (by decide) hbasele htollsle
  obtain ⟨withParking, hsecond, hsecondle⟩ :=
    add_of_abs_le (by decide) (by decide) hfirstle (hgrow hparkingle (by decide))
  obtain ⟨final, hthird, -⟩ := add_of_abs_le (by decide) (by decide) hsecondle hdiscountle'
  refine ⟨if final < minimum then minimum else final, ?_, ?_⟩
  · simp only [calculateFinal, hminimum, hbase, htolls, hparking, hdiscount, Number.neg, bind,
      Except.bind, hfirst, hsecond, hthird, Number.less]
    by_cases hless : final < minimum <;> simp [hless]
  · split
    · exact le_refl minimum
    · exact not_lt.mp ‹_›

end Final

/-! ## Accepted tables -/

/-- With tables that pass their check a fare is a finite number exactly where the numbers it is
made of are finite decimals and no step leaves the decimals. Where they are of moderate size the
fare is near the exact one, which has the peak multiplier in the peak hours alone; where they are
not negative it does not fall with the distance; and a final fare is not below the minimum. -/
theorem accepted_tables_price (number decimalText : String → Option Number) {tables : Data}
    (h : validateTables number tables = .ok ()) (version : ℕ) (effectiveFrom : Option DateTime) :
    let estimate := calculateEstimate decimalText ⟨tables, version, effectiveFrom⟩
    (∀ request total,
      (∃ priced, estimate request = .ok priced ∧ priced.total = .finite total) ↔
        ∃ fares, Reads decimalText tables request fares ∧ fares.InRange ∧ fares.total = total) ∧
    (∀ request fares, Reads decimalText tables request fares → fares.Moderate →
      ∃ priced total, estimate request = .ok priced ∧ priced.total = .finite total ∧ 0 ≤ total ∧
        decimal.Near 4 fares.exact total) ∧
    (∀ request fares, Reads decimalText tables request fares →
      (¬PeakHour tables request.hour → fares.surge = 1) ∧
      (PeakHour tables request.hour → ∀ multiplier,
        (peakMultiplierOf tables).number? decimalText = some multiplier →
          fares.surge = multiplier)) ∧
    (∀ request fares distance fares', Reads decimalText tables request fares → fares.Nonneg →
      Reads decimalText tables { request with distanceKm := distance } fares' →
      fares.km ≤ fares'.km → ∀ priced priced' total total',
        estimate request = .ok priced → priced.total = .finite total →
        estimate { request with distanceKm := distance } = .ok priced' →
        priced'.total = .finite total' → total ≤ total') ∧
    ∀ basePrice tollFees parkingFees promotionDiscount,
      (∀ price, calculateFinal decimalText tables basePrice tollFees parkingFees promotionDiscount
          .none = .ok price →
        ∃ floor, (minimumFareOf tables).toDecimal decimalText = .ok floor ∧
          price.less floor = .ok false) ∧
      ∀ minimum, (minimumFareOf tables).toDecimal decimalText = .ok (.finite minimum) →
        Fact decimalText basePrice → Fact decimalText tollFees →
        Fact decimalText parkingFees → Fact decimalText promotionDiscount →
        ∃ price, calculateFinal decimalText tables basePrice tollFees parkingFees
          promotionDiscount .none = .ok (.finite price) ∧ minimum ≤ price := by
  intro estimate
  refine ⟨?_, ?_, ?_, ?_, ?_⟩
  · intro request total
    exact calculateEstimate_finite
  · intro request fares hreads hmoderate
    obtain ⟨priced, hpriced, htotal⟩ : ∃ priced, estimate request = .ok priced ∧
        priced.total = .finite fares.total :=
      calculateEstimate_finite.mpr ⟨fares, hreads, hmoderate.inRange, rfl⟩
    exact ⟨priced, fares.total, hpriced, htotal, hmoderate.nonneg.total, hmoderate.near⟩
  · intro request fares hreads
    constructor
    · intro hpeak
      exact Number.finite.inj (hreads.surge.symm.trans (surge_off_peak h hpeak))
    · intro hpeak multiplier hmultiplier
      exact Number.finite.inj (hreads.surge.symm.trans (surge_in_peak h hpeak hmultiplier))
  · intro request fares distance fares' hreads hnonneg hreads' hkm priced priced' total total'
      hpriced htotal hpriced' htotal'
    have hfares : fares.total = total := by
      obtain ⟨found, hfound, -, rfl⟩ := calculateEstimate_finite.mp ⟨priced, hpriced, htotal⟩
      rw [reads_unique hreads hfound]
    have hfares' : fares'.total = total' := by
      obtain ⟨found, hfound, -, rfl⟩ := calculateEstimate_finite.mp ⟨priced', hpriced', htotal'⟩
      rw [reads_unique hreads' hfound]
    rw [← hfares, ← hfares', reads_distance hreads hreads']
    exact Fares.total_mono hnonneg hkm
  · intro basePrice tollFees parkingFees promotionDiscount
    constructor
    · intro price hprice
      exact calculateFinal_floor hprice
    · intro minimum hminimum hbase htolls hparking hdiscount
      exact calculateFinal_returns hminimum hbase htolls hparking hdiscount

/-- A default ride at eight in the morning. -/
theorem morning_ride_priced :
    ∃ priced total, calculateEstimate (fun _ => none) ⟨defaultTables, fareVersion, none⟩
        ⟨none, none, .none, 8⟩ = .ok priced ∧
      priced.total = .finite total ∧ 0 ≤ total ∧ decimal.Near 4 (351 / 10) total := by
  let fares : Fares := ⟨10, 5 / 2, 6 / 5, 13 / 10, 5⟩
  have hreads : Reads (fun _ => none) defaultTables ⟨none, none, .none, 8⟩ fares := by
    refine ⟨?_, ?_, ?_, ?_, ?_⟩
    · exact eq_ok_of_toOption (by decide +kernel)
    · exact eq_ok_of_toOption (by decide +kernel)
    · exact eq_ok_of_toOption (by decide +kernel)
    · decide +kernel
    · exact eq_ok_of_toOption (by decide +kernel)
  have hsize : ∀ x : ℚ, 1 ≤ x → x ≤ 10 → decimal.Moderate 249999 x := by
    intro x hlow hhigh
    refine Moderate.mono (k := 1) (.inr ⟨?_, ?_⟩) (by decide)
    · exact le_trans (by norm_num [decimal]) hlow
    · exact hhigh.trans (by norm_num [decimal])
  have hmoderate : fares.Moderate := by
    refine ⟨?_, ?_, ?_, ?_, ?_⟩ <;> exact hsize _ (by norm_num [fares]) (by norm_num [fares])
  have hexact : fares.exact = 351 / 10 := by norm_num [Fares.exact, fares]
  rw [← hexact]
  exact (accepted_tables_price (fun _ => none) (fun _ => none)
    (validateTables_defaultTables (fun _ => none)) fareVersion none).2.1 _ fares hreads hmoderate

/-- The default tables with the rides on demand and the rate given. -/
def tablesWith (onDemand rate : Data) : Data :=
  .dict [("base_fares", .dict [("on_demand", onDemand)]), ("distance_rate_per_km", rate),
    ("class_multipliers", .dict [("comfort", .int 1)]), ("minimum_fare", .int 5),
    ("peak", .dict peakHours), ("currency", .str "USD")]

/-- The texts of infinity. -/
def infinityText (text : String) : Option Number :=
  if text = "inf" then some (.infinite false) else none

/-- Tables with a Boolean base fare and tables with an infinite rate pass. With the former no ride
on demand has a price, and with the latter its price is infinite. -/
theorem boolean_and_infinite_fares :
    let request : FareRequest := ⟨none, none, .none, 12⟩
    validateTables infinityText (tablesWith (.bool true) (.int 2)) = .ok () ∧
      (calculateEstimate infinityText ⟨tablesWith (.bool true) (.int 2), 1, none⟩
        request).toOption.isNone = true ∧
      validateTables infinityText (tablesWith (.int 10) (.str "inf")) = .ok () ∧
      (calculateEstimate infinityText ⟨tablesWith (.int 10) (.str "inf"), 1, none⟩
        request).toOption.map PricedTrip.total = some (.infinite false) := by
  refine ⟨?_, ?_, ?_, ?_⟩
  · exact eq_ok_of_toOption (by decide +kernel)
  · decide +kernel
  · exact eq_ok_of_toOption (by decide +kernel)
  · decide +kernel

end Afcon360.Transport
