import Afcon360.Wallet.Kyc

/-!
# Day windows on datetimes

`TimezoneEngine` and the daily bounds of `VolumeWindowCalculator`, on the datetimes they are
called with. A datetime may be naive: `utc_to_kampala` takes it for UTC, `kampala_to_utc` and
`get_day_start_utc` take it for Kampala time, and the window ends with it as it is, as a time
in UTC. A datetime outside the years 1 to 9999 is an `OverflowError`, here `none`.
-/

namespace Afcon360.Wallet

open TimezoneEngine

/-- `datetime.min`, in microseconds from the epoch. -/
def minWall : ℤ := -719162 * microsPerDay

/-- `datetime.max`. -/
def maxWall : ℤ := 2932897 * microsPerDay - 1

/-- A `datetime`: what its clock shows, in microseconds from the epoch, and the offset of its
`tzinfo`. -/
@[ext] structure Datetime where
  wall : ℤ
  tzinfo : Option ℤ
  range : minWall ≤ wall ∧ wall ≤ maxWall

namespace Datetime

/-- The instant of a datetime; a naive one is in UTC, as timestamps are stored. -/
def instant (d : Datetime) : ℤ := d.wall - d.tzinfo.getD 0

def make (wall : ℤ) (tzinfo : Option ℤ) : Option Datetime :=
  if h : minWall ≤ wall ∧ wall ≤ maxWall then some ⟨wall, tzinfo, h⟩ else none

/-- `datetime + timedelta`. -/
def plus (d : Datetime) (delta : ℤ) : Option Datetime := make (d.wall + delta) d.tzinfo

/-- `astimezone`, after `replace(tzinfo=...)` for a naive datetime. -/
def astimezone (d : Datetime) (assumed zone : ℤ) : Option Datetime := do
  let utc ← make (d.wall - d.tzinfo.getD assumed) (some 0)
  make (utc.wall + zone) (some zone)

def utcToKampala (d : Datetime) : Option Datetime := d.astimezone 0 kampalaOffset

def kampalaToUtc (d : Datetime) : Option Datetime := d.astimezone kampalaOffset 0

/-- `replace(hour=0, minute=0, second=0, microsecond=0)`. -/
def midnight (d : Datetime) : Datetime where
  wall := d.wall / microsPerDay * microsPerDay
  tzinfo := d.tzinfo
  range := by
    have hrange := d.range
    simp only [minWall, maxWall, microsPerDay] at hrange ⊢
    omega

/-- The datetime whose day `get_day_start_utc` starts; `now` is the clock. -/
def kampalaTime (now : Datetime) (kampalaDt : Option Datetime) : Option Datetime :=
  match kampalaDt with
  | none => now.utcToKampala
  | some d =>
    match d.tzinfo with
    | none => some { d with tzinfo := some kampalaOffset }
    | some offset => d.astimezone offset kampalaOffset

def getDayStartUtc (now : Datetime) (kampalaDt : Option Datetime) : Option Datetime := do
  let onClock ← kampalaTime now kampalaDt
  onClock.midnight.astimezone kampalaOffset 0

/-- `get_daily_window_bounds`. -/
def dailyWindowBounds (mode : WindowMode) (now : Datetime) (asOf : Option Datetime) :
    Option (Datetime × Datetime) :=
  let endTime := asOf.getD now
  let windowStart :=
    match mode with
    | .calendar => getDayStartUtc now (some endTime)
    | .rolling => endTime.plus (-microsPerDay)
  windowStart.map (·, endTime)

/-- The day of the datetime lies within the calendar. A naive datetime is read in Kampala
time, so that it is on the right day only before 21:00. -/
def Covered (d : Datetime) : Prop :=
  minWall + (microsPerDay - kampalaOffset) ≤ d.instant ∧ d.instant + kampalaOffset ≤ maxWall ∧
    (d.tzinfo = none → d.instant % microsPerDay < microsPerDay - kampalaOffset)

instance (d : Datetime) : Decidable d.Covered :=
  inferInstanceAs (Decidable (_ ∧ _ ∧ _))

/-- The day start is at the datetime or less than a day before it. -/
def InDay (now d : Datetime) : Prop :=
  ∃ start, getDayStartUtc now (some d) = some start ∧ start.instant ≤ d.instant ∧
    d.instant < start.instant + microsPerDay

/-! ## Conversions -/

variable {d d' start start' now : Datetime} {wall assumed zone : ℤ} {tzinfo : Option ℤ}

@[simp] theorem make_eq_some :
    make wall tzinfo = some d ↔ d.wall = wall ∧ d.tzinfo = tzinfo := by
  unfold make
  constructor
  · intro h
    split at h
    · cases h
      exact ⟨rfl, rfl⟩
    · cases h
  · rintro ⟨rfl, rfl⟩
    rw [dif_pos d.range]

theorem astimezone_eq_some :
    d.astimezone assumed zone = some d' ↔
      (minWall ≤ d.wall - d.tzinfo.getD assumed ∧ d.wall - d.tzinfo.getD assumed ≤ maxWall) ∧
        d'.wall = d.wall - d.tzinfo.getD assumed + zone ∧ d'.tzinfo = some zone := by
  simp only [astimezone, Option.bind_eq_bind, Option.bind_eq_some_iff, make_eq_some]
  constructor
  · rintro ⟨utc, ⟨hutc, -⟩, hwall, hzone⟩
    have hrange := utc.range
    rw [hutc] at hwall hrange
    exact ⟨hrange, hwall, hzone⟩
  · rintro ⟨hrange, hwall, hzone⟩
    exact ⟨⟨_, some 0, hrange⟩, ⟨rfl, rfl⟩, hwall, hzone⟩

theorem kampalaToUtc_utcToKampala (h : d.utcToKampala = some d') :
    ∃ utc, d'.kampalaToUtc = some utc ∧ utc.instant = d.instant := by
  obtain ⟨hrange, hwall, hzone⟩ := astimezone_eq_some.mp h
  refine ⟨⟨d.instant, some 0, hrange⟩, astimezone_eq_some.mpr ?_, by simp [instant]⟩
  have hback : d'.wall - d'.tzinfo.getD kampalaOffset = d.instant := by
    rw [hwall, hzone]
    simp [instant]
  rw [hback]
  exact ⟨hrange, by simp, rfl⟩

theorem Covered.utcToKampala (h : d.Covered) : ∃ d', d.utcToKampala = some d' := by
  obtain ⟨hmin, hmax, -⟩ := h
  simp only [instant, minWall, maxWall, kampalaOffset, microsPerDay] at hmin hmax
  refine ⟨⟨d.wall - d.tzinfo.getD 0 + kampalaOffset, some kampalaOffset, ?_⟩,
    astimezone_eq_some.mpr ⟨?_, rfl, rfl⟩⟩ <;>
  · simp only [minWall, maxWall, kampalaOffset, microsPerDay]
    omega

/-! ## The day start -/

/-- The time on the Kampala clock a datetime is read as. -/
def reading (d : Datetime) : ℤ :=
  match d.tzinfo with
  | none => d.wall
  | some offset => d.wall - offset + kampalaOffset

/-- The day start is the midnight before the reading, if both are in the calendar. -/
theorem getDayStartUtc_eq_some :
    getDayStartUtc now (some d) = some start ↔
      (d.tzinfo ≠ none → minWall ≤ d.instant ∧ d.reading ≤ maxWall) ∧
        minWall ≤ d.reading / microsPerDay * microsPerDay - kampalaOffset ∧
        start.wall = d.reading / microsPerDay * microsPerDay - kampalaOffset ∧
        start.tzinfo = some 0 := by
  have hrange := d.range
  simp only [getDayStartUtc, kampalaTime, Option.bind_eq_bind, Option.bind_eq_some_iff, instant,
    reading]
  cases hzone : d.tzinfo with
  | none =>
    simp only [Option.some.injEq, exists_eq_left', astimezone_eq_some, midnight, Option.getD_some,
      ne_eq, not_true_eq_false, false_imp_iff, true_and, add_zero]
    refine and_congr_left fun _ => and_iff_left_of_imp fun _ => ?_
    simp only [maxWall, minWall, kampalaOffset, microsPerDay] at *
    omega
  | some offset =>
    simp only [astimezone_eq_some, hzone, Option.getD_some, ne_eq, reduceCtorEq, not_false_eq_true,
      true_imp_iff, add_zero, midnight]
    constructor
    · rintro ⟨onClock, ⟨⟨hmin, hmax⟩, hclock, hkampala⟩, hstart⟩
      have hin := onClock.range
      rw [hclock, hkampala, Option.getD_some] at hstart
      rw [hclock] at hin
      exact ⟨⟨hmin, hin.2⟩, hstart.1.1, hstart.2⟩
    · rintro ⟨⟨hmin, hmax⟩, hstart⟩
      have hin : minWall ≤ d.wall - offset + kampalaOffset := by
        simp only [kampalaOffset]
        omega
      have hutc : d.wall - offset ≤ maxWall := by
        simp only [kampalaOffset] at hmax
        omega
      have hday : (d.wall - offset + kampalaOffset) / microsPerDay * microsPerDay - kampalaOffset ≤
          maxWall := by
        simp only [maxWall, kampalaOffset, microsPerDay] at hmax ⊢
        omega
      exact ⟨⟨_, some kampalaOffset, hin, hmax⟩, ⟨⟨hmin, hutc⟩, rfl, rfl⟩, ⟨hstart.1, hday⟩,
        hstart.2⟩

theorem reading_of_covered (h : d.Covered) :
    d.reading / microsPerDay = kampalaDay d.instant := by
  obtain ⟨-, -, hnaive⟩ := h
  simp only [reading, kampalaDay]
  cases hzone : d.tzinfo with
  | none =>
    have hday := hnaive hzone
    simp only [instant, hzone, Option.getD_none, kampalaOffset, microsPerDay] at hday ⊢
    omega
  | some offset => simp [instant, hzone]

/-- The day start of an instant. -/
def dayStart (t : ℤ) : ℤ := TimezoneEngine.getDayStartUtc t

theorem dayStart_eq (t : ℤ) :
    dayStart t = (t + kampalaOffset) / microsPerDay * microsPerDay - kampalaOffset := rfl

theorem dayStart_le (t : ℤ) : dayStart t ≤ t := by
  simp only [dayStart_eq, kampalaOffset, microsPerDay]
  omega

theorem lt_dayStart_add (t : ℤ) : t < dayStart t + microsPerDay := by
  simp only [dayStart_eq, kampalaOffset, microsPerDay]
  omega

theorem dayStart_mono {t t' : ℤ} (h : t ≤ t') : dayStart t ≤ dayStart t' := by
  simp only [dayStart_eq, kampalaOffset, microsPerDay]
  omega

/-- On covered datetimes the engine computes the day start of the instant. -/
theorem getDayStartUtc_of_covered (h : d.Covered) :
    getDayStartUtc now (some d) = some start ↔
      start.wall = dayStart d.instant ∧ start.tzinfo = some 0 := by
  have hreading := reading_of_covered h
  obtain ⟨hmin, hmax, -⟩ := h
  rw [getDayStartUtc_eq_some, hreading, dayStart_eq, kampalaDay]
  constructor
  · rintro ⟨-, -, hstart⟩
    exact hstart
  · intro hstart
    refine ⟨fun haware => ?_, ?_, hstart⟩
    · obtain ⟨offset, hzone⟩ := Option.ne_none_iff_exists'.mp haware
      simp only [reading, instant, hzone, Option.getD_some, kampalaOffset, microsPerDay]
        at hmin hmax ⊢
      omega
    · simp only [minWall, kampalaOffset, microsPerDay] at hmin ⊢
      omega

/-- The day start is right on the covered datetimes and on no others. -/
theorem inDay_iff : InDay now d ↔ d.Covered := by
  constructor
  · rintro ⟨start, hstart, hle, hlt⟩
    obtain ⟨haware, hmin, hwall, hzone⟩ := getDayStartUtc_eq_some.mp hstart
    have hrange := d.range
    have hinstant : start.instant = d.reading / microsPerDay * microsPerDay - kampalaOffset := by
      rw [instant, hwall, hzone, Option.getD_some, sub_zero]
    rw [hinstant] at hle hlt
    cases htz : d.tzinfo with
    | none =>
      simp only [Covered, instant, reading, htz, Option.getD_none, minWall, maxWall,
        kampalaOffset, microsPerDay] at hle hlt hmin hrange ⊢
      omega
    | some offset =>
      have hin := haware (by simp [htz])
      simp only [Covered, instant, reading, htz, Option.getD_some, minWall, maxWall,
        kampalaOffset, microsPerDay, reduceCtorEq, false_imp_iff, and_true] at hin hle hlt hmin ⊢
      omega
  · intro h
    have hrange : minWall ≤ dayStart d.instant ∧ dayStart d.instant ≤ maxWall := by
      obtain ⟨hmin, hmax, -⟩ := h
      simp only [dayStart_eq, minWall, maxWall, kampalaOffset, microsPerDay] at hmin hmax ⊢
      omega
    refine ⟨⟨_, some 0, hrange⟩, (getDayStartUtc_of_covered h).mpr ⟨rfl, rfl⟩, ?_, ?_⟩
    · simpa [instant] using dayStart_le d.instant
    · simpa [instant] using lt_dayStart_add d.instant

theorem getDayStartUtc_idem (h : getDayStartUtc now (some d) = some start) :
    getDayStartUtc now (some start) = some start := by
  obtain ⟨haware, hmin, hwall, hzone⟩ := getDayStartUtc_eq_some.mp h
  have hread : d.reading ≤ maxWall := by
    cases htz : d.tzinfo with
    | none => simpa [reading, htz] using d.range.2
    | some offset => exact (haware (by simp [htz])).2
  have hreading : start.reading = d.reading / microsPerDay * microsPerDay := by
    rw [reading, hzone, hwall]
    ring
  have hday : start.reading / microsPerDay = d.reading / microsPerDay := by
    rw [hreading, Int.mul_ediv_cancel _ (by decide)]
  rw [getDayStartUtc_eq_some, hday]
  have hmax : d.reading / microsPerDay * microsPerDay ≤ maxWall := by
    simp only [maxWall, microsPerDay] at hread ⊢
    omega
  refine ⟨fun _ => ⟨?_, hreading ▸ hmax⟩, hmin, hwall, hzone⟩
  rw [instant, hzone, Option.getD_some, sub_zero]
  exact start.range.1

/-- Of two covered datetimes the later has the later day start. -/
theorem getDayStartUtc_mono (h : d.Covered) (h' : d'.Covered)
    (hstart : getDayStartUtc now (some d) = some start)
    (hstart' : getDayStartUtc now (some d') = some start') (hle : d.instant ≤ d'.instant) :
    start.instant ≤ start'.instant := by
  obtain ⟨hwall, hzone⟩ := (getDayStartUtc_of_covered h).mp hstart
  obtain ⟨hwall', hzone'⟩ := (getDayStartUtc_of_covered h').mp hstart'
  rw [instant, instant, hwall, hwall', hzone, hzone']
  simpa using dayStart_mono hle

/-! ## The bounds of the daily query -/

/-- Called without a time, the query starts where the limits of the wallet take it to. -/
theorem dailyWindowBounds_now {env : Env} (hutc : now.tzinfo = some 0) (hnow : env.now = now.wall)
    (hcovered : now.Covered) (hday : minWall + microsPerDay ≤ now.wall) :
    ∃ start, dailyWindowBounds env.volumePolicy.dailyWindowMode now none = some (start, now) ∧
      start.instant = dailyWindowStart env := by
  have hinstant : now.instant = env.now := by
    rw [instant, hutc, hnow, Option.getD_some, sub_zero]
  simp only [dailyWindowBounds, dailyWindowStart, Option.getD_none]
  cases env.volumePolicy.dailyWindowMode with
  | calendar =>
    have hin : InDay now now := inDay_iff.mpr hcovered
    obtain ⟨start, hstart, -⟩ := hin
    obtain ⟨hwall, hzone⟩ := (getDayStartUtc_of_covered hcovered).mp hstart
    refine ⟨start, by simp [hstart], ?_⟩
    rw [instant, hwall, hzone, hinstant, Option.getD_some, sub_zero]
    rfl
  | rolling =>
    have hrange := now.range
    refine ⟨⟨now.wall - microsPerDay, some 0, ?_, ?_⟩, ?_, ?_⟩
    · omega
    · simp only [microsPerDay]
      omega
    · simp [plus, hutc, sub_eq_add_neg]
    · simp [instant, hnow]

end Datetime

end Afcon360.Wallet
