import Mathlib.Data.List.Dedup
import Afcon360.Foundation.Guard
import Afcon360.Foundation.WallClock

/-!
# Calendar time policy

Instants are UTC, in microseconds; a wall time is the microsecond of its calendar as if that
were UTC, and a calendar day is its number of days. A zone of the time zone database is a clock
with folds under its key. Reading a text as an ISO 8601 datetime is a parameter; the result
keeps the wall time and the offset whose texts the code returns.
-/

namespace Afcon360.Utils

open Foundation

/-- What the policy raises: a `ValueError`, or the failure to load the zone `UTC`. -/
inductive TimeError
  | blankTimezone (field : String)
  | notIana (field name : String)
  | unrecognized (field name : String)
  | noUtcData
  | notIso
  | offsetMismatch
  | nonexistent
  | ambiguous
deriving DecidableEq, Repr

/-- `repr` quotes the name. -/
def TimeError.message (repr : String → String) : TimeError → String
  | .blankTimezone field => field ++ " must be an IANA timezone name"
  | .notIana field name => field ++ " must be an IANA timezone name, got " ++ repr name
  | .unrecognized field name => field ++ " is not a recognized IANA timezone: " ++ repr name
  | .noUtcData => "No time zone found with key UTC"
  | .notIso => "scheduled time must be a valid ISO-8601 datetime"
  | .offsetMismatch =>
    "scheduled time offset does not match the pickup location's timezone"
  | .nonexistent =>
    "scheduled local time does not exist in the pickup location's timezone"
  | .ambiguous =>
    "scheduled local time is ambiguous in the pickup location's timezone; " ++
    "choose a time outside the clock-change hour"

/-- A zone of the database. -/
structure Zone where
  key : String
  clock : FoldClock

def requireIanaTimezone (zoneInfo : String → Option Zone) (value : String)
    (field : String := "timezone") : Except TimeError Zone :=
  let name := strip value
  if name = "" then .error (.blankTimezone field)
  else if name = "UTC" ∨ name = "Etc/UTC" then
    match zoneInfo "UTC" with
    | some zone => .ok zone
    | none => .error .noUtcData
  else if '/' ∉ name.toList then .error (.notIana field name)
  else
    match zoneInfo name with
    | some zone => .ok zone
    | none => .error (.unrecognized field name)

/-- The `tzinfo` of a datetime: a fixed offset, or the zone itself with the fold. -/
inductive Tzinfo
  | fixed (offset : ℤ)
  | own (fold : Bool)
deriving DecidableEq, Repr

structure Datetime where
  wall : ℤ
  tzinfo : Option Tzinfo
deriving DecidableEq, Repr

/-- A datetime in the zone. -/
structure Local where
  wall : ℤ
  fold : Bool
deriving DecidableEq, Repr

namespace Local

def utcoffset (zone : Zone) (loc : Local) : ℤ := zone.clock.wallOffset loc.wall loc.fold

/-- `astimezone(UTC)`. -/
def toUtc (zone : Zone) (loc : Local) : ℤ := zone.clock.instantOf loc.wall loc.fold

/-- `astimezone(zone)` of an instant. -/
def ofUtc (zone : Zone) (instant : ℤ) : Local :=
  ⟨zone.clock.wall instant, zone.clock.foldAt instant⟩

end Local

namespace Datetime

def utcoffset (zone : Zone) (value : Datetime) : Option ℤ :=
  value.tzinfo.map fun
    | .fixed offset => offset
    | .own fold => zone.clock.wallOffset value.wall fold

/-- `astimezone(zone)` of a datetime with an offset; it returns a datetime of the zone as it is. -/
def astimezone (zone : Zone) (value : Datetime) (offset : ℤ) : Local :=
  match value.tzinfo with
  | some (.own fold) => ⟨value.wall, fold⟩
  | _ => Local.ofUtc zone (value.wall - offset)

end Datetime

/-- What a caller passes as the scheduled time. -/
inductive Value
  | text (value : String)
  | datetime (value : Datetime)

structure Resolved where
  utcDatetime : ℤ
  localDatetime : ℤ
  timezoneName : String
  utcOffset : ℤ
deriving DecidableEq, Repr

def parseValue (fromisoformat : String → Option Datetime) : Value → Except TimeError Datetime
  | .datetime value => .ok value
  | .text value =>
    match fromisoformat value with
    | some parsed => .ok parsed
    | none => .error .notIso

/-- The wall time under each fold that an instant shows it with. -/
def candidates (zone : Zone) (wall : ℤ) : List Local :=
  ([false, true].map (Local.mk wall)).filter fun candidate =>
    (Local.ofUtc zone (candidate.toUtc zone)).wall = wall

def localOf (zone : Zone) (parsed : Datetime) : Except TimeError Local :=
  match parsed.utcoffset zone with
  | some offset =>
    let loc := parsed.astimezone zone offset
    if offset ≠ loc.utcoffset zone then .error .offsetMismatch else .ok loc
  | none =>
    let distinctOffsets := ((candidates zone parsed.wall).map (Local.utcoffset zone)).dedup
    match candidates zone parsed.wall with
    | [] => .error .nonexistent
    | first :: _ => if 1 < distinctOffsets.length then .error .ambiguous else .ok first

def Local.resolved (zone : Zone) (loc : Local) : Resolved where
  utcDatetime := loc.toUtc zone
  localDatetime := loc.wall
  timezoneName := zone.key
  utcOffset := loc.utcoffset zone

def resolveLocalDatetime (zoneInfo : String → Option Zone)
    (fromisoformat : String → Option Datetime) (value : Value) (timezoneName : String) :
    Except TimeError Resolved := do
  let zone ← requireIanaTimezone zoneInfo timezoneName "pickup timezone"
  let parsed ← parseValue fromisoformat value
  let loc ← localOf zone parsed
  return loc.resolved zone

/-- Microseconds of a calendar day. -/
def dayLength : ℤ := 86400000000

/-- `datetime.combine(day, time.min)`. -/
def midnight (day : ℤ) : ℤ := day * dayLength

/-- The start of the day, which `combine` makes with fold 0. -/
def dayStart (zone : Zone) (day : ℤ) : ℤ := (Local.mk (midnight day) false).toUtc zone

def localDayUtcBounds (zoneInfo : String → Option Zone) (day : ℤ) (timezoneName : String) :
    Except TimeError (ℤ × ℤ) := do
  let zone ← requireIanaTimezone zoneInfo timezoneName
  return (dayStart zone day, dayStart zone (day + 1))

/-- What the policy reports of an instant. -/
def report (zone : Zone) (instant : ℤ) : Resolved where
  utcDatetime := instant
  localDatetime := zone.clock.wall instant
  timezoneName := zone.key
  utcOffset := zone.clock.offset instant

/-- The calendar day that an instant falls on in the zone. -/
def localDate (zone : Zone) (instant : ℤ) : ℤ := zone.clock.wall instant / dayLength

/-! ### The name of a zone -/

/-- The field only stands in the messages. -/
theorem requireIanaTimezone_field {zoneInfo : String → Option Zone} {name field : String}
    {zone : Zone} (h : requireIanaTimezone zoneInfo name field = .ok zone) (field' : String) :
    requireIanaTimezone zoneInfo name field' = .ok zone := by
  unfold requireIanaTimezone at h ⊢
  dsimp only at h ⊢
  split at h
  · cases h
  rename_i hblank
  rw [if_neg hblank]
  split at h
  · rename_i hutc
    rwa [if_pos hutc]
  rename_i hutc
  rw [if_neg hutc]
  split at h
  · cases h
  rename_i hslash
  rw [if_neg hslash]
  cases hzone : zoneInfo (strip name) with
  | none =>
    rw [hzone] at h
    cases h
  | some found =>
    rw [hzone] at h
    exact h

/-! ### Wall times -/

section Resolve

variable {zone : Zone}

theorem ofUtc_resolved {instant : ℤ} (h : zone.clock.offsetAt instant = zone.clock.offset instant) :
    (Local.ofUtc zone instant).resolved zone = report zone instant := by
  have hoffset : (Local.ofUtc zone instant).utcoffset zone = zone.clock.offset instant := h
  have hinstant : (Local.ofUtc zone instant).toUtc zone = instant := by
    change zone.clock.wall instant - zone.clock.offsetAt instant = instant
    rw [h, WallClock.wall]
    omega
  rw [Local.resolved, hoffset, hinstant]
  rfl

/-- A wall time that is shown is reported as the instant it is taken for. -/
theorem resolved_of_shown {loc : Local} {instant : ℤ} (h : zone.clock.wall instant = loc.wall) :
    loc.resolved zone = report zone (loc.toUtc zone) := by
  have hoffset : zone.clock.offset (loc.toUtc zone) = loc.utcoffset zone :=
    FoldClock.offset_instantOf h loc.fold
  have hwall : zone.clock.wall (loc.toUtc zone) = loc.wall :=
    FoldClock.wall_instantOf h loc.fold
  rw [Local.resolved, report, hoffset, hwall]

theorem candidates_shown {instant wall : ℤ} (h : zone.clock.wall instant = wall) :
    candidates zone wall = [⟨wall, false⟩, ⟨wall, true⟩] := by
  refine List.filter_eq_self.2 fun candidate hmem => ?_
  obtain ⟨fold, -, rfl⟩ := List.mem_map.1 hmem
  exact decide_eq_true (FoldClock.wall_instantOf h fold)

theorem candidates_skipped {wall : ℤ} (h : ∀ instant, zone.clock.wall instant ≠ wall) :
    candidates zone wall = [] :=
  List.filter_eq_nil_iff.2 fun _ _ hshow => h _ (of_decide_eq_true hshow)

theorem localOf_skipped {wall : ℤ} (h : ∀ instant, zone.clock.wall instant ≠ wall) :
    localOf zone ⟨wall, none⟩ = .error .nonexistent := by
  simp [localOf, Datetime.utcoffset, candidates_skipped h]

theorem wallOffset_eq_iff {instant wall : ℤ} (h : zone.clock.wall instant = wall) :
    zone.clock.wallOffset wall false = zone.clock.wallOffset wall true ↔
      ∀ other, zone.clock.wall other = wall → other = instant := by
  rw [← FoldClock.instantOf_eq_iff h]
  unfold FoldClock.instantOf
  omega

theorem localOf_shown {instant wall : ℤ} (h : zone.clock.wall instant = wall) :
    localOf zone ⟨wall, none⟩ =
      if zone.clock.wallOffset wall false = zone.clock.wallOffset wall true
      then .ok ⟨wall, false⟩ else .error .ambiguous := by
  unfold localOf
  rw [candidates_shown h]
  by_cases heq : zone.clock.wallOffset wall false = zone.clock.wallOffset wall true
  · simp [Datetime.utcoffset, Local.utcoffset, heq]
  · simp [Datetime.utcoffset, Local.utcoffset, heq]

/-- A naive wall time is accepted when one instant shows it, and then it is that instant. -/
theorem localOf_naive {wall : ℤ} {result : Resolved} :
    (∃ loc, localOf zone ⟨wall, none⟩ = .ok loc ∧ loc.resolved zone = result) ↔
      ∃ instant, (∀ other, zone.clock.wall other = wall ↔ other = instant) ∧
        result = report zone instant := by
  constructor
  · rintro ⟨loc, hloc, rfl⟩
    by_cases hshown : ∃ instant, zone.clock.wall instant = wall
    · obtain ⟨instant, hwall⟩ := hshown
      rw [localOf_shown hwall] at hloc
      split at hloc
      · rename_i heq
        cases hloc
        have honly := (wallOffset_eq_iff hwall).1 heq
        refine ⟨instant, fun other => ⟨honly other, fun he => he ▸ hwall⟩, ?_⟩
        rw [resolved_of_shown hwall]
        exact congrArg (report zone) (honly _ (FoldClock.wall_instantOf hwall false))
      · cases hloc
    · push Not at hshown
      rw [localOf_skipped hshown] at hloc
      cases hloc
  · rintro ⟨instant, honly, rfl⟩
    have hwall := (honly instant).2 rfl
    have heq := (wallOffset_eq_iff hwall).2 fun other => (honly other).1
    refine ⟨⟨wall, false⟩, by rw [localOf_shown hwall, if_pos heq], ?_⟩
    rw [resolved_of_shown hwall]
    exact congrArg (report zone) ((honly _).1 (FoldClock.wall_instantOf hwall false))

/-- A fixed offset is compared with the offset that is read back at its instant. -/
theorem localOf_fixed {wall offset : ℤ} :
    localOf zone ⟨wall, some (.fixed offset)⟩ =
      if offset = zone.clock.offsetAt (wall - offset)
      then .ok (Local.ofUtc zone (wall - offset)) else .error .offsetMismatch := by
  change (if offset ≠ zone.clock.offsetAt (wall - offset) then _ else _) = _
  rw [ite_not]
  rfl

theorem localOf_own {wall : ℤ} {fold : Bool} :
    localOf zone ⟨wall, some (.own fold)⟩ = .ok ⟨wall, fold⟩ :=
  if_neg fun h => h rfl

/-- A local time that is shown, with the offset it has, is the same result again. -/
theorem localOf_again {loc : Local} {instant : ℤ} (h : zone.clock.wall instant = loc.wall) :
    ∃ again, localOf zone ⟨loc.wall, some (.fixed (loc.utcoffset zone))⟩ = .ok again ∧
      again.resolved zone = loc.resolved zone := by
  have hback := FoldClock.offsetAt_instantOf h loc.fold
  refine ⟨Local.ofUtc zone (loc.toUtc zone), ?_, ?_⟩
  · rw [localOf_fixed]
    exact if_pos ((FoldClock.offset_instantOf h loc.fold).symm.trans hback.symm)
  · exact (ofUtc_resolved hback).trans (resolved_of_shown h).symm

end Resolve

/-! ### Calendar days -/

section Days

variable {zone : Zone}

variable {instant day : ℤ}

/-- Every date the zone shows comes after the dates it has shown before. -/
def DatesForward (zone : Zone) : Prop :=
  ∀ first second, first ≤ second → localDate zone first ≤ localDate zone second

theorem localDate_lt :
    localDate zone instant < day ↔ zone.clock.wall instant < midnight day := by
  unfold localDate midnight dayLength
  omega

theorem le_localDate :
    day ≤ localDate zone instant ↔ midnight day ≤ zone.clock.wall instant := by
  unfold localDate midnight dayLength
  omega

/-- The first instant of a date or a later one. -/
structure Opens (zone : Zone) (instant day : ℤ) : Prop where
  reached : midnight day ≤ zone.clock.wall instant
  before : ∀ other, other < instant → zone.clock.wall other < midnight day
  after : ∀ other, instant ≤ other → midnight day ≤ zone.clock.wall other

theorem exists_opens (hdates : DatesForward zone) (day : ℤ) :
    ∃ instant, Opens zone instant day := by
  obtain ⟨instant, hreach, hbefore⟩ := zone.clock.exists_reaching (midnight day)
  refine ⟨instant, hreach, hbefore, fun other hle => ?_⟩
  exact le_localDate.1 ((le_localDate.2 hreach).trans (hdates _ _ hle))

/-- Where dates go forward, a midnight is skipped once. -/
theorem Opens.eq_of_skips {instant other day : ℤ} (h : Opens zone instant day)
    (hskip : zone.clock.Skips other (midnight day)) : other = instant := by
  have hbefore := h.before other
  have hafter := h.after (other - 1)
  obtain ⟨hlt, hgt⟩ := hskip
  omega

/-- Where the day opens with its midnight, it starts there. -/
theorem Opens.dayStart_of_shown (h : Opens zone instant day)
    (hwall : zone.clock.wall instant = midnight day) : dayStart zone day = instant := by
  refine FoldClock.instantOf_false ⟨hwall, fun other hother => ?_⟩
  have hbefore := h.before other
  have : zone.clock.wall other = midnight day := hother
  omega

/-- Where the midnight is never shown, the day starts as if the clock had not changed. -/
theorem Opens.dayStart_of_skipped (h : Opens zone instant day)
    (hnever : ∀ other, zone.clock.wall other ≠ midnight day) :
    dayStart zone day = instant - 1 + (midnight day - zone.clock.wall (instant - 1)) := by
  obtain ⟨other, hskip, htaken⟩ := FoldClock.exists_skips hnever
  have heq := h.eq_of_skips hskip
  subst heq
  refine htaken.trans ?_
  unfold WallClock.wall
  omega

/-- No day starts before it opens. -/
theorem Opens.le_dayStart (h : Opens zone instant day) :
    instant ≤ dayStart zone day := by
  by_cases hshown : ∃ other, zone.clock.wall other = midnight day
  · obtain ⟨other, hother⟩ := hshown
    have hwall : zone.clock.wall (dayStart zone day) = midnight day :=
      FoldClock.wall_instantOf hother false
    have hbefore := h.before (dayStart zone day)
    omega
  · push Not at hshown
    have hbefore := h.before (instant - 1) (by omega)
    rw [h.dayStart_of_skipped hshown]
    omega

theorem Opens.skips (h : Opens zone instant day) (hwall : zone.clock.wall instant ≠ midnight day) :
    zone.clock.Skips instant (midnight day) := by
  have hbefore := h.before (instant - 1) (by omega)
  have hreached := h.reached
  exact ⟨hbefore, by omega⟩

/-- A clock change that lands on a date over its midnight begins exactly at that midnight,
which is then never shown. -/
def CleanMidnights (zone : Zone) : Prop :=
  ∀ change day, zone.clock.Skips change (midnight day) → localDate zone change = day →
    zone.clock.wall (change - 1) = midnight day - 1 ∧
      ∀ instant, zone.clock.wall instant ≠ midnight day

/-- Where dates go forward, every instant lies in the interval of its date exactly when no
change of the clock cuts into a midnight. -/
theorem inside_iff (hdates : DatesForward zone) :
    (∀ instant, dayStart zone (localDate zone instant) ≤ instant ∧
      instant < dayStart zone (localDate zone instant + 1)) ↔ CleanMidnights zone := by
  constructor
  · intro hinside change day hskip hdate
    subst hdate
    obtain ⟨opening, hopens⟩ := exists_opens hdates (localDate zone change)
    have heq := hopens.eq_of_skips hskip
    subst heq
    have hstart : dayStart zone (localDate zone change) = change :=
      le_antisymm (hinside change).1 hopens.le_dayStart
    have hnever : ∀ instant, zone.clock.wall instant ≠ midnight (localDate zone change) := by
      intro instant hwall
      have hshow : zone.clock.wall (dayStart zone (localDate zone change)) = _ :=
        FoldClock.wall_instantOf hwall false
      rw [hstart] at hshow
      exact hskip.2.ne hshow.symm
    refine ⟨?_, hnever⟩
    have := hopens.dayStart_of_skipped hnever
    omega
  · intro hclean instant
    obtain ⟨opening, hopens⟩ := exists_opens hdates (localDate zone instant)
    obtain ⟨closing, hcloses⟩ := exists_opens hdates (localDate zone instant + 1)
    constructor
    · have hle : opening ≤ instant := by
        by_contra hlt
        have := localDate_lt.2 (hopens.before instant (by omega))
        omega
      refine le_trans (le_of_eq ?_) hle
      by_cases hwall : zone.clock.wall opening = midnight (localDate zone instant)
      · exact hopens.dayStart_of_shown hwall
      · have hdate : localDate zone opening = localDate zone instant :=
          le_antisymm (hdates _ _ hle) (le_localDate.2 hopens.reached)
        obtain ⟨hbegins, hnever⟩ := hclean opening _ (hopens.skips hwall) hdate
        have := hopens.dayStart_of_skipped hnever
        omega
    · have hlt : instant < closing := by
        by_contra hle
        have := le_localDate.2 (hcloses.after instant (by omega))
        omega
      exact lt_of_lt_of_le hlt hcloses.le_dayStart

/-- A day ends after it starts unless the offset of the midnights grows by more than a day. -/
theorem dayStart_le_iff (day : ℤ) :
    dayStart zone day ≤ dayStart zone (day + 1) ↔
      zone.clock.wallOffset (midnight (day + 1)) false ≤
        zone.clock.wallOffset (midnight day) false + dayLength := by
  have hnext : midnight (day + 1) = midnight day + dayLength := by
    rw [midnight, add_mul, one_mul, midnight]
  unfold dayStart Local.toUtc FoldClock.instantOf
  dsimp only
  rw [hnext]
  omega

end Days

/-! ### The policy -/

section Policy

variable {zoneInfo : String → Option Zone} {fromisoformat : String → Option Datetime}
variable {name : String} {zone : Zone}

theorem resolveLocalDatetime_ok (hzone : requireIanaTimezone zoneInfo name = .ok zone)
    {value : Value} {parsed : Datetime} (hparsed : parseValue fromisoformat value = .ok parsed)
    {result : Resolved} :
    resolveLocalDatetime zoneInfo fromisoformat value name = .ok result ↔
      ∃ loc, localOf zone parsed = .ok loc ∧ loc.resolved zone = result := by
  simp only [resolveLocalDatetime, requireIanaTimezone_field hzone, hparsed]
  cases hloc : localOf zone parsed with
  | error error => simp [bind, Except.bind, hloc]
  | ok loc => simp [bind, Except.bind, pure, Except.pure, hloc]

theorem localDayUtcBounds_eq (hzone : requireIanaTimezone zoneInfo name = .ok zone) (day : ℤ) :
    localDayUtcBounds zoneInfo day name = .ok (dayStart zone day, dayStart zone (day + 1)) := by
  simp only [localDayUtcBounds, hzone]
  rfl

/-- A fixed offset is accepted as the zone's own exactly when no reading is shown three times. -/
theorem fixed_iff (hzone : requireIanaTimezone zoneInfo name = .ok zone) :
    (∀ value wall offset result,
      parseValue fromisoformat value = .ok ⟨wall, some (.fixed offset)⟩ →
      (resolveLocalDatetime zoneInfo fromisoformat value name = .ok result ↔
        zone.clock.offset (wall - offset) = offset ∧ result = report zone (wall - offset))) ↔
      ¬ zone.clock.Thrice := by
  rw [← FoldClock.offsetAt_eq_iff]
  constructor
  · intro hright instant
    have hinstant : zone.clock.wall instant - zone.clock.offset instant = instant := by
      unfold WallClock.wall
      omega
    have haccepted := (hright (.datetime ⟨zone.clock.wall instant,
      some (.fixed (zone.clock.offset instant))⟩) _ _ (report zone instant) rfl).2
      ⟨by rw [hinstant], by rw [hinstant]⟩
    obtain ⟨loc, hloc, -⟩ := (resolveLocalDatetime_ok hzone rfl).1 haccepted
    rw [localOf_fixed, hinstant] at hloc
    split at hloc
    · rename_i heq
      exact heq.symm
    · cases hloc
  · intro hback value wall offset result hparsed
    rw [resolveLocalDatetime_ok hzone hparsed, localOf_fixed, hback]
    constructor
    · rintro ⟨loc, hloc, rfl⟩
      split at hloc
      · rename_i heq
        cases hloc
        exact ⟨heq.symm, ofUtc_resolved (hback _)⟩
      · cases hloc
    · rintro ⟨heq, rfl⟩
      exact ⟨_, if_pos heq.symm, ofUtc_resolved (hback _)⟩

/-- A datetime of the zone itself is never refused; its offset is the zone's own at its instant
exactly when its wall time is shown. -/
theorem own_iff (hzone : requireIanaTimezone zoneInfo name = .ok zone) {value : Value} {wall : ℤ}
    {fold : Bool} (hparsed : parseValue fromisoformat value = .ok ⟨wall, some (.own fold)⟩) :
    (∀ result, resolveLocalDatetime zoneInfo fromisoformat value name = .ok result ↔
      zone.clock.offset (zone.clock.instantOf wall fold) = zone.clock.wallOffset wall fold ∧
        result = report zone (zone.clock.instantOf wall fold)) ↔
      ∃ instant, zone.clock.wall instant = wall := by
  constructor
  · intro hright
    obtain ⟨hoffset, -⟩ := (hright ((Local.mk wall fold).resolved zone)).1
      ((resolveLocalDatetime_ok hzone hparsed).2 ⟨_, localOf_own, rfl⟩)
    refine ⟨zone.clock.instantOf wall fold, ?_⟩
    rw [WallClock.wall, hoffset, FoldClock.instantOf]
    omega
  · rintro ⟨instant, hwall⟩ result
    have hresolved : (Local.mk wall fold).resolved zone = _ := resolved_of_shown hwall
    rw [resolveLocalDatetime_ok hzone hparsed, localOf_own]
    constructor
    · rintro ⟨loc, hloc, rfl⟩
      cases hloc
      exact ⟨FoldClock.offset_instantOf hwall fold, hresolved⟩
    · rintro ⟨-, rfl⟩
      exact ⟨_, rfl, hresolved⟩

/-- A local time that is accepted is one the zone shows, unless it came with the zone itself. -/
theorem shown_of_localOf {parsed : Datetime} {loc : Local} (h : localOf zone parsed = .ok loc) :
    (∃ instant, zone.clock.wall instant = loc.wall) ∨
      ∃ fold, parsed.tzinfo = some (.own fold) ∧ loc = ⟨parsed.wall, fold⟩ := by
  obtain ⟨wall, tzinfo⟩ := parsed
  match tzinfo, h with
  | none, h =>
    by_cases hshown : ∃ instant, zone.clock.wall instant = wall
    · obtain ⟨instant, hwall⟩ := hshown
      rw [localOf_shown hwall] at h
      split at h
      · cases h
        exact .inl ⟨instant, hwall⟩
      · cases h
    · push Not at hshown
      rw [localOf_skipped hshown] at h
      cases h
  | some (.fixed offset), h =>
    rw [localOf_fixed] at h
    split at h
    · cases h
      exact .inl ⟨wall - offset, rfl⟩
    · cases h
  | some (.own fold), h =>
    rw [localOf_own] at h
    cases h
    exact .inr ⟨fold, rfl, rfl⟩

/-- The result comes back from its local time with its offset, unless it is of a wall time that
is never shown. -/
theorem again_iff (hzone : requireIanaTimezone zoneInfo name = .ok zone) {value again : Value}
    {parsed : Datetime} {result : Resolved} (hparsed : parseValue fromisoformat value = .ok parsed)
    (hresult : resolveLocalDatetime zoneInfo fromisoformat value name = .ok result)
    (hagain : parseValue fromisoformat again =
      .ok ⟨result.localDatetime, some (.fixed result.utcOffset)⟩) :
    resolveLocalDatetime zoneInfo fromisoformat again name = .ok result ↔
      ∀ fold, parsed.tzinfo = some (.own fold) →
        ∃ instant, zone.clock.wall instant = parsed.wall := by
  obtain ⟨loc, hloc, rfl⟩ := (resolveLocalDatetime_ok hzone hparsed).1 hresult
  rw [resolveLocalDatetime_ok hzone hagain]
  constructor
  · rintro ⟨loc', hloc', heq⟩ fold hown
    obtain ⟨wall, tzinfo⟩ := parsed
    subst hown
    rw [localOf_own] at hloc
    cases hloc
    have hsame : loc'.wall = wall := congrArg Resolved.localDatetime heq
    obtain hshown | ⟨fold', hfixed, -⟩ := shown_of_localOf hloc'
    · rwa [hsame] at hshown
    · cases hfixed
  · intro hshown
    have hwall : ∃ instant, zone.clock.wall instant = loc.wall := by
      obtain h | ⟨fold, hown, rfl⟩ := shown_of_localOf hloc
      · exact h
      · exact hshown fold hown
    obtain ⟨instant, hwall⟩ := hwall
    exact localOf_again hwall

/-- What the policy does with wall times, with offsets and with calendar days, in every zone. A
naive wall time is accepted when exactly one instant shows it. The rest holds on a condition:
for a fixed offset, that no reading is shown three times; for a datetime of the zone itself,
that its wall time is shown; for the order of a day's bounds, that the offset does not grow by
more than a day; for the instants of a day, that no clock change cuts into a midnight. -/
theorem local_time_resolution (hzone : requireIanaTimezone zoneInfo name = .ok zone) :
    (∀ value wall result, parseValue fromisoformat value = .ok ⟨wall, none⟩ →
      (resolveLocalDatetime zoneInfo fromisoformat value name = .ok result ↔
        ∃ instant, (∀ other, zone.clock.wall other = wall ↔ other = instant) ∧
          result = report zone instant)) ∧
    ((∀ value wall offset result,
      parseValue fromisoformat value = .ok ⟨wall, some (.fixed offset)⟩ →
      (resolveLocalDatetime zoneInfo fromisoformat value name = .ok result ↔
        zone.clock.offset (wall - offset) = offset ∧ result = report zone (wall - offset))) ↔
      ¬ zone.clock.Thrice) ∧
    (∀ value wall fold, parseValue fromisoformat value = .ok ⟨wall, some (.own fold)⟩ →
      ((∀ result, resolveLocalDatetime zoneInfo fromisoformat value name = .ok result ↔
        zone.clock.offset (zone.clock.instantOf wall fold) = zone.clock.wallOffset wall fold ∧
          result = report zone (zone.clock.instantOf wall fold)) ↔
        ∃ instant, zone.clock.wall instant = wall)) ∧
    (∀ value again parsed result, parseValue fromisoformat value = .ok parsed →
      resolveLocalDatetime zoneInfo fromisoformat value name = .ok result →
      parseValue fromisoformat again =
        .ok ⟨result.localDatetime, some (.fixed result.utcOffset)⟩ →
      (resolveLocalDatetime zoneInfo fromisoformat again name = .ok result ↔
        ∀ fold, parsed.tzinfo = some (.own fold) →
          ∃ instant, zone.clock.wall instant = parsed.wall)) ∧
    (∀ day, ∃ start finish next,
      localDayUtcBounds zoneInfo day name = .ok (start, finish) ∧
      localDayUtcBounds zoneInfo (day + 1) name = .ok (finish, next) ∧
      (start ≤ finish ↔ zone.clock.wallOffset (midnight (day + 1)) false ≤
        zone.clock.wallOffset (midnight day) false + dayLength)) ∧
    (DatesForward zone →
      ((∀ instant start finish,
        localDayUtcBounds zoneInfo (localDate zone instant) name = .ok (start, finish) →
        start ≤ instant ∧ instant < finish) ↔ CleanMidnights zone)) := by
  refine ⟨?_, fixed_iff hzone, fun value wall fold hparsed => own_iff hzone hparsed,
    fun value again parsed result => again_iff hzone, ?_, ?_⟩
  · intro value wall result hparsed
    rw [resolveLocalDatetime_ok hzone hparsed]
    exact localOf_naive
  · intro day
    exact ⟨_, _, _, localDayUtcBounds_eq hzone day, localDayUtcBounds_eq hzone (day + 1),
      dayStart_le_iff day⟩
  · intro hdates
    rw [← inside_iff hdates]
    constructor
    · intro h instant
      exact h instant _ _ (localDayUtcBounds_eq hzone _)
    · intro h instant start finish hbounds
      rw [localDayUtcBounds_eq hzone] at hbounds
      cases hbounds
      exact h instant

end Policy

/-- The change of 30 March 1919 in Toronto: half an hour before midnight the clock goes forward
by an hour, to half an hour past midnight. -/
def toronto : Zone where
  key := "America/Toronto"
  clock := FoldClock.change (-1601753400000000) (-18000000000) (-14400000000) dayLength
    (by decide) (by decide)

def torontoOnly (name : String) : Option Zone :=
  if name = "America/Toronto" then some toronto else none

theorem toronto_found : requireIanaTimezone torontoOnly "America/Toronto" = .ok toronto := by
  have hstrip : strip "America/Toronto" = "America/Toronto" := by decide +kernel
  simp [requireIanaTimezone, hstrip, torontoOnly]

/-- Noon of the day after the change is one instant. -/
theorem toronto_noon :
    resolveLocalDatetime torontoOnly (fun _ => none)
      (.datetime ⟨-18539 * dayLength + 43200000000, none⟩) "America/Toronto" =
        .ok (report toronto (-1601712000000000)) := by
  refine ((local_time_resolution toronto_found).1 _ _ _ rfl).2 ⟨_, fun other => ?_, rfl⟩
  unfold toronto FoldClock.change WallClock.wall dayLength
  dsimp only
  split_ifs <;> omega

/-- A quarter to one of 31 March 1919 lies before the start that the day is given; and midnight
itself, which the clock never showed, is accepted with an offset that does not hold then. -/
theorem toronto_midnight_skipped :
    DatesForward toronto ∧
    (∃ start finish, localDayUtcBounds torontoOnly (localDate toronto (-1601752500000000))
      "America/Toronto" = .ok (start, finish) ∧ -1601752500000000 < start) ∧
    ∃ result, resolveLocalDatetime torontoOnly (fun _ => none)
      (.datetime ⟨midnight (-18539), some (.own false)⟩) "America/Toronto" = .ok result ∧
      toronto.clock.offset result.utcDatetime ≠ result.utcOffset := by
  refine ⟨?_, ⟨_, _, localDayUtcBounds_eq toronto_found _, by decide⟩,
    _, (resolveLocalDatetime_ok toronto_found rfl).2 ⟨_, localOf_own, rfl⟩, by decide⟩
  intro first second hle
  unfold localDate toronto FoldClock.change WallClock.wall dayLength
  dsimp only
  split_ifs <;> omega

end Afcon360.Utils
