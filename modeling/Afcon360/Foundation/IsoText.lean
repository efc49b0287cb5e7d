import Mathlib.Algebra.Order.Group.Int
import Mathlib.Algebra.Ring.Nat
import Mathlib.Tactic.Common

/-!
# ISO texts of datetimes

A datetime is what a calendar and a clock show, with an offset in minutes or without one. It is
written in the extended ISO form; the fraction is left out if it is zero. The reader of this form
returns the datetime that was written.

Writers put their text before a rest, and readers leave the rest.
-/

namespace Foundation.Iso

/-! ## Digits -/

/-- The last digits of a number, as many as the width says. -/
def pad : ℕ → ℕ → List Char
  | 0, _ => []
  | width + 1, n => pad width (n / 10) ++ [Nat.digitChar (n % 10)]

def readNumber (width : ℕ) (chars : List Char) : Option (ℕ × List Char) :=
  let digits := chars.take width
  if digits.length = width ∧ digits.all Char.isDigit then
    some (Nat.ofDigitChars 10 digits 0, chars.drop width)
  else none

def expect (c : Char) : List Char → Option (List Char)
  | [] => none
  | other :: rest => if other = c then some rest else none

@[simp] theorem expect_cons (c : Char) (rest : List Char) : expect c (c :: rest) = some rest := by
  simp [expect]

@[simp] theorem length_pad (width n : ℕ) : (pad width n).length = width := by
  induction width generalizing n with
  | zero => rfl
  | succ width ih => simp [pad, ih]

theorem isDigit_of_mem_pad {width n : ℕ} {c : Char} (h : c ∈ pad width n) :
    c.isDigit = true := by
  induction width generalizing n with
  | zero => cases h
  | succ width ih =>
    obtain h | h := List.mem_append.mp h
    · exact ih h
    · rw [List.mem_singleton.mp h, Nat.isDigit_digitChar]
      exact decide_eq_true (Nat.mod_lt n (by decide))

theorem ofDigitChars_pad {width n : ℕ} (h : n < 10 ^ width) :
    Nat.ofDigitChars 10 (pad width n) 0 = n := by
  induction width generalizing n with
  | zero =>
    have hzero : n = 0 := by simpa using h
    rw [hzero]
    rfl
  | succ width ih =>
    have hrest : n / 10 < 10 ^ width := by
      rw [Nat.pow_succ] at h
      omega
    rw [pad, Nat.ofDigitChars_append, ih hrest,
      Nat.ofDigitChars_cons_digitChar_of_lt_ten (Nat.mod_lt n (by decide)), Nat.ofDigitChars_nil]
    omega

/-- A number that fits is read as it was written. -/
@[simp] theorem readNumber_pad {width n : ℕ} (h : n < 10 ^ width) (rest : List Char) :
    readNumber width (pad width n ++ rest) = some (n, rest) := by
  have htake : (pad width n ++ rest).take width = pad width n :=
    List.take_left' (length_pad width n)
  have hdrop : (pad width n ++ rest).drop width = rest := List.drop_left' (length_pad width n)
  have hdigits : (pad width n).all Char.isDigit = true :=
    List.all_eq_true.mpr fun _ => isDigit_of_mem_pad
  simp only [readNumber, htake, hdrop, length_pad, hdigits, and_self, if_true, ofDigitChars_pad h]

/-! ## Datetimes -/

def daysInMonth (year month : ℕ) : ℕ :=
  if month = 2 then if year % 4 = 0 ∧ (year % 100 ≠ 0 ∨ year % 400 = 0) then 29 else 28
  else if month ∈ [4, 6, 9, 11] then 30 else 31

/-- The fields of a datetime. -/
structure Stamp where
  year : ℕ
  month : ℕ
  day : ℕ
  hour : ℕ
  minute : ℕ
  second : ℕ
  microsecond : ℕ
  offset : Option ℤ
deriving DecidableEq, Repr

/-- There is such a day and such a time, and the offset is of less than a day. -/
structure Stamp.Valid (s : Stamp) : Prop where
  year : 1 ≤ s.year ∧ s.year ≤ 9999
  month : 1 ≤ s.month ∧ s.month ≤ 12
  day : 1 ≤ s.day ∧ s.day ≤ daysInMonth s.year s.month
  time : s.hour < 24 ∧ s.minute < 60 ∧ s.second < 60 ∧ s.microsecond < 1000000
  offset : ∀ minutes ∈ s.offset, -1440 < minutes ∧ minutes < 1440

instance (s : Stamp) : Decidable s.Valid :=
  decidable_of_iff
    ((1 ≤ s.year ∧ s.year ≤ 9999) ∧ (1 ≤ s.month ∧ s.month ≤ 12) ∧
      (1 ≤ s.day ∧ s.day ≤ daysInMonth s.year s.month) ∧
      (s.hour < 24 ∧ s.minute < 60 ∧ s.second < 60 ∧ s.microsecond < 1000000) ∧
      ∀ minutes ∈ s.offset, -1440 < minutes ∧ minutes < 1440)
    ⟨fun ⟨year, month, day, time, offset⟩ => ⟨year, month, day, time, offset⟩,
      fun h => ⟨h.year, h.month, h.day, h.time, h.offset⟩⟩

abbrev DateTime := {s : Stamp // s.Valid}

theorem daysInMonth_le (year month : ℕ) : daysInMonth year month ≤ 31 := by
  unfold daysInMonth
  split_ifs <;> decide

/-! ## Writing and reading -/

def writeFraction (microsecond : ℕ) : List Char :=
  if microsecond = 0 then [] else '.' :: pad 6 microsecond

def readFraction : List Char → Option (ℕ × List Char)
  | '.' :: rest => readNumber 6 rest
  | rest => some (0, rest)

def writeOffset : Option ℤ → List Char
  | none => []
  | some minutes =>
    (if minutes < 0 then '-' else '+') :: pad 2 (minutes.natAbs / 60) ++
      ':' :: pad 2 (minutes.natAbs % 60)

def readMinutes (chars : List Char) : Option ℤ := do
  let hours ← readNumber 2 chars
  let rest ← expect ':' hours.2
  let minutes ← readNumber 2 rest
  if minutes.2 = [] then some (hours.1 * 60 + minutes.1) else none

def readOffset : List Char → Option (Option ℤ)
  | [] => some none
  | '+' :: rest => (readMinutes rest).map some
  | '-' :: rest => (readMinutes rest).map fun minutes => some (-minutes)
  | _ => none

def writeStamp (s : Stamp) : List Char :=
  pad 4 s.year ++ '-' :: (pad 2 s.month ++ '-' :: (pad 2 s.day ++ 'T' :: (pad 2 s.hour ++
    ':' :: (pad 2 s.minute ++ ':' :: (pad 2 s.second ++
      (writeFraction s.microsecond ++ writeOffset s.offset))))))

def readStamp (chars : List Char) : Option Stamp := do
  let year ← readNumber 4 chars
  let month ← readNumber 2 (← expect '-' year.2)
  let day ← readNumber 2 (← expect '-' month.2)
  let hour ← readNumber 2 (← expect 'T' day.2)
  let minute ← readNumber 2 (← expect ':' hour.2)
  let second ← readNumber 2 (← expect ':' minute.2)
  let microsecond ← readFraction second.2
  let offset ← readOffset microsecond.2
  some ⟨year.1, month.1, day.1, hour.1, minute.1, second.1, microsecond.1, offset⟩

def isoformat (d : DateTime) : String := String.ofList (writeStamp d)

def fromisoformat (text : String) : Option DateTime :=
  (readStamp text.toList).bind fun s => if h : s.Valid then some ⟨s, h⟩ else none

/-! ## Round trips -/

theorem readMinutes_pad {minutes : ℕ} (h : minutes < 1440) :
    readMinutes (pad 2 (minutes / 60) ++ ':' :: pad 2 (minutes % 60)) = some (minutes : ℤ) := by
  have hhours : minutes / 60 < 10 ^ 2 := by omega
  have hminutes : minutes % 60 < 10 ^ 2 := by omega
  have hlast := readNumber_pad hminutes []
  rw [List.append_nil] at hlast
  simp only [readMinutes, readNumber_pad hhours, expect_cons, hlast, Option.bind_eq_bind,
    Option.bind_some, if_true]
  congr 1
  omega

theorem readOffset_writeOffset {offset : Option ℤ}
    (h : ∀ minutes ∈ offset, -1440 < minutes ∧ minutes < 1440) :
    readOffset (writeOffset offset) = some offset := by
  cases offset with
  | none => rfl
  | some minutes =>
    have hrange := h minutes rfl
    have hread := readMinutes_pad (show minutes.natAbs < 1440 by omega)
    by_cases hneg : minutes < 0
    · have hback : -(minutes.natAbs : ℤ) = minutes := by omega
      simp only [writeOffset, hneg, if_true, List.cons_append, readOffset, hread,
        Option.map_some, hback]
    · have hback : (minutes.natAbs : ℤ) = minutes := by omega
      simp only [writeOffset, hneg, if_false, List.cons_append, readOffset, hread,
        Option.map_some, hback]

/-- The text of an offset does not start like a fraction. -/
theorem readFraction_writeOffset (offset : Option ℤ) :
    readFraction (writeOffset offset) = some (0, writeOffset offset) := by
  cases offset with
  | none => rfl
  | some minutes =>
    by_cases hneg : minutes < 0 <;> simp [writeOffset, hneg, readFraction]

theorem readFraction_writeFraction {microsecond : ℕ} (h : microsecond < 1000000)
    (offset : Option ℤ) :
    readFraction (writeFraction microsecond ++ writeOffset offset) =
      some (microsecond, writeOffset offset) := by
  by_cases hzero : microsecond = 0
  · simp only [writeFraction, hzero, if_true, List.nil_append, readFraction_writeOffset]
  · simp only [writeFraction, hzero, if_false, List.cons_append, readFraction]
    exact readNumber_pad h _

theorem readStamp_writeStamp {s : Stamp} (h : s.Valid) : readStamp (writeStamp s) = some s := by
  have hdays := daysInMonth_le s.year s.month
  obtain ⟨hyear, hmonth, hday, ⟨hhour, hminute, hsecond, hmicro⟩, hoffset⟩ := h
  have hyear' : s.year < 10 ^ 4 := by omega
  have hmonth' : s.month < 10 ^ 2 := by omega
  have hday' : s.day < 10 ^ 2 := by omega
  have hhour' : s.hour < 10 ^ 2 := by omega
  have hminute' : s.minute < 10 ^ 2 := by omega
  have hsecond' : s.second < 10 ^ 2 := by omega
  simp only [readStamp, writeStamp, readNumber_pad hyear', readNumber_pad hmonth',
    readNumber_pad hday', readNumber_pad hhour', readNumber_pad hminute', readNumber_pad hsecond',
    expect_cons, readFraction_writeFraction hmicro, readOffset_writeOffset hoffset,
    Option.bind_eq_bind, Option.bind_some]

/-- A datetime is read as it was written. -/
@[simp] theorem fromisoformat_isoformat (d : DateTime) : fromisoformat (isoformat d) = some d := by
  rw [fromisoformat, isoformat, String.toList_ofList, readStamp_writeStamp d.2, Option.bind_some,
    dif_pos d.2]

example : isoformat ⟨⟨2026, 8, 8, 1, 11, 10, 0, some 0⟩, by decide⟩ =
    "2026-08-08T01:11:10+00:00" := by
  rfl

/-- A text has digits and separators only. -/
theorem notMem_writeStamp {s : Stamp} {c : Char} (hdigit : c.isDigit = false)
    (hseparator : c ∉ ['-', 'T', ':', '.', '+']) : c ∉ writeStamp s := by
  have hpad : ∀ width n, c ∉ pad width n := by
    intro width n hmem
    rw [isDigit_of_mem_pad hmem] at hdigit
    cases hdigit
  simp only [List.mem_cons, List.not_mem_nil, or_false, not_or] at hseparator
  obtain ⟨hminus, hT, hcolon, hdot, hplus⟩ := hseparator
  have hfraction : c ∉ writeFraction s.microsecond := by
    unfold writeFraction
    split
    · exact List.not_mem_nil
    · simp [hdot, hpad]
  have hoffset : c ∉ writeOffset s.offset := by
    cases s.offset with
    | none => exact List.not_mem_nil
    | some minutes =>
      by_cases hneg : minutes < 0 <;>
        simp [writeOffset, hneg, hminus, hplus, hcolon, hpad]
  simp [writeStamp, hpad, hminus, hT, hcolon, hfraction, hoffset]

end Foundation.Iso
