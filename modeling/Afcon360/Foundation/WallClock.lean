import Mathlib.Data.Int.LeastGreatest
import Mathlib.Order.Bounds.Basic

/-!
# Wall clocks

A clock shows each instant with an offset. The offset may change at any instant and by any
amount, so that a reading may be shown by several instants, or by none. A clock with folds also
answers the question which offset a reading is meant with: of the instants that show it the
first or the last; where a change of the clock skipped the reading, the offset before the
change or the one after it.
-/

namespace Foundation

/-- A clock whose offset stays within a bound, in units of time. -/
structure WallClock where
  offset : ℤ → ℤ
  bound : ℤ
  offset_lt : ∀ instant, -bound < offset instant ∧ offset instant < bound

namespace WallClock

variable (clock : WallClock)

/-- What the clock shows at an instant. -/
def wall (instant : ℤ) : ℤ := instant + clock.offset instant

def showing (reading : ℤ) : Set ℤ := {instant | clock.wall instant = reading}

/-- At this instant the clock goes forward over the reading. -/
def Skips (instant reading : ℤ) : Prop :=
  clock.wall (instant - 1) < reading ∧ reading < clock.wall instant

/-- Three instants show one reading. -/
def Thrice : Prop :=
  ∃ first second third, first < second ∧ second < third ∧
    clock.wall first = clock.wall second ∧ clock.wall second = clock.wall third

theorem wall_lt (instant : ℤ) : clock.wall instant < instant + clock.bound := by
  have := (clock.offset_lt instant).2
  unfold wall
  omega

theorem lt_wall (instant : ℤ) : instant - clock.bound < clock.wall instant := by
  have := (clock.offset_lt instant).1
  unfold wall
  omega

variable {clock}

theorem offset_eq {instant reading : ℤ} (h : clock.wall instant = reading) :
    clock.offset instant = reading - instant := by
  unfold wall at h
  omega

/-- The first instant that shows at least the reading. -/
theorem exists_reaching (reading : ℤ) :
    ∃ instant, reading ≤ clock.wall instant ∧ ∀ other, other < instant →
      clock.wall other < reading := by
  obtain ⟨instant, hreach, hleast⟩ := Int.exists_least_of_bdd
    (P := fun i => reading ≤ clock.wall i)
    ⟨reading - clock.bound, fun i hi => by have := clock.wall_lt i; omega⟩
    ⟨reading + clock.bound, by have := clock.lt_wall (reading + clock.bound); omega⟩
  refine ⟨instant, hreach, fun other hother => ?_⟩
  by_contra hle
  have := hleast other (by omega)
  omega

theorem exists_first {instant reading : ℤ} (h : clock.wall instant = reading) :
    ∃ first, IsLeast (clock.showing reading) first := by
  obtain ⟨first, hshow, hleast⟩ := Int.exists_least_of_bdd
    (P := fun i => clock.wall i = reading)
    ⟨reading - clock.bound, fun i hi => by have := clock.wall_lt i; omega⟩
    ⟨instant, h⟩
  exact ⟨first, hshow, fun other hother => hleast other hother⟩

theorem exists_last {instant reading : ℤ} (h : clock.wall instant = reading) :
    ∃ last, IsGreatest (clock.showing reading) last := by
  obtain ⟨last, hshow, hgreatest⟩ := Int.exists_greatest_of_bdd
    (P := fun i => clock.wall i = reading)
    ⟨reading + clock.bound, fun i hi => by have := clock.lt_wall i; omega⟩
    ⟨instant, h⟩
  exact ⟨last, hshow, fun other hother => hgreatest other hother⟩

end WallClock

/-- A clock that says which offset a reading is meant with, by the fold of the reading. -/
structure FoldClock extends WallClock where
  wallOffset : ℤ → Bool → ℤ
  first_offset : ∀ reading instant, IsLeast (toWallClock.showing reading) instant →
    wallOffset reading false = offset instant
  last_offset : ∀ reading instant, IsGreatest (toWallClock.showing reading) instant →
    wallOffset reading true = offset instant
  skipped_offset : ∀ reading, (∀ instant, toWallClock.wall instant ≠ reading) →
    ∃ first last, first ≤ last ∧ toWallClock.Skips first reading ∧
      toWallClock.Skips last reading ∧ wallOffset reading false = offset (first - 1) ∧
      wallOffset reading true = offset last

namespace FoldClock

variable (clock : FoldClock)

/-- The instant a reading is taken for. -/
def instantOf (reading : ℤ) (fold : Bool) : ℤ := reading - clock.wallOffset reading fold

/-- The fold an instant is shown with: set where its reading is the repetition of another. -/
def foldAt (instant : ℤ) : Bool :=
  clock.wallOffset (clock.wall instant) false != clock.offset instant

variable {clock}

variable {reading instant : ℤ}

theorem instantOf_false (h : IsLeast (clock.showing reading) instant) :
    clock.instantOf reading false = instant := by
  rw [instantOf, clock.first_offset reading instant h, WallClock.offset_eq h.1]
  omega

theorem instantOf_true (h : IsGreatest (clock.showing reading) instant) :
    clock.instantOf reading true = instant := by
  rw [instantOf, clock.last_offset reading instant h, WallClock.offset_eq h.1]
  omega

/-- A reading that is shown at all is taken for an instant that shows it, by either fold. -/
theorem wall_instantOf (h : clock.wall instant = reading) (fold : Bool) :
    clock.wall (clock.instantOf reading fold) = reading := by
  cases fold with
  | false =>
    obtain ⟨first, hfirst⟩ := WallClock.exists_first h
    rw [instantOf_false hfirst]
    exact hfirst.1
  | true =>
    obtain ⟨last, hlast⟩ := WallClock.exists_last h
    rw [instantOf_true hlast]
    exact hlast.1

/-- The two folds agree on a reading exactly when one instant shows it. -/
theorem instantOf_eq_iff (h : clock.wall instant = reading) :
    clock.instantOf reading false = clock.instantOf reading true ↔
      ∀ other, clock.wall other = reading → other = instant := by
  obtain ⟨first, hfirst⟩ := WallClock.exists_first h
  obtain ⟨last, hlast⟩ := WallClock.exists_last h
  rw [instantOf_false hfirst, instantOf_true hlast]
  constructor
  · intro heq other hother
    have h1 := hfirst.2 hother
    have h2 := hlast.2 hother
    have h3 := hfirst.2 h
    have h4 := hlast.2 h
    omega
  · intro honly
    rw [honly first hfirst.1, honly last hlast.1]

/-- The offset the clock reads back at an instant, by the fold it shows the instant with. -/
def offsetAt (clock : FoldClock) (instant : ℤ) : ℤ :=
  clock.wallOffset (clock.wall instant) (clock.foldAt instant)

theorem offsetAt_of_false {instant : ℤ}
    (h : clock.wallOffset (clock.wall instant) false = clock.offset instant) :
    clock.offsetAt instant = clock.offset instant := by
  have hfold : clock.foldAt instant = false := by simp [foldAt, h]
  rw [offsetAt, hfold, h]

theorem offsetAt_of_true {instant : ℤ}
    (h : clock.wallOffset (clock.wall instant) true = clock.offset instant) :
    clock.offsetAt instant = clock.offset instant := by
  by_cases hfalse : clock.wallOffset (clock.wall instant) false = clock.offset instant
  · exact offsetAt_of_false hfalse
  · have hfold : clock.foldAt instant = true := by simp [foldAt, hfalse]
    rw [offsetAt, hfold, h]

theorem offset_instantOf (h : clock.wall instant = reading) (fold : Bool) :
    clock.offset (clock.instantOf reading fold) = clock.wallOffset reading fold := by
  rw [WallClock.offset_eq (wall_instantOf h fold), instantOf]
  omega

/-- The instant that a reading is taken for reads back the offset it was taken with. -/
theorem offsetAt_instantOf (h : clock.wall instant = reading) (fold : Bool) :
    clock.offsetAt (clock.instantOf reading fold) =
      clock.offset (clock.instantOf reading fold) := by
  have hback := offset_instantOf h fold
  rw [← wall_instantOf h fold] at hback
  cases fold with
  | false => exact offsetAt_of_false (by simpa [wall_instantOf h] using hback.symm)
  | true => exact offsetAt_of_true (by simpa [wall_instantOf h] using hback.symm)

/-- One bit tells two instants of one reading apart, not three. -/
theorem offsetAt_eq_iff :
    (∀ instant, clock.offsetAt instant = clock.offset instant) ↔ ¬ clock.Thrice := by
  constructor
  · rintro hback ⟨first, second, third, h12, h23, hw12, hw23⟩
    obtain ⟨least, hleast⟩ := WallClock.exists_first (rfl : _ = clock.wall second)
    obtain ⟨greatest, hgreatest⟩ := WallClock.exists_last (rfl : _ = clock.wall second)
    have hle : least ≤ first := hleast.2 hw12
    have hge : third ≤ greatest := hgreatest.2 hw23.symm
    have hfalse := clock.first_offset _ _ hleast
    have htrue := clock.last_offset _ _ hgreatest
    have h1 := WallClock.offset_eq hleast.1
    have h2 := WallClock.offset_eq hgreatest.1
    have h3 := WallClock.offset_eq (rfl : _ = clock.wall second)
    have hfold : clock.foldAt second = true := by
      simp only [foldAt, bne_iff_ne, ne_eq]
      omega
    have hsecond := hback second
    rw [offsetAt, hfold] at hsecond
    omega
  · intro htwice instant
    obtain ⟨least, hleast⟩ := WallClock.exists_first (rfl : _ = clock.wall instant)
    obtain ⟨greatest, hgreatest⟩ := WallClock.exists_last (rfl : _ = clock.wall instant)
    have hle : least ≤ instant := hleast.2 rfl
    have hge : instant ≤ greatest := hgreatest.2 rfl
    obtain heq | hlt := eq_or_lt_of_le hle
    · subst heq
      exact offsetAt_of_false (clock.first_offset _ _ hleast)
    obtain heq | hlt' := eq_or_lt_of_le hge
    · subst heq
      exact offsetAt_of_true (clock.last_offset _ _ hgreatest)
    exact absurd ⟨least, instant, greatest, hlt, hlt', hleast.1, hgreatest.1.symm⟩ htwice

/-- A reading that no instant shows is taken for an instant at or after a skip over it. -/
theorem exists_skips {reading : ℤ} (h : ∀ instant, clock.wall instant ≠ reading) :
    ∃ change, clock.Skips change reading ∧
      clock.instantOf reading false = reading - clock.offset (change - 1) := by
  obtain ⟨change, -, -, hskip, -, hfalse, -⟩ := clock.skipped_offset reading h
  exact ⟨change, hskip, by rw [instantOf, hfalse]⟩

/-! ### A clock with one change -/

/-- The clock that changes once, with the offsets of a reading as they follow from the two. -/
def change (at_ before after bound : ℤ) (hbefore : -bound < before ∧ before < bound)
    (hafter : -bound < after ∧ after < bound) : FoldClock where
  offset instant := if instant < at_ then before else after
  bound := bound
  offset_lt instant := by
    split
    · exact hbefore
    · exact hafter
  wallOffset reading fold :=
    if reading < at_ + (if fold then min before after else max before after) then before else after
  first_offset reading instant h := by
    have hshow : instant + (if instant < at_ then before else after) = reading := h.1
    have hleast := fun other (ho : other + (if other < at_ then before else after) = reading) =>
      h.2 ho
    have h1 := hleast (reading - before)
    have h2 := hleast (reading - after)
    simp only [Bool.false_eq_true, if_false]
    split_ifs at * <;> omega
  last_offset reading instant h := by
    have hshow : instant + (if instant < at_ then before else after) = reading := h.1
    have hgreatest := fun other (ho : other + (if other < at_ then before else after) = reading) =>
      h.2 ho
    have h1 := hgreatest (reading - before)
    have h2 := hgreatest (reading - after)
    simp only [if_true]
    split_ifs at * <;> omega
  skipped_offset reading h := by
    have h1 : (reading - before) + (if reading - before < at_ then before else after) ≠ reading :=
      h (reading - before)
    have h2 : (reading - after) + (if reading - after < at_ then before else after) ≠ reading :=
      h (reading - after)
    refine ⟨at_, at_, le_rfl, ?_, ?_, ?_, ?_⟩
    all_goals
      simp only [WallClock.Skips, WallClock.wall, Bool.false_eq_true, if_false, if_true]
      split_ifs at * <;> omega

end FoldClock

end Foundation
