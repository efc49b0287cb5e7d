import Afcon360.Transport.SupplyCapacity

/-!
# When declared supply covers a window

`_assert_continuous_coverage` sorts the slices it is given by their starts and moves a cursor
over them. The slices may overlap, lie inside each other or be empty: it returns exactly
where every instant of the window lies in one of them. The slices that do not meet the
window, which the statement before it leaves out, make no difference to that.
-/

namespace Afcon360.Transport

open Foundation

/-- `_assert_continuous_coverage` for slices in any order. -/
def assertWindowCovered (supplies : List SupplyRow) (windowStart windowEnd : ℤ) :
    Except ReservationError Unit :=
  assertContinuousCoverage windowEnd windowStart
    (supplies.insertionSort (fun first second => first.1.windowStart ≤ second.1.windowStart))

/-- The slices of the pool, with those that do not meet the window. -/
def ReservationTables.declaredSupplies (tables : ReservationTables) (pool : Pool) :
    List SupplyRow :=
  tables.supplies.zipIdx.filter (fun entry => entry.1.pool = pool && !entry.1.isDeleted)

/-- Some slice has the instant. -/
def Supplied (supplies : List SupplyRow) (instant : ℤ) : Prop :=
  ∃ entry ∈ supplies, covers entry.1.windowStart entry.1.windowEnd instant = true

variable {supplies rows : List SupplyRow} {cursor windowStart windowEnd : ℤ}

/-- The other half of the loop: the cursor itself is the instant that a gap leaves out. -/
theorem assert_of_covered
    (sorted : rows.Pairwise (fun first second => first.1.windowStart ≤ second.1.windowStart))
    (hcursor : cursor < windowEnd)
    (h : ∀ instant, covers cursor windowEnd instant = true → Supplied rows instant) :
    assertContinuousCoverage windowEnd cursor rows = .ok () := by
  induction rows generalizing cursor with
  | nil =>
    obtain ⟨entry, hentry, -⟩ := h cursor (by simp [covers, hcursor])
    cases hentry
  | cons entry rest ih =>
    obtain ⟨slice, position⟩ := entry
    obtain ⟨hfirst, hrest⟩ := List.pairwise_cons.mp sorted
    -- what this slice does not have is in the rest
    have tail : ∀ cursor', cursor ≤ cursor' → slice.windowEnd ≤ cursor' →
        ∀ instant, covers cursor' windowEnd instant = true → Supplied rest instant := by
      intro cursor' hle hend instant hinstant
      simp only [covers, decide_eq_true_eq] at hinstant
      obtain ⟨found, hfound, hcovers⟩ := h instant (by simp [covers]; omega)
      obtain rfl | hmem := List.mem_cons.mp hfound
      · simp only [covers, decide_eq_true_eq] at hcovers
        omega
      · exact ⟨found, hmem, hcovers⟩
    unfold assertContinuousCoverage
    by_cases hpassed : slice.windowEnd ≤ cursor
    · rw [if_pos hpassed]
      exact ih hrest hcursor (tail cursor (le_refl _) hpassed)
    rw [if_neg hpassed]
    have hstart : ¬ cursor < slice.windowStart := by
      intro hgap
      obtain ⟨found, hfound, hcovers⟩ := h cursor (by simp [covers, hcursor])
      simp only [covers, decide_eq_true_eq] at hcovers
      obtain rfl | hmem := List.mem_cons.mp hfound
      · exact absurd hcovers.1 (not_le.mpr hgap)
      · have hlater : slice.windowStart ≤ found.1.windowStart := hfirst found hmem
        omega
    rw [if_neg hstart]
    by_cases hdone : windowEnd ≤ max cursor slice.windowEnd
    · rw [if_pos hdone]
    · rw [if_neg hdone]
      exact ih hrest (not_le.mp hdone) (tail _ (le_max_left _ _) (le_max_right _ _))

theorem sorted_pairwise (supplies : List SupplyRow) :
    (supplies.insertionSort (fun first second =>
      first.1.windowStart ≤ second.1.windowStart)).Pairwise
        (fun first second => first.1.windowStart ≤ second.1.windowStart) := by
  have total : Std.Total (fun first second : SupplyRow =>
      first.1.windowStart ≤ second.1.windowStart) := ⟨fun _ _ => le_total _ _⟩
  have trans : IsTrans SupplyRow (fun first second =>
      first.1.windowStart ≤ second.1.windowStart) := ⟨fun _ _ _ => le_trans⟩
  exact List.pairwise_insertionSort _ _

theorem supplied_sorted {instant : ℤ} :
    Supplied (supplies.insertionSort (fun first second =>
      first.1.windowStart ≤ second.1.windowStart)) instant ↔ Supplied supplies instant := by
  simp only [Supplied, List.mem_insertionSort]

/-- The loop returns where every instant of the window is supplied. -/
theorem assertWindowCovered_iff (hwindow : windowStart < windowEnd) :
    assertWindowCovered supplies windowStart windowEnd = .ok () ↔
      ∀ instant, covers windowStart windowEnd instant = true → Supplied supplies instant := by
  constructor
  · intro h instant hinstant
    exact supplied_sorted.mp (covered_of_assert h instant hinstant)
  · intro h
    exact assert_of_covered (sorted_pairwise supplies) hwindow
      (fun instant hinstant => supplied_sorted.mpr (h instant hinstant))

/-- A slice that has an instant of the window meets the window. -/
theorem supplied_overlapping (tables : ReservationTables) (pool : Pool) {instant : ℤ}
    (hinstant : covers windowStart windowEnd instant = true) :
    Supplied (tables.overlappingSupplies pool windowStart windowEnd) instant ↔
      Supplied (tables.declaredSupplies pool) instant := by
  simp only [Supplied, ReservationTables.overlappingSupplies, ReservationTables.declaredSupplies,
    List.mem_insertionSort, List.mem_filter, Bool.and_eq_true]
  constructor
  · rintro ⟨entry, ⟨hmem, hpool, -⟩, hcovers⟩
    exact ⟨entry, ⟨hmem, hpool⟩, hcovers⟩
  · rintro ⟨entry, ⟨hmem, hpool⟩, hcovers⟩
    exact ⟨entry, ⟨hmem, hpool, overlaps_of_covers hcovers hinstant⟩, hcovers⟩

/-- The statement returns its rows in the order the loop wants. -/
theorem assertWindowCovered_overlapping (tables : ReservationTables) (pool : Pool) :
    assertWindowCovered (tables.overlappingSupplies pool windowStart windowEnd) windowStart
        windowEnd =
      assertContinuousCoverage windowEnd windowStart
        (tables.overlappingSupplies pool windowStart windowEnd) := by
  have hsorted := (sorted_pairwise
    (tables.supplies.zipIdx.filter (fun entry => entry.1.pool = pool && !entry.1.isDeleted &&
      overlaps entry.1.windowStart entry.1.windowEnd windowStart windowEnd))).insertionSort_eq
  rw [assertWindowCovered, ReservationTables.overlappingSupplies, hsorted]

/-- The loop decides coverage for any slices in any order; for the slices that the statement
before it selects, the answer is that for all slices of the pool. -/
theorem coverage_decided (hwindow : windowStart < windowEnd) :
    (∀ supplies : List SupplyRow, assertWindowCovered supplies windowStart windowEnd = .ok () ↔
      ∀ instant, covers windowStart windowEnd instant = true → Supplied supplies instant) ∧
    ∀ (tables : ReservationTables) (pool : Pool),
      assertContinuousCoverage windowEnd windowStart
          (tables.overlappingSupplies pool windowStart windowEnd) = .ok () ↔
        assertWindowCovered (tables.declaredSupplies pool) windowStart windowEnd = .ok () := by
  refine ⟨fun supplies => assertWindowCovered_iff hwindow, fun tables pool => ?_⟩
  rw [← assertWindowCovered_overlapping, assertWindowCovered_iff hwindow,
    assertWindowCovered_iff hwindow]
  exact forall₂_congr fun instant hinstant => supplied_overlapping tables pool hinstant

/-- Slices of a pool that are nested, empty and out of order. -/
def scattered : List SupplyRow :=
  [(⟨⟨"company", 1, "van"⟩, 6, 9, 2, false⟩, 0), (⟨⟨"company", 1, "van"⟩, 4, 4, 1, false⟩, 1),
    (⟨⟨"company", 1, "van"⟩, 0, 7, 1, false⟩, 2), (⟨⟨"company", 1, "van"⟩, 2, 3, 1, false⟩, 3)]

theorem coverage_decided_scattered :
    (∀ instant, covers 1 9 instant = true → Supplied scattered instant) ∧
      ¬ ∀ instant, covers 1 10 instant = true → Supplied scattered instant := by
  constructor
  · exact ((coverage_decided (by decide : (1 : ℤ) < 9)).1 scattered).mp (by decide +kernel)
  · intro h
    have hcovered := ((coverage_decided (by decide : (1 : ℤ) < 10)).1 scattered).mpr h
    exact absurd hcovered (by decide +kernel)

end Afcon360.Transport
