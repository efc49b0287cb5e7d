import Mathlib.Order.Lattice
import Mathlib.Data.List.Induction
import Mathlib.Data.List.Pairwise

/-!
# Versions that come into force

Each row of a history has a rank and a moment from which it is in force. At a moment `t`
the row of highest rank among those in force counts. `latest` finds it by one pass over the
rows in any order.

Where ranks are unique, part of a history gives the same answer exactly where it still has
the row that counts.
-/

namespace Foundation

universe u v w

variable {ρ : Type u} {τ : Type v} {κ : Type w} [LinearOrder τ] [LinearOrder κ]
variable {start : ρ → τ} {rank : ρ → κ} {t : τ} {rows part : List ρ} {row : ρ}

/-- Take the row if it is in force and ranks above the best one so far. -/
def supersede (start : ρ → τ) (rank : ρ → κ) (t : τ) (best : Option ρ) (row : ρ) : Option ρ :=
  if start row ≤ t ∧ best.all (fun other => decide (rank other < rank row)) then some row
  else best

/-- The row of highest rank in force at `t`. -/
def latest (start : ρ → τ) (rank : ρ → κ) (t : τ) (rows : List ρ) : Option ρ :=
  rows.foldl (supersede start rank t) none

/-- The row is in force at `t` and no other row in force ranks above it. -/
structure IsLatest (start : ρ → τ) (rank : ρ → κ) (t : τ) (rows : List ρ) (row : ρ) : Prop where
  mem : row ∈ rows
  inForce : start row ≤ t
  highest : ∀ other ∈ rows, start other ≤ t → rank other ≤ rank row

theorem latest_append :
    latest start rank t (rows ++ [row]) =
      supersede start rank t (latest start rank t rows) row := by
  simp [latest, List.foldl_append]

theorem isLatest_append_new (hforce : start row ≤ t)
    (h : ∀ other ∈ rows, start other ≤ t → rank other ≤ rank row) :
    IsLatest start rank t (rows ++ [row]) row := by
  refine ⟨by simp, hforce, ?_⟩
  intro other hmem hother
  obtain hold | hnew := List.mem_append.mp hmem
  · exact h other hold hother
  · rw [List.mem_singleton.mp hnew]

theorem IsLatest.append_old {best : ρ} (h : IsLatest start rank t rows best)
    (hrow : start row ≤ t → rank row ≤ rank best) :
    IsLatest start rank t (rows ++ [row]) best := by
  refine ⟨List.mem_append_left _ h.mem, h.inForce, ?_⟩
  intro other hmem hother
  obtain hold | hnew := List.mem_append.mp hmem
  · exact h.highest other hold hother
  · rw [List.mem_singleton.mp hnew] at hother ⊢
    exact hrow hother

/-- What one pass is to find: nothing where no row is in force, the highest otherwise. -/
def Finds (start : ρ → τ) (rank : ρ → κ) (t : τ) (rows : List ρ) : Option ρ → Prop
  | none => ∀ row ∈ rows, t < start row
  | some row => IsLatest start rank t rows row

theorem Finds.supersede {best : Option ρ} (h : Finds start rank t rows best) :
    Finds start rank t (rows ++ [row]) (supersede start rank t best row) := by
  unfold Foundation.supersede
  split
  · rename_i hrow
    refine isLatest_append_new hrow.1 ?_
    cases best with
    | none => exact fun other hmem hother => absurd hother (not_le.mpr (h other hmem))
    | some best =>
      have hrank : rank best < rank row := by simpa using hrow.2
      exact fun other hmem hother => (h.highest other hmem hother).trans hrank.le
  · rename_i hrow
    cases best with
    | none =>
      have hlater : t < start row := by simpa using hrow
      intro other hmem
      obtain hold | hnew := List.mem_append.mp hmem
      · exact h other hold
      · rwa [List.mem_singleton.mp hnew]
    | some best =>
      refine h.append_old (fun hforce => ?_)
      by_contra hrank
      exact hrow ⟨hforce, by simpa using hrank⟩

theorem finds_latest (start : ρ → τ) (rank : ρ → κ) (t : τ) (rows : List ρ) :
    Finds start rank t rows (latest start rank t rows) := by
  induction rows using List.reverseRecOn with
  | nil => exact fun row hmem => absurd hmem List.not_mem_nil
  | append_singleton rows row ih =>
    rw [latest_append]
    exact ih.supersede

theorem latest_eq_none_iff :
    latest start rank t rows = none ↔ ∀ row ∈ rows, t < start row := by
  have hspec := finds_latest start rank t rows
  constructor
  · intro h
    rw [h] at hspec
    exact hspec
  · intro h
    cases hlatest : latest start rank t rows with
    | none => rfl
    | some row =>
      rw [hlatest] at hspec
      exact absurd hspec.inForce (not_le.mpr (h row hspec.mem))

theorem isLatest_of_latest (h : latest start rank t rows = some row) :
    IsLatest start rank t rows row := by
  have hspec := finds_latest start rank t rows
  rw [h] at hspec
  exact hspec

/-- Ranks are unique in the history. -/
def UniqueRanks (rank : ρ → κ) (rows : List ρ) : Prop :=
  ∀ row ∈ rows, ∀ other ∈ rows, rank row = rank other → row = other

theorem latest_eq_some_iff (unique : UniqueRanks rank rows) :
    latest start rank t rows = some row ↔ IsLatest start rank t rows row := by
  constructor
  · exact isLatest_of_latest
  · intro h
    cases hlatest : latest start rank t rows with
    | none =>
      exact absurd h.inForce (not_le.mpr (latest_eq_none_iff.mp hlatest row h.mem))
    | some other =>
      have hother := isLatest_of_latest hlatest
      have hrank : rank other = rank row :=
        le_antisymm (h.highest other hother.mem hother.inForce)
          (hother.highest row h.mem h.inForce)
      rw [unique other hother.mem row h.mem hrank]

/-- Part of a history answers as the whole does exactly where it has the row that counts. -/
theorem latest_part_iff (unique : UniqueRanks rank rows) (sub : part ⊆ rows) :
    latest start rank t part = latest start rank t rows ↔
      ∀ row, latest start rank t rows = some row → row ∈ part := by
  have uniquePart : UniqueRanks rank part :=
    fun row hrow other hother => unique row (sub hrow) other (sub hother)
  constructor
  · intro h row hrow
    exact (isLatest_of_latest (h.trans hrow)).mem
  · intro h
    cases hwhole : latest start rank t rows with
    | none =>
      rw [latest_eq_none_iff] at hwhole ⊢
      exact fun row hrow => hwhole row (sub hrow)
    | some row =>
      have hrow := isLatest_of_latest hwhole
      rw [latest_eq_some_iff uniquePart]
      exact ⟨h row hwhole, hrow.inForce, fun other hother => hrow.highest other (sub hother)⟩

/-! ## A history of which the ends are left -/

/-- The last element and the first one. -/
def ends {α : Type u} : List α → List α
  | [] => []
  | [value] => [value]
  | first :: value :: rest => [(value :: rest).getLast (List.cons_ne_nil _ _), first]

section Ends

variable {α : Type u}

theorem ends_append (first : α) (rest : List α) (value : α) :
    ends (first :: rest ++ [value]) = [value, first] := by
  cases rest with
  | nil => rfl
  | cons second rest =>
    have hlast : (second :: rest ++ [value]).getLast (by simp) = value := List.getLast_concat
    exact congrArg (fun last => [last, first]) hlast

theorem ends_subset (values : List α) : ends values ⊆ values := by
  match values with
  | [] => exact List.Subset.refl _
  | [value] => exact List.Subset.refl _
  | first :: value :: rest =>
    intro found hfound
    obtain rfl | hfirst := List.mem_cons.mp hfound
    · exact List.mem_cons_of_mem _ (List.getLast_mem _)
    · rw [List.mem_singleton.mp hfirst]
      exact List.mem_cons_self

theorem head?_ends (values : List α) : (ends values).head? = values.getLast? := by
  match values with
  | [] => rfl
  | [value] => rfl
  | first :: value :: rest => rfl

/-- A list is empty, a single element, or has two different ends. -/
theorem ends_cases (values : List α) :
    values = [] ∨ (∃ value, values = [value]) ∨
      ∃ first middle last, values = first :: (middle ++ [last]) := by
  match values with
  | [] => exact .inl rfl
  | [value] => exact .inr (.inl ⟨value, rfl⟩)
  | first :: value :: rest =>
    refine .inr (.inr ⟨first, (value :: rest).dropLast, (value :: rest).getLast (by simp), ?_⟩)
    rw [List.dropLast_concat_getLast]

end Ends

/-- Ranks rise from row to row. -/
def Rising (rank : ρ → κ) (rows : List ρ) : Prop :=
  rows.Pairwise fun row later => rank row < rank later

theorem Rising.unique (rising : Rising rank rows) : UniqueRanks rank rows := by
  intro row hrow other hother
  refine List.Pairwise.forall_of_forall_of_flip
    (R := fun row other => rank row = rank other → row = other) (fun _ _ _ => rfl) ?_ ?_ hrow hother
  · exact rising.imp fun hlt heq => absurd heq hlt.ne
  · exact rising.imp fun hlt heq => absurd heq hlt.ne'

theorem latest_pair {first last : ρ} (hrank : rank first < rank last) :
    latest start rank t [last, first] =
      if start last ≤ t then some last else latest start rank t [first] := by
  split
  · rename_i hforce
    have hbest : supersede start rank t none last = some last := by simp [supersede, hforce]
    have hkeep : supersede start rank t (some last) first = some last := by
      rw [supersede, if_neg]
      simp [hrank.le]
    simp [latest, hbest, hkeep]
  · rename_i hforce
    simp [latest, supersede, hforce]

/-- With its two ends alone, a history of rising ranks answers rightly at `t` exactly if a
row between them is in force only where the last one is. -/
theorem latest_ends_iff (rising : Rising rank rows) :
    latest start rank t (ends rows) = latest start rank t rows ↔
      ∀ between ∈ rows.tail.dropLast, start between ≤ t →
        ∀ last ∈ rows.getLast?, start last ≤ t := by
  obtain rfl | ⟨value, rfl⟩ | ⟨first, middle, last, rfl⟩ := ends_cases rows
  · simp [ends]
  · simp [ends]
  have hends : ends (first :: (middle ++ [last])) = [last, first] := ends_append first middle last
  have hsub : [last, first] ⊆ first :: (middle ++ [last]) := by simp
  rw [hends, latest_part_iff rising.unique hsub]
  have hfirst : ∀ row ∈ middle ++ [last], rank first < rank row := (List.pairwise_cons.mp rising).1
  have hlast : ∀ row ∈ middle, rank row < rank last := by
    intro row hrow
    exact (List.pairwise_append.mp (List.pairwise_cons.mp rising).2).2.2 row hrow last
      (List.mem_singleton.mpr rfl)
  have hbetween : (first :: (middle ++ [last])).tail.dropLast = middle := by simp
  have hnewest : (first :: (middle ++ [last])).getLast? = some last := by
    rw [← List.cons_append, List.getLast?_concat]
  rw [hbetween, hnewest]
  constructor
  · intro h between hmem hforce newest hmemLast
    cases hmemLast
    have hwhole : between ∈ first :: (middle ++ [last]) := by simp [hmem]
    cases hcounts : latest start rank t (first :: (middle ++ [last])) with
    | none => exact absurd hforce (not_le.mpr (latest_eq_none_iff.mp hcounts between hwhole))
    | some row =>
      have hrow := isLatest_of_latest hcounts
      obtain rfl | hold := List.mem_cons.mp (h row hcounts)
      · exact hrow.inForce
      · rw [List.mem_singleton.mp hold] at hrow
        have habove := hfirst between (List.mem_append_left _ hmem)
        exact absurd habove (not_lt.mpr (hrow.highest between hwhole hforce))
  · intro h row hcounts
    have hrow := isLatest_of_latest hcounts
    obtain rfl | hrest := List.mem_cons.mp hrow.mem
    · simp
    · obtain hmem | hmem := List.mem_append.mp hrest
      · have hforce := h row hmem hrow.inForce last rfl
        exact absurd (hlast row hmem) (not_lt.mpr (hrow.highest last (by simp) hforce))
      · simp [List.mem_singleton.mp hmem]

/-- A row that comes into force later pushes the last one out. -/
theorem latest_ends_append_iff (rising : Rising rank (rows ++ [row])) (h : t < start row) :
    latest start rank t (ends (rows ++ [row])) = latest start rank t (ends rows) ↔
      (2 ≤ rows.length → ∀ last ∈ rows.getLast?, t < start last) := by
  obtain rfl | ⟨value, rfl⟩ | ⟨first, middle, last, rfl⟩ := ends_cases rows
  · simp [ends, latest, supersede, not_le.mpr h]
  · have hvalue : rank value < rank row := by simpa [Rising] using rising
    have hends : ends ([value] ++ [row]) = [row, value] := rfl
    rw [hends, latest_pair hvalue, if_neg (not_le.mpr h)]
    simp [ends]
  · have hold : ends (first :: (middle ++ [last])) = [last, first] := ends_append first middle last
    have hnew : ends (first :: (middle ++ [last]) ++ [row]) = [row, first] :=
      ends_append first (middle ++ [last]) row
    have hfirst : ∀ other ∈ middle ++ [last] ++ [row], rank first < rank other :=
      (List.pairwise_cons.mp rising).1
    have hnewest : (first :: (middle ++ [last])).getLast? = some last := by
      rw [← List.cons_append, List.getLast?_concat]
    have hlastRank : rank first < rank last := hfirst last (by simp)
    rw [hold, hnew, latest_pair (hfirst row (by simp)), if_neg (not_le.mpr h),
      latest_pair hlastRank, hnewest]
    have htwo : 2 ≤ (first :: (middle ++ [last])).length := by simp
    by_cases hforce : start last ≤ t
    · rw [if_pos hforce]
      constructor
      · intro heq
        have hmem := (isLatest_of_latest heq).mem
        rw [List.mem_singleton.mp hmem] at hlastRank
        exact absurd hlastRank (lt_irrefl _)
      · intro hlater
        exact absurd hforce (not_le.mpr (hlater htwo last rfl))
    · rw [if_neg hforce]
      simp [not_le.mp hforce]

end Foundation
