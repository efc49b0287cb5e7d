import Mathlib.Algebra.Order.BigOperators.Group.List
import Mathlib.Algebra.Order.Ring.Nat

/-!
# The load of weighted rows

`load weight counts rows` adds up the weights of the rows that count. The lemmas
say how the load changes with the table: a row appended, rewritten or removed, rows
deleted by a condition, and the condition itself made weaker or split in two.

Rows that stand for spans of time count at every point of their span. A check over
a whole span counts each row that meets it, so at no single point of the span does
it count too little.
-/

namespace Foundation

universe u v

variable {ρ : Type u}

/-- The weights of the rows that count, added up. -/
def load (weight : ρ → ℕ) (counts : ρ → Bool) (rows : List ρ) : ℕ :=
  ((rows.filter counts).map weight).sum

section

variable {weight : ρ → ℕ} {counts counts' : ρ → Bool} {rows : List ρ} {row old new : ρ} {i : ℕ}

@[simp] theorem load_nil : load weight counts [] = 0 := rfl

theorem load_cons (counts : ρ → Bool) (row : ρ) (rows : List ρ) :
    load weight counts (row :: rows) =
      load weight counts [row] + load weight counts rows := by
  by_cases h : counts row <;> simp [load, h]

theorem load_singleton :
    load weight counts [row] = if counts row then weight row else 0 := by
  by_cases h : counts row <;> simp [load, h]

@[simp] theorem load_append (rows more : List ρ) :
    load weight counts (rows ++ more) = load weight counts rows + load weight counts more := by
  simp [load]

theorem load_eq_sum : load weight counts rows =
    (rows.map fun row => if counts row then weight row else 0).sum := by
  induction rows with
  | nil => rfl
  | cons row rest ih => rw [load_cons, load_singleton, ih, List.map_cons, List.sum_cons]

theorem load_mono (h : ∀ row ∈ rows, counts row → counts' row) :
    load weight counts rows ≤ load weight counts' rows := by
  rw [load_eq_sum, load_eq_sum]
  refine List.sum_le_sum fun row hrow => ?_
  have hhead := h row hrow
  grind

theorem load_map_le {f : ρ → ρ} (hweight : ∀ row ∈ rows, weight (f row) = weight row)
    (h : ∀ row ∈ rows, counts' (f row) → counts row) :
    load weight counts' (rows.map f) ≤ load weight counts rows := by
  rw [load_eq_sum, load_eq_sum, List.map_map]
  refine List.sum_le_sum fun row hrow => ?_
  have hhead := h row hrow
  have hsame := hweight row hrow
  simp only [Function.comp_apply]
  grind

theorem load_map_le_add {f : ρ → ρ} {more : ρ → Bool}
    (hweight : ∀ row ∈ rows, weight (f row) = weight row)
    (h : ∀ row ∈ rows, counts' (f row) → counts row ∨ more row) :
    load weight counts' (rows.map f) ≤ load weight counts rows + load weight more rows := by
  rw [load_eq_sum, load_eq_sum, load_eq_sum, List.map_map, ← List.sum_map_add]
  refine List.sum_le_sum fun row hrow => ?_
  have hhead := h row hrow
  have hsame := hweight row hrow
  simp only [Function.comp_apply]
  grind

/-- Rows kept by a condition: the two conditions together count. -/
theorem load_filter (keep : ρ → Bool) :
    load weight counts (rows.filter keep) =
      load weight (fun row => counts row && keep row) rows := by
  simp [load, List.filter_filter]

theorem load_sublist_le {kept : List ρ} (h : kept.Sublist rows) :
    load weight counts kept ≤ load weight counts rows :=
  ((h.filter counts).map weight).sum_le_sum (fun _ _ => Nat.zero_le _)

/-- Two conditions that exclude each other, both part of a third. -/
theorem load_add_le {left right : ρ → Bool} (hleft : ∀ row ∈ rows, left row → counts row)
    (hright : ∀ row ∈ rows, right row → counts row)
    (apart : ∀ row ∈ rows, ¬ (left row = true ∧ right row = true)) :
    load weight left rows + load weight right rows ≤ load weight counts rows := by
  rw [load_eq_sum, load_eq_sum, load_eq_sum, ← List.sum_map_add]
  refine List.sum_le_sum fun row hrow => ?_
  have hl := hleft row hrow
  have hr := hright row hrow
  have hnot := apart row hrow
  grind

theorem load_eraseIdx (weight : ρ → ℕ) (counts : ρ → Bool) (h : rows[i]? = some old) :
    load weight counts (rows.eraseIdx i) + load weight counts [old] =
      load weight counts rows := by
  induction rows generalizing i with
  | nil => cases h
  | cons row rest ih =>
    cases i with
    | zero =>
      obtain rfl : row = old := Option.some.inj h
      rw [List.eraseIdx_cons_zero, load_cons counts row rest]
      omega
    | succ i =>
      have htail := ih (i := i) h
      rw [List.eraseIdx_cons_succ, load_cons counts row (rest.eraseIdx i),
        load_cons counts row rest]
      omega

theorem load_set (h : rows[i]? = some old) :
    load weight counts (rows.set i new) =
      load weight counts (rows.eraseIdx i) + load weight counts [new] := by
  induction rows generalizing i with
  | nil => cases h
  | cons row rest ih =>
    cases i with
    | zero =>
      rw [List.set_cons_zero, List.eraseIdx_cons_zero, load_cons counts new rest]
      omega
    | succ i =>
      have htail := ih (i := i) h
      rw [List.set_cons_succ, List.eraseIdx_cons_succ, load_cons counts row (rest.set i new),
        load_cons counts row (rest.eraseIdx i), htail]
      omega

/-- The same said without the other rows. -/
theorem load_modify (weight : ρ → ℕ) (counts : ρ → Bool) (f : ρ → ρ) (h : rows[i]? = some old) :
    load weight counts (rows.modify i f) + load weight counts [old] =
      load weight counts rows + load weight counts [f old] := by
  have hset : rows.modify i f = rows.set i (f old) := by
    rw [List.modify_eq_set_getElem?, h]
    rfl
  have herase := load_eraseIdx weight counts h
  rw [hset, load_set h]
  omega

end

/-! ## Spans -/

variable {τ : Type v} [LinearOrder τ]

/-- The point lies in the half-open span. -/
def covers (start stop point : τ) : Bool := start ≤ point ∧ point < stop

/-- The two half-open spans meet. -/
def overlaps (start stop start' stop' : τ) : Bool := start < stop' ∧ start' < stop

theorem overlaps_of_covers {start stop start' stop' point : τ} (h : covers start stop point)
    (h' : covers start' stop' point) : overlaps start stop start' stop' := by
  simp only [covers, overlaps, decide_eq_true_eq] at *
  exact ⟨lt_of_le_of_lt h.1 h'.2, lt_of_le_of_lt h'.1 h.2⟩

end Foundation
