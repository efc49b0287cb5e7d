import Mathlib.Data.List.Perm.Subperm
import Mathlib.Data.List.Sort

/-!
# Sweeping a table in pages

A job settles the rows of a table that are due, a page at a time: those after the cursor,
in the order of their keys, at most `n` of them. A row that is settled is deleted or is not
due any more, and a full page moves the cursor to its last key.

Time may pass between the pages. What was due at the first page is settled exactly once by
the first page that is not full; what is settled was due when its page was read.
-/

namespace Foundation

universe u v

/-- How the rows of a table are swept: what settling makes of a row, `none` for deleting
it. -/
structure Sweep (α : Type u) (τ : Type v) [LE τ] where
  key : α → ℕ
  due : τ → α → Bool
  settle : α → Option α
  due_mono : ∀ {now later : τ} {row : α}, now ≤ later → due now row = true → due later row = true
  settle_key : ∀ {row settled : α}, settle row = some settled → key settled = key row
  settle_due : ∀ {row settled : α}, settle row = some settled → ∀ now, due now settled = false

namespace Sweep

variable {α : Type u} {τ : Type v} [LE τ] (sweep : Sweep α τ)

/-- The rows of one page. -/
def page (rows : List α) (now : τ) (after n : ℕ) : List α :=
  ((rows.filter (fun row => sweep.due now row && decide (after < sweep.key row))).insertionSort
    (fun a b => sweep.key a ≤ sweep.key b)).take n

/-- Settle the rows with the given keys. -/
def settleAll (rows : List α) (keys : List ℕ) : List α :=
  rows.filterMap (fun row => if sweep.key row ∈ keys then sweep.settle row else some row)

/-- Where the next page starts. -/
def cursor (page : List α) (after n : ℕ) : ℕ :=
  if n ≤ page.length then (page.map sweep.key).getLastD after else after

/-- The rows due at first are settled, each once, and nothing that was not due at last. -/
structure Settles (rows : List α) (first last : τ) (done : List ℕ) : Prop where
  once : done.Nodup
  complete : ∀ row ∈ rows, sweep.due first row = true → sweep.key row ∈ done
  justified : ∀ key ∈ done, ∃ row ∈ rows, sweep.key row = key ∧ sweep.due last row = true

/-- A sweep under way: what was due at first is settled or still ahead. -/
structure Progress (rows : List α) (first last : τ) (after : ℕ) (done : List ℕ) : Prop where
  once : done.Nodup
  ahead : ∀ row ∈ rows, sweep.due first row = true →
    after < sweep.key row ∨ sweep.key row ∈ done
  justified : ∀ key ∈ done, ∃ row ∈ rows, sweep.key row = key ∧ sweep.due last row = true

variable {sweep}
variable {rows : List α} {row : α} {first last now : τ} {after n : ℕ} {keys done : List ℕ}

/-! ## Pages -/

theorem mem_of_mem_page (h : row ∈ sweep.page rows now after n) :
    row ∈ rows ∧ sweep.due now row = true ∧ after < sweep.key row := by
  have hmem := List.mem_filter.mp ((List.mem_insertionSort _).mp (List.mem_of_mem_take h))
  simpa using hmem

theorem sorted_pairwise (sweep : Sweep α τ) (rows : List α) :
    (rows.insertionSort (fun a b => sweep.key a ≤ sweep.key b)).Pairwise
      (fun a b => sweep.key a ≤ sweep.key b) := by
  have total : Std.Total (fun a b : α => sweep.key a ≤ sweep.key b) :=
    ⟨fun a b => Nat.le_total _ _⟩
  have transitive : IsTrans α (fun a b => sweep.key a ≤ sweep.key b) :=
    ⟨fun _ _ _ => Nat.le_trans⟩
  exact List.pairwise_insertionSort _ _

theorem page_keys_nodup (nodup : (rows.map sweep.key).Nodup) :
    ((sweep.page rows now after n).map sweep.key).Nodup := by
  refine List.Nodup.sublist ((List.take_sublist n _).map _) ?_
  refine (List.Perm.nodup_iff ((List.perm_insertionSort _ _).map _)).mpr ?_
  exact List.Nodup.sublist (List.filter_sublist.map _) nodup

/-- Of a table that is listed by its keys the page is the next ones that are due. -/
theorem page_keys_of_sorted (sweep : Sweep α τ) (rows : List α) (now : τ) (after n : ℕ)
    (sorted : (rows.map sweep.key).Pairwise (· < ·)) :
    (sweep.page rows now after n).map sweep.key =
      (((rows.filter (sweep.due now)).map sweep.key).filter (fun key => after < key)).take n := by
  have total : Std.Total (fun a b : α => sweep.key a ≤ sweep.key b) :=
    ⟨fun a b => Nat.le_total _ _⟩
  have transitive : IsTrans α (fun a b => sweep.key a ≤ sweep.key b) :=
    ⟨fun _ _ _ => Nat.le_trans⟩
  have hrows : rows.Pairwise (fun a b => sweep.key a ≤ sweep.key b) :=
    (List.pairwise_map.mp sorted).imp (fun h => Nat.le_of_lt h)
  rw [page, (hrows.filter _).insertionSort_eq, List.map_take, List.filter_map, List.filter_filter]
  congr 2
  refine List.filter_congr (fun row _ => ?_)
  exact Bool.and_comm _ _

/-- A page that is not full holds all that is due after the cursor. -/
theorem mem_page_of_short (hshort : (sweep.page rows now after n).length < n)
    (hrow : row ∈ rows) (hdue : sweep.due now row = true) (hafter : after < sweep.key row) :
    row ∈ sweep.page rows now after n := by
  unfold page at hshort ⊢
  rw [List.length_take] at hshort
  rw [List.take_of_length_le (by omega), List.mem_insertionSort, List.mem_filter]
  exact ⟨hrow, by simp [hdue, hafter]⟩

/-- A page leaves nothing out before its rows. -/
theorem mem_page_of_le (nodup : (rows.map sweep.key).Nodup) {later : α}
    (hlater : later ∈ sweep.page rows now after n) (hrow : row ∈ rows)
    (hdue : sweep.due now row = true) (hafter : after < sweep.key row)
    (hle : sweep.key row ≤ sweep.key later) : row ∈ sweep.page rows now after n := by
  have hsorted := sorted_pairwise sweep
    (rows.filter (fun row => sweep.due now row && decide (after < sweep.key row)))
  have hmem : row ∈ (rows.filter
      (fun row => sweep.due now row && decide (after < sweep.key row))).insertionSort
        (fun a b => sweep.key a ≤ sweep.key b) := by
    rw [List.mem_insertionSort, List.mem_filter]
    exact ⟨hrow, by simp [hdue, hafter]⟩
  unfold page at hlater ⊢
  rw [← List.take_append_drop n (List.insertionSort _ _)] at hsorted hmem
  obtain htake | hdrop := List.mem_append.mp hmem
  · exact htake
  · -- A row of the rest is not before the page, so it has the same key.
    have hge := (List.pairwise_append.mp hsorted).2.2 later hlater row hdrop
    have hsame := List.inj_on_of_nodup_map nodup (mem_of_mem_page hlater).1 hrow
      (Nat.le_antisymm hge hle)
    rwa [← hsame]

/-! ## Settling -/

theorem mem_settleAll {settled : α} : settled ∈ sweep.settleAll rows keys ↔
    ∃ row ∈ rows, (if sweep.key row ∈ keys then sweep.settle row else some row) = some settled := by
  rw [settleAll, List.mem_filterMap]

theorem mem_settleAll_of_not_mem (hrow : row ∈ rows) (hkey : sweep.key row ∉ keys) :
    row ∈ sweep.settleAll rows keys :=
  mem_settleAll.mpr ⟨row, hrow, by simp [hkey]⟩

/-- A row that is due has not been settled. -/
theorem mem_of_due (h : row ∈ sweep.settleAll rows keys) (hdue : sweep.due now row = true) :
    row ∈ rows ∧ sweep.key row ∉ keys := by
  obtain ⟨found, hfound, hsettled⟩ := mem_settleAll.mp h
  split at hsettled
  · rw [sweep.settle_due hsettled] at hdue
    cases hdue
  · rename_i hkey
    cases hsettled
    exact ⟨hfound, hkey⟩

theorem settleAll_keys_sublist (rows : List α) (keys : List ℕ) :
    ((sweep.settleAll rows keys).map sweep.key).Sublist (rows.map sweep.key) := by
  induction rows with
  | nil => exact .slnil
  | cons row rest ih =>
    rw [settleAll, List.filterMap_cons]
    split
    · exact ih.cons _
    · rename_i settled hsettled
      have hkey : sweep.key settled = sweep.key row := by
        split at hsettled
        · exact sweep.settle_key hsettled
        · rw [Option.some.inj hsettled]
      rw [List.map_cons, List.map_cons, hkey]
      exact ih.cons_cons _

/-- Settling in two goes. -/
theorem settleAll_settleAll {more : List ℕ}
    (apart : ∀ row ∈ rows, sweep.key row ∈ keys → sweep.key row ∉ more) :
    sweep.settleAll (sweep.settleAll rows keys) more = sweep.settleAll rows (keys ++ more) := by
  unfold settleAll
  rw [List.filterMap_filterMap]
  refine List.filterMap_congr (fun row hrow => ?_)
  by_cases hkeys : sweep.key row ∈ keys
  · have hmore := apart row hrow hkeys
    cases hsettled : sweep.settle row with
    | none => simp [hkeys]
    | some settled => simp [hkeys, sweep.settle_key hsettled, hmore]
  · simp [hkeys]

/-! ## A sweep under way -/

theorem Progress.start (positive : ∀ row ∈ rows, 0 < sweep.key row) (now : τ) :
    sweep.Progress rows now now 0 [] where
  once := .nil
  ahead := fun row hrow _ => .inl (positive row hrow)
  justified := by simp

theorem Progress.length_le (h : sweep.Progress rows first last after done) :
    done.length ≤ rows.length := by
  have hsubset : done ⊆ rows.map sweep.key := by
    intro key hkey
    obtain ⟨row, hrow, rfl, -⟩ := h.justified key hkey
    exact List.mem_map_of_mem hrow
  simpa using (List.subperm_of_subset h.once hsubset).length_le

/-- What is on the page has not been settled before. -/
theorem not_mem_of_mem_page (h : row ∈ sweep.page (sweep.settleAll rows done) now after n) :
    row ∈ rows ∧ sweep.key row ∉ done ∧ sweep.due now row = true := by
  obtain ⟨hmem, hdue, -⟩ := mem_of_mem_page h
  obtain ⟨hrow, hkey⟩ := mem_of_due hmem hdue
  exact ⟨hrow, hkey, hdue⟩

/-- The rows of the page are settled with those before. -/
theorem settleAll_page (sweep : Sweep α τ) (rows : List α) (done : List ℕ) (now : τ)
    (after n : ℕ) :
    sweep.settleAll (sweep.settleAll rows done)
        ((sweep.page (sweep.settleAll rows done) now after n).map sweep.key) =
      sweep.settleAll rows
        (done ++ (sweep.page (sweep.settleAll rows done) now after n).map sweep.key) := by
  apply settleAll_settleAll
  intro row _ hdone hpage
  obtain ⟨found, hfound, hkey⟩ := List.mem_map.mp hpage
  exact (not_mem_of_mem_page hfound).2.1 (by rwa [hkey])

/-- One page: the sweep goes on from the new cursor. -/
theorem Progress.step (nodup : (rows.map sweep.key).Nodup)
    (h : sweep.Progress rows first last after done) (hfirst : first ≤ now) (hlast : last ≤ now) :
    sweep.Progress rows first now
      (sweep.cursor (sweep.page (sweep.settleAll rows done) now after n) after n)
      (done ++ (sweep.page (sweep.settleAll rows done) now after n).map sweep.key) := by
  have hnodup := nodup.sublist (settleAll_keys_sublist rows done)
  refine ⟨?_, ?_, ?_⟩
  · refine List.nodup_append.mpr ⟨h.once, page_keys_nodup hnodup, ?_⟩
    rintro key hkey _ hpage rfl
    obtain ⟨found, hfound, rfl⟩ := List.mem_map.mp hpage
    exact (not_mem_of_mem_page hfound).2.1 hkey
  · intro row hrow hdue
    obtain hafter | hdone := h.ahead row hrow hdue
    · by_cases hdone : sweep.key row ∈ done
      · exact .inr (List.mem_append_left _ hdone)
      · have hmem := mem_settleAll_of_not_mem hrow hdone
        have hnow := sweep.due_mono hfirst hdue
        unfold cursor
        split
        · -- Up to the last row of a full page nothing due is left out.
          by_cases hle : sweep.key row ≤
              ((sweep.page (sweep.settleAll rows done) now after n).map sweep.key).getLastD after
          · have hpage : (sweep.page (sweep.settleAll rows done) now after n).map sweep.key
              ≠ [] := by
              intro hnil
              rw [hnil] at hle
              exact absurd hafter (Nat.not_lt.mpr hle)
            rw [List.getLastD_eq_getLast?, List.getLast?_eq_some_getLast hpage,
              Option.getD_some] at hle
            obtain ⟨later, hlater, hkey⟩ := List.mem_map.mp (List.getLast_mem hpage)
            rw [← hkey] at hle
            exact .inr (List.mem_append_right _
              (List.mem_map_of_mem (mem_page_of_le hnodup hlater hmem hnow hafter hle)))
          · exact .inl (Nat.lt_of_not_le hle)
        · exact .inl hafter
    · exact .inr (List.mem_append_left _ hdone)
  · intro key hkey
    obtain hdone | hpage := List.mem_append.mp hkey
    · obtain ⟨row, hrow, hrowKey, hdue⟩ := h.justified key hdone
      exact ⟨row, hrow, hrowKey, sweep.due_mono hlast hdue⟩
    · obtain ⟨found, hfound, rfl⟩ := List.mem_map.mp hpage
      obtain ⟨hrow, -, hdue⟩ := not_mem_of_mem_page hfound
      exact ⟨found, hrow, rfl, hdue⟩

/-- After a page that is not full the sweep is over. -/
theorem Progress.finish (nodup : (rows.map sweep.key).Nodup)
    (h : sweep.Progress rows first last after done) (hfirst : first ≤ now) (hlast : last ≤ now)
    (hshort : (sweep.page (sweep.settleAll rows done) now after n).length < n) :
    sweep.Settles rows first now
      (done ++ (sweep.page (sweep.settleAll rows done) now after n).map sweep.key) := by
  have hstep := h.step (n := n) nodup hfirst hlast
  refine ⟨hstep.once, ?_, hstep.justified⟩
  intro row hrow hdue
  by_cases hdone : sweep.key row ∈ done
  · exact List.mem_append_left _ hdone
  · obtain hafter | hdone' := h.ahead row hrow hdue
    · have hmem := mem_settleAll_of_not_mem hrow hdone
      exact List.mem_append_right _ (List.mem_map_of_mem
        (mem_page_of_short hshort hmem (sweep.due_mono hfirst hdue) hafter))
    · exact absurd hdone' hdone

/-- Where no time passes, the rows that are due are settled and no others. -/
theorem Settles.mem_iff (nodup : (rows.map sweep.key).Nodup) (h : sweep.Settles rows now now done)
    (hrow : row ∈ rows) : sweep.key row ∈ done ↔ sweep.due now row = true := by
  constructor
  · intro hkey
    obtain ⟨found, hfound, hsame, hdue⟩ := h.justified _ hkey
    rwa [← List.inj_on_of_nodup_map nodup hfound hrow hsame]
  · exact h.complete row hrow

end Sweep

end Foundation
