import Afcon360.Foundation.Table

/-!
# Row locks

Pieces of work that run at the same time hold locks on rows until they end. What a piece
of work holds is read off its state, so there is no table of locks: a row is free for one
of them when none of the others holds it, and taking free rows only keeps every row with at
most one holder.
-/

namespace Foundation

universe u v w

variable {ω : Type u} {ρ : Type v} {holds : ω → ρ → Bool} {work : List ω} {p q : ℕ} {new : ω}
variable {row : ρ}

/-- No other piece of work holds the row. -/
def rowFree (holds : ω → ρ → Bool) (work : List ω) (p : ℕ) (row : ρ) : Bool :=
  work.zipIdx.all (fun entry => entry.2 = p || !holds entry.1 row)

/-- Every row has at most one holder. -/
def OneHolder (holds : ω → ρ → Bool) (work : List ω) : Prop :=
  ∀ (p q : ℕ) (first second : ω) (row : ρ), work[p]? = some first → work[q]? = some second →
    holds first row = true → holds second row = true → p = q

theorem not_holds_of_rowFree {other : ω} (free : rowFree holds work p row = true)
    (hother : work[q]? = some other) (hne : q ≠ p) : holds other row = false := by
  have := List.all_eq_true.mp free (other, q) (List.mem_zipIdx_iff_getElem?.mpr hother)
  simpa [hne] using this

theorem oneHolder_nil : OneHolder holds ([] : List ω) := by
  intro p q first second row hfirst
  simp at hfirst

/-- A piece of work that goes on holds what it held and rows that were free. -/
theorem OneHolder.set {old : ω} (one : OneHolder holds work) (hold : work[p]? = some old)
    (taken : ∀ row, holds new row = true →
      holds old row = true ∨ rowFree holds work p row = true) :
    OneHolder holds (work.set p new) := by
  have alone : ∀ q other row, work[q]? = some other → q ≠ p → holds new row = true →
      holds other row = true → False := by
    intro q other row hother hne hnew hholds
    obtain hold' | free := taken row hnew
    · exact hne (one q p other old row hother hold hholds hold')
    · simp [not_holds_of_rowFree free hother hne] at hholds
  intro p' q' first second row hfirst hsecond hholds hholds'
  rcases getElem?_set_cases hfirst with ⟨hp, hnew⟩ | ⟨hp, hfirst'⟩ <;>
    obtain ⟨hq, hnew'⟩ | ⟨hq, hsecond'⟩ := getElem?_set_cases hsecond
  · rw [hp, hq]
  · exact (alone q' second row hsecond' hq (hnew ▸ hholds) hholds').elim
  · exact (alone p' first row hfirst' hp (hnew' ▸ hholds') hholds).elim
  · exact one p' q' first second row hfirst' hsecond' hholds hholds'

theorem OneHolder.append (one : OneHolder holds work) (none' : ∀ row, holds new row = false) :
    OneHolder holds (work ++ [new]) := by
  intro p q first second row hfirst hsecond hholds hholds'
  obtain hfirst | ⟨_, rfl⟩ := getElem?_append_cases hfirst
  · obtain hsecond | ⟨_, rfl⟩ := getElem?_append_cases hsecond
    · exact one p q first second row hfirst hsecond hholds hholds'
    · simp [none' row] at hholds'
  · simp [none' row] at hholds

/-! ## Work on shared tables -/

variable {τ : Type w} {P : τ → Prop} {Q : τ → ω → Prop} {tables tables' : τ}

/-- The tables are in order, and every piece of work is in order for the tables as they are. -/
structure InOrder (P : τ → Prop) (Q : τ → ω → Prop) (tables : τ) (work : List ω) : Prop where
  whole : P tables
  each : ∀ (p : ℕ) (piece : ω), work[p]? = some piece → Q tables piece

namespace InOrder

/-- A piece of work commits: it changes the tables, and the others stay in order. -/
theorem commit (order : InOrder P Q tables work) (htables : P tables') (own : Q tables' new)
    (others : ∀ q other, work[q]? = some other → q ≠ p → Q tables other → Q tables' other) :
    InOrder P Q tables' (work.set p new) where
  whole := htables
  each := by
    intro q piece hpiece
    obtain ⟨_, rfl⟩ | ⟨hq, hother⟩ := getElem?_set_cases hpiece
    · exact own
    · exact others q piece hother hq (order.each q piece hother)

/-- A piece of work goes on without changing the tables. -/
theorem set (order : InOrder P Q tables work) (own : Q tables new) :
    InOrder P Q tables (work.set p new) :=
  order.commit order.whole own (fun _ _ _ _ h => h)

theorem append (order : InOrder P Q tables work) (own : Q tables new) :
    InOrder P Q tables (work ++ [new]) where
  whole := order.whole
  each := by
    intro q piece hpiece
    obtain hpiece | ⟨_, rfl⟩ := getElem?_append_cases hpiece
    · exact order.each q piece hpiece
    · exact own

theorem nil (htables : P tables) : InOrder P Q tables ([] : List ω) where
  whole := htables
  each := by
    intro p piece hpiece
    simp at hpiece

end InOrder

end Foundation
