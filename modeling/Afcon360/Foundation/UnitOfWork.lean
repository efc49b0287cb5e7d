import Mathlib.Data.List.Basic

/-!
# Sessions that collect rows

A session collects rows and writes them later: a flush writes those that wait into the open
transaction, a commit flushes and ends the transaction. When a flush fails the transaction is
rolled back and the session is deactivated: until its owner rolls back, every further flush
and commit is refused.

What the database does with rows is a parameter: `store` gives the state after they are
written, or nothing when one of them is refused.
-/

namespace Foundation

universe u v

variable {σ : Type u} {ρ : Type v}

structure UnitOfWork (σ : Type u) (ρ : Type v) where
  committed : σ
  working : σ
  pending : List ρ := []
  deactivated : Bool := false

namespace UnitOfWork

variable (store : σ → List ρ → Option σ) {work left : UnitOfWork σ ρ} {rows : List ρ}

def add (work : UnitOfWork σ ρ) (rows : List ρ) : UnitOfWork σ ρ :=
  { work with pending := work.pending ++ rows }

/-- Whether the flush succeeds, and what it leaves. -/
def flush (work : UnitOfWork σ ρ) : Bool × UnitOfWork σ ρ :=
  if work.deactivated then (false, work)
  else
    match store work.working work.pending with
    | some working => (true, { work with working := working, pending := [] })
    | none => (false, { work with working := work.committed, deactivated := true })

/-- What a commit leaves in the database; nothing when it raises. -/
def commit (work : UnitOfWork σ ρ) : Option σ :=
  match work.flush store with
  | (true, left) => some left.working
  | (false, _) => none

/-- The flush writes what waits. -/
def Flushes (work : UnitOfWork σ ρ) : Prop :=
  work.deactivated = false ∧ (store work.working work.pending).isSome = true

instance (work : UnitOfWork σ ρ) : Decidable (work.Flushes store) :=
  inferInstanceAs (Decidable (_ ∧ _))

variable {store}

theorem flush_of_flushes (h : work.Flushes store) :
    ∃ working, store work.working work.pending = some working ∧
      work.flush store = (true, { work with working := working, pending := [] }) := by
  obtain ⟨hactive, hstore⟩ := h
  obtain ⟨working, hworking⟩ := Option.isSome_iff_exists.mp hstore
  refine ⟨working, hworking, ?_⟩
  rw [flush, hactive, hworking]
  rfl

/-- A flush that fails leaves a deactivated session. -/
theorem flush_of_not_flushes (h : ¬ work.Flushes store) :
    ∃ left, work.flush store = (false, left) ∧ left.deactivated = true := by
  unfold flush
  split
  · exact ⟨work, rfl, ‹_›⟩
  · rename_i hactive
    have hnone : store work.working work.pending = none := by
      rw [← Option.not_isSome_iff_eq_none]
      exact fun hsome => h ⟨Bool.eq_false_iff.mpr hactive, hsome⟩
    rw [hnone]
    exact ⟨_, rfl, rfl⟩

theorem flush_deactivated (h : work.deactivated = true) : work.flush store = (false, work) :=
  if_pos h

theorem commit_deactivated (h : work.deactivated = true) : work.commit store = none := by
  rw [commit, flush_deactivated h]

theorem commit_eq_some {state : σ} (h : work.commit store = some state) :
    store work.working work.pending = some state := by
  unfold commit at h
  split at h
  · rename_i left hflush
    cases h
    unfold flush at hflush
    split at hflush
    · cases hflush
    · split at hflush
      · rename_i hstore
        cases hflush
        exact hstore
      · cases hflush
  · cases h

end UnitOfWork

end Foundation
