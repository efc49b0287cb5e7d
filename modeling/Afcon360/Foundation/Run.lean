import Mathlib.Data.List.Basic

/-!
# Runs of labelled transitions

A run is a finite sequence of labelled steps between two states. The step is a
relation, so one label may lead to several states and a label that is not
enabled simply has no step. Interleavings are runs whose labels name the party
that moves; a crash is a label like any other.

`Run.invariant` is the induction every safety result goes through. A guard
restricts the steps of a run to those whose state before the step and whose
label satisfy a condition.
-/

namespace Foundation

universe u v

variable {σ : Type u} {α : Type v}

/-- `Run step s labels t`: the steps named by `labels`, in this order, lead
from `s` to `t`. -/
inductive Run (step : σ → α → σ → Prop) : σ → List α → σ → Prop
  | nil (s : σ) : Run step s [] s
  | cons {s middle t : σ} {a : α} {labels : List α} :
      step s a middle → Run step middle labels t → Run step s (a :: labels) t

/-- Keep the steps whose source state and label meet `guard`. -/
def Guarded (guard : σ → α → Prop) (step : σ → α → σ → Prop) : σ → α → σ → Prop :=
  fun s a t => guard s a ∧ step s a t

namespace Run

variable {step : σ → α → σ → Prop} {s middle t : σ} {a : α} {labels rest : List α}

theorem single (h : step s a t) : Run step s [a] t := .cons h (.nil t)

theorem append (first : Run step s labels middle) (second : Run step middle rest t) :
    Run step s (labels ++ rest) t := by
  induction first with
  | nil _ => exact second
  | cons h _ ih => exact .cons h (ih second)

/-- A property kept by every step holds at the end of every run from a state
that has it. Since prefixes of runs are runs, it holds in every state reached. -/
theorem invariant (inv : σ → Prop) (preserved : ∀ s a t, inv s → step s a t → inv t)
    (run : Run step s labels t) (start : inv s) : inv t := by
  induction run with
  | nil _ => exact start
  | cons h _ ih => exact ih (preserved _ _ _ start h)

/-- The two-state form: a reflexive and transitive relation that contains every
step relates the two ends of every run. -/
theorem relation (rel : σ → σ → Prop) (refl : ∀ s, rel s s)
    (trans : ∀ s middle t, rel s middle → rel middle t → rel s t)
    (contains : ∀ s a t, step s a t → rel s t) (run : Run step s labels t) : rel s t := by
  induction run with
  | nil s => exact refl s
  | cons h _ ih => exact trans _ _ _ (contains _ _ _ h) ih

theorem mono {step' : σ → α → σ → Prop} (sub : ∀ s a t, step s a t → step' s a t)
    (run : Run step s labels t) : Run step' s labels t := by
  induction run with
  | nil s => exact .nil s
  | cons h _ ih => exact .cons (sub _ _ _ h) ih

/-- A guarded run is a run. -/
theorem of_guarded {guard : σ → α → Prop} (run : Run (Guarded guard step) s labels t) :
    Run step s labels t :=
  run.mono (fun _ _ _ h => h.2)

end Run

variable {labels : List α} {s : σ}

/-- A total transition function has a run for all labels. -/
theorem Run.foldl (next : σ → α → σ) (s : σ) (labels : List α) :
    Run (fun s a t => next s a = t) s labels (labels.foldl next s) := by
  induction labels generalizing s with
  | nil => exact .nil s
  | cons a rest ih => exact .cons rfl (ih (next s a))

/-- The guard holds before every step of the transition function along the labels. -/
def meets (next : σ → α → σ) (guard : σ → α → Prop) [∀ s a, Decidable (guard s a)] :
    σ → List α → Bool
  | _, [] => true
  | s, a :: labels => guard s a && meets next guard (next s a) labels

/-- A transition function runs guarded where the guard is met. -/
theorem Run.guarded_foldl {next : σ → α → σ} {guard : σ → α → Prop}
    [∀ s a, Decidable (guard s a)] (h : meets next guard s labels = true) :
    Run (Guarded guard (fun s a t => next s a = t)) s labels (labels.foldl next s) := by
  induction labels generalizing s with
  | nil => exact .nil s
  | cons a rest ih =>
    simp only [meets, Bool.and_eq_true, decide_eq_true_eq] at h
    exact .cons ⟨h.1, rfl⟩ (ih h.2)

/-- Every step of a transition function along the labels has a property of the state before it
and its label. -/
def Along (next : σ → α → σ) (P : σ → α → Prop) (s : σ) (labels : List α) : Prop :=
  ∀ done a rest, labels = done ++ a :: rest → P (done.foldl next s) a

theorem along_nil (next : σ → α → σ) (P : σ → α → Prop) (s : σ) : Along next P s [] := by
  intro done a rest h
  exact absurd h (by simp)

theorem along_cons {next : σ → α → σ} {P : σ → α → Prop} {a : α} :
    Along next P s (a :: labels) ↔ P s a ∧ Along next P (next s a) labels := by
  constructor
  · intro h
    exact ⟨h [] a labels rfl, fun done b rest heq => h (a :: done) b rest (by rw [heq]; rfl)⟩
  · rintro ⟨hfirst, hrest⟩ done b rest heq
    cases done with
    | nil =>
      cases heq
      exact hfirst
    | cons first done =>
      cases heq
      exact hrest done b rest rfl

/-- Two properties of steps that agree where an invariant holds agree along whole runs, when
the first of them keeps the invariant. -/
theorem along_iff {next : σ → α → σ} {P Q : σ → α → Prop} (inv : σ → Prop)
    (keeps : ∀ s a, inv s → P s a → inv (next s a)) (agree : ∀ s a, inv s → (P s a ↔ Q s a))
    (start : inv s) :
    Along next P s labels ↔ Along next Q s labels := by
  induction labels generalizing s with
  | nil => exact iff_of_true (along_nil next P s) (along_nil next Q s)
  | cons a rest ih =>
    rw [along_cons, along_cons, ← agree s a start]
    exact and_congr_right fun h => ih (keeps s a start h)

/-- Follow a transition function along the labels; `none` when one of them is
not enabled. -/
def exec (next : σ → α → Option σ) (s : σ) : List α → Option σ
  | [] => some s
  | a :: labels => (next s a).bind (fun middle => exec next middle labels)

theorem Run.of_exec {next : σ → α → Option σ} {step : σ → α → σ → Prop}
    (sub : ∀ s a t, next s a = some t → step s a t) {s t : σ}
    (h : exec next s labels = some t) : Run step s labels t := by
  induction labels generalizing s with
  | nil =>
    cases h
    exact .nil _
  | cons a rest ih =>
    obtain ⟨middle, hstep, hrest⟩ := Option.bind_eq_some_iff.mp h
    exact .cons (sub _ _ _ hstep) (ih hrest)

end Foundation
