import Mathlib.Data.List.Basic

/-!
# Codes that can be used once

At each place lies at most one code, stored with an expiry. A log of what happens to the
codes, with the latest event first, says which code lies at a place: the one stored last, if
nothing has happened at the place since.

A log is sound when each use found its code lying at the place and not expired. Then a code
is used at a place at most as often as it was stored there, and between a use and the store
it goes back to nothing happened at the place.
-/

namespace Foundation

universe u v

/-- A code is stored, used, or withdrawn without a use. -/
inductive CodeEvent (κ : Type u) (γ : Type v) (ε τ : Type)
  | stored (place : κ) (code : γ) (expiry : ε)
  | used (place : κ) (code : γ) (time : τ)
  | withdrawn (place : κ)
deriving DecidableEq, Repr

namespace CodeEvent

variable {κ : Type u} {γ : Type v} {ε τ : Type}

def place : CodeEvent κ γ ε τ → κ
  | stored place _ _ => place
  | used place _ _ => place
  | withdrawn place => place

/-- What an event leaves at its place. -/
def leaves : CodeEvent κ γ ε τ → Option (γ × ε)
  | stored _ code expiry => some (code, expiry)
  | _ => none

variable [DecidableEq κ] [DecidableEq γ]

def isStored (place : κ) (code : γ) : CodeEvent κ γ ε τ → Bool
  | stored place' code' _ => place' = place ∧ code' = code
  | _ => false

def isUsed (place : κ) (code : γ) : CodeEvent κ γ ε τ → Bool
  | used place' code' _ => place' = place ∧ code' = code
  | _ => false

def isWithdrawn (place : κ) : CodeEvent κ γ ε τ → Bool
  | withdrawn place' => place' = place
  | _ => false

end CodeEvent

open CodeEvent

variable {κ : Type u} {γ : Type v} {ε τ : Type} [DecidableEq κ] {place : κ} {code : γ} {expiry : ε}
  {time : τ} {event : CodeEvent κ γ ε τ} {log later earlier : List (CodeEvent κ γ ε τ)}
  {valid : τ → ε → Prop}

/-- The code that lies at a place. -/
def current (place : κ) : List (CodeEvent κ γ ε τ) → Option (γ × ε)
  | [] => none
  | event :: log =>
    if event.place = place then event.leaves else current place log

theorem current_cons (h : event.place = place) : current place (event :: log) = event.leaves :=
  if_pos h

theorem current_cons_of_ne (h : event.place ≠ place) :
    current place (event :: log) = current place log :=
  if_neg h

/-- What lies at a place was stored there, and nothing has happened there since. -/
theorem current_eq_some (h : current place log = some (code, expiry)) :
    ∃ between rest, log = between ++ .stored place code expiry :: rest ∧
      ∀ event ∈ between, event.place ≠ place := by
  induction log with
  | nil => cases h
  | cons event log ih =>
    by_cases hplace : event.place = place
    · rw [current_cons hplace] at h
      cases event with
      | stored place' code' expiry' =>
        cases h
        obtain rfl : place' = place := hplace
        exact ⟨[], log, rfl, fun _ hevent => by cases hevent⟩
      | used place' code' time => cases h
      | withdrawn place' => cases h
    · rw [current_cons_of_ne hplace] at h
      obtain ⟨between, rest, rfl, hbetween⟩ := ih h
      refine ⟨event :: between, rest, rfl, ?_⟩
      intro other hother
      obtain rfl | hmem := List.mem_cons.mp hother
      · exact hplace
      · exact hbetween other hmem

/-- Each use found its code at the place, with an expiry that was still valid. -/
def Sound (valid : τ → ε → Prop) : List (CodeEvent κ γ ε τ) → Prop
  | [] => True
  | .used place code time :: log =>
    (∃ expiry, current place log = some (code, expiry) ∧ valid time expiry) ∧ Sound valid log
  | _ :: log => Sound valid log

theorem Sound.tail (h : Sound valid (event :: log)) : Sound valid log := by
  cases event with
  | used place code time => exact h.2
  | stored place code expiry => exact h
  | withdrawn place => exact h

/-- A use goes back to a store of its code, still valid, with nothing at the place between. -/
theorem Sound.used (h : Sound valid (later ++ .used place code time :: earlier)) :
    ∃ expiry between rest, earlier = between ++ .stored place code expiry :: rest ∧
      valid time expiry ∧ ∀ event ∈ between, event.place ≠ place := by
  induction later with
  | nil =>
    obtain ⟨⟨expiry, hcurrent, hvalid⟩, -⟩ := h
    obtain ⟨between, rest, hsplit, hbetween⟩ := current_eq_some hcurrent
    exact ⟨expiry, between, rest, hsplit, hvalid, hbetween⟩
  | cons event later ih => exact ih h.tail

variable [DecidableEq γ]

/-- The code lies at the place. -/
def lies (place : κ) (code : γ) (log : List (CodeEvent κ γ ε τ)) : ℕ :=
  if (current place log).map Prod.fst = some code then 1 else 0

theorem lies_le_one : lies place code log ≤ 1 := by
  unfold lies
  split <;> omega

theorem lies_cons (h : event.place = place) :
    lies place code (event :: log) = if event.leaves.map Prod.fst = some code then 1 else 0 := by
  rw [lies, current_cons h]

theorem lies_cons_of_ne (h : event.place ≠ place) :
    lies place code (event :: log) = lies place code log := by
  rw [lies, lies, current_cons_of_ne h]

/-- A store that was not used up is still to be counted. -/
theorem Sound.used_le_stored (h : Sound valid log) (place : κ) (code : γ) :
    log.countP (isUsed place code) + lies place code log ≤ log.countP (isStored place code) := by
  induction log with
  | nil => simp [lies, current]
  | cons event log ih =>
    have hrest := ih h.tail
    have hone : lies place code log ≤ 1 := lies_le_one
    rw [List.countP_cons, List.countP_cons]
    by_cases hplace : event.place = place
    · rw [lies_cons hplace]
      cases event with
      | stored place' code' expiry =>
        by_cases hcode : code' = code
        · simp [isUsed, isStored, leaves, hcode, show place' = place from hplace]
          omega
        · simp [isUsed, isStored, leaves, hcode]
          omega
      | used place' code' time =>
        obtain ⟨⟨expiry, hcurrent, -⟩, -⟩ := h
        by_cases hcode : code' = code
        · have hlies : lies place code log = 1 := by
            simp [lies, ← show place' = place from hplace, hcurrent, hcode]
          simp [isUsed, isStored, leaves, hcode, show place' = place from hplace]
          omega
        · simp [isUsed, isStored, leaves, hcode]
          omega
      | withdrawn place' =>
        simp [isUsed, isStored, leaves]
        omega
    · rw [lies_cons_of_ne hplace]
      have hother : isUsed place code event = false ∧ isStored place code event = false := by
        cases event <;> simp_all [isUsed, isStored, CodeEvent.place]
      rw [hother.1, hother.2]
      simpa using hrest

end Foundation
