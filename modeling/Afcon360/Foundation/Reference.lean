import Afcon360.Foundation.Holdings

/-!
# References that are added late and pruned early

A target becomes live before the reference to it is written, and a reference is taken out
some time after its target was seen to be gone. In between, the call that does either holds
an intention: it still has the reference to add, or to drop.

`Kept` is what remains true of one target and its reference while such calls take turns: a
live target has a call that will still add its reference, or it is referenced and no call
means to drop it. One step of one call keeps this as long as a reference is not added under
a pending removal.
-/

namespace Foundation

universe u

variable {γ : Type u} {adds drops : γ → Prop} {calls : List γ} {place : ℕ} {old new : γ}
variable {live listed live' listed' : Prop}

/-- A live target is about to be referenced, or referenced with no removal pending. -/
def Kept (adds drops : γ → Prop) (calls : List γ) (live listed : Prop) : Prop :=
  live → (∃ call ∈ calls, adds call) ∨ (listed ∧ ∀ call ∈ calls, ¬ drops call)

/-- What one call does to one target and its reference. -/
structure Touches (adds drops : γ → Prop) (old new : γ) (live listed live' listed' : Prop) :
    Prop where
  revived : live' → live ∨ adds new
  added : live' → adds old → adds new ∨ (listed' ∧ ¬ drops new)
  removed : live' → listed → listed' ∨ drops old
  marked : live' → listed → drops new → drops old

namespace Touches

/-- A call that adds no reference. -/
theorem of_not_adds (hadds : ¬ adds old) (hlive : live' → live)
    (hlisted : live' → listed → listed' ∨ drops old)
    (hdrops : live' → listed → drops new → drops old) :
    Touches adds drops old new live listed live' listed' where
  revived h := .inl (hlive h)
  added _ h := absurd h hadds
  removed := hlisted
  marked := hdrops

theorem of_read (hadds : ¬ adds old) (hdrops : live → listed → drops new → drops old) :
    Touches adds drops old new live listed live listed :=
  of_not_adds hadds id (fun _ => .inl) hdrops

end Touches

theorem mem_set_self (h : calls[place]? = some old) : new ∈ calls.set place new := by
  have hlt : place < calls.length := (List.getElem?_eq_some_iff.mp h).1
  exact List.mem_iff_getElem?.mpr ⟨place, by simp [hlt]⟩

namespace Kept

/-- The call at a place takes a step. A reference that the step adds must not be under a
pending removal. -/
theorem set (kept : Kept adds drops calls live listed) (h : calls[place]? = some old)
    (touches : Touches adds drops old new live listed live' listed')
    (clear : live' → adds old → ¬ adds new → ∀ call ∈ calls, ¬ drops call) :
    Kept adds drops (calls.set place new) live' listed' := by
  intro hlive
  have hnew : new ∈ calls.set place new := mem_set_self h
  have undropped : (∀ call ∈ calls, ¬ drops call) → ¬ drops new →
      ∀ call ∈ calls.set place new, ¬ drops call := by
    intro hall hdrops call hcall
    obtain hold | rfl := List.mem_or_eq_of_mem_set hcall
    · exact hall call hold
    · exact hdrops
  by_cases hadds : adds new
  · exact .inl ⟨new, hnew, hadds⟩
  have hlive' : live := (touches.revived hlive).resolve_right hadds
  obtain ⟨call, hcall, hcalladds⟩ | ⟨hlisted, hall⟩ := kept hlive'
  · obtain rfl | hstays := eq_or_mem_set new h hcall
    · -- the adder itself moved: it added the reference, under no pending removal
      obtain ⟨hlisted', hdrops⟩ := (touches.added hlive hcalladds).resolve_left hadds
      exact .inr ⟨hlisted', undropped (clear hlive hcalladds hadds) hdrops⟩
    · exact .inl ⟨call, hstays, hcalladds⟩
  · have hold : ¬ drops old := hall old (List.mem_iff_getElem?.mpr ⟨place, h⟩)
    have hdrops : ¬ drops new := fun hmarked => hold (touches.marked hlive hlisted hmarked)
    exact .inr ⟨(touches.removed hlive hlisted).resolve_right hold, undropped hall hdrops⟩

/-- A call begins, with nothing to add or to drop yet. -/
theorem append (kept : Kept adds drops calls live listed) (hdrops : ¬ drops new) :
    Kept adds drops (calls ++ [new]) live listed := by
  intro hlive
  obtain ⟨call, hcall, hadds⟩ | ⟨hlisted, hall⟩ := kept hlive
  · exact .inl ⟨call, List.mem_append_left _ hcall, hadds⟩
  · refine .inr ⟨hlisted, fun call hcall => ?_⟩
    obtain hold | hnew := List.mem_append.mp hcall
    · exact hall call hold
    · rw [List.mem_singleton.mp hnew]
      exact hdrops

/-- Targets that go away leave nothing to keep. -/
theorem mono (kept : Kept adds drops calls live listed) (h : live' → live) :
    Kept adds drops calls live' listed :=
  fun hlive => kept (h hlive)

end Kept

end Foundation
