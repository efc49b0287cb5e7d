import Mathlib.Data.List.DropRight

/-!
# Sequences of fallible steps

A call that may raise is an `Except`. The lemmas say what a call that returned
went through: each step of a sequence returned, and each guard held. `strip` is the
normalisation such calls apply to text before they check it; changing the case of a
text twice is changing it once.
-/

namespace Foundation

universe u

variable {ε : Type u} {α β : Type}

/-- The text without leading and trailing white space. -/
def strip (text : String) : String :=
  String.ofList ((text.toList.dropWhile Char.isWhitespace).reverse.dropWhile
    Char.isWhitespace).reverse

theorem map_idempotent {f : Char → Char} (h : ∀ c, f (f c) = f c) (text : String) :
    (text.map f).map f = text.map f := by
  rw [String.map_map, show f ∘ f = f from funext h]

theorem toUpper_toUpper (text : String) : text.toUpper.toUpper = text.toUpper := by
  refine map_idempotent ?_ text
  intro c
  unfold Char.toUpper
  split
  · rename_i h
    rw [dif_neg]
    simp only [UInt32.le_iff_toNat_le] at h ⊢
    simp at h ⊢
    omega
  · rfl

theorem toLower_toLower (text : String) : text.toLower.toLower = text.toLower := by
  refine map_idempotent ?_ text
  intro c
  unfold Char.toLower
  split
  · rename_i h
    rw [dif_neg]
    simp only [UInt32.le_iff_toNat_le] at h ⊢
    simp at h ⊢
    omega
  · rfl

/-- A map of characters that keeps white space may be applied before or after. -/
theorem strip_map {f : Char → Char} (h : ∀ c, (f c).isWhitespace = c.isWhitespace) (text : String) :
    strip (text.map f) = (strip text).map f := by
  have hcomp : Char.isWhitespace ∘ f = Char.isWhitespace := funext h
  apply String.toList_injective
  simp [strip, List.dropWhile_map, hcomp, ← List.map_reverse]

theorem isWhitespace_of_lt {c : Char} (h : 32 < c.toNat) : c.isWhitespace = false := by
  simp only [Char.isWhitespace, Bool.or_eq_false_iff, decide_eq_false_iff_not]
  refine ⟨⟨⟨?_, ?_⟩, ?_⟩, ?_⟩ <;> rintro rfl <;> revert h <;> decide

theorem isWhitespace_toUpper (c : Char) : c.toUpper.isWhitespace = c.isWhitespace := by
  unfold Char.toUpper
  split
  · rename_i h
    simp only [UInt32.le_iff_toNat_le] at h
    have hlow : 97 ≤ c.toNat := h.1
    have hhigh : c.toNat ≤ 122 := h.2
    have hsame : c.isWhitespace = false := isWhitespace_of_lt (by omega)
    rw [hsame, isWhitespace_of_lt]
    rw [← Char.toNat_val]
    simp
    omega
  · rfl

theorem isWhitespace_toLower (c : Char) : c.toLower.isWhitespace = c.isWhitespace := by
  unfold Char.toLower
  split
  · rename_i h
    simp only [UInt32.le_iff_toNat_le] at h
    have hlow : 65 ≤ c.toNat := h.1
    have hhigh : c.toNat ≤ 90 := h.2
    have hsame : c.isWhitespace = false := isWhitespace_of_lt (by omega)
    rw [hsame, isWhitespace_of_lt]
    rw [← Char.toNat_val]
    simp
    omega
  · rfl

theorem strip_strip (text : String) : strip (strip text) = strip text := by
  apply String.toList_injective
  set front := text.toList.dropWhile Char.isWhitespace with hfront
  have hdrop : front.dropWhile Char.isWhitespace = front := List.dropWhile_idempotent ..
  have hback : (front.rdropWhile Char.isWhitespace).dropWhile Char.isWhitespace =
      front.rdropWhile Char.isWhitespace := by
    rw [List.dropWhile_eq_self_iff] at hdrop ⊢
    intro hl
    have hhead : front.rdropWhile Char.isWhitespace <+: front := List.rdropWhile_prefix ..
    have := hdrop (lt_of_lt_of_le hl hhead.length_le)
    rwa [hhead.getElem]
  have hstrip : (strip text).toList = front.rdropWhile Char.isWhitespace := by
    simp [strip, List.rdropWhile, hfront]
  have hagain : (strip (strip text)).toList =
      List.rdropWhile Char.isWhitespace ((strip text).toList.dropWhile Char.isWhitespace) := by
    simp [strip, List.rdropWhile]
  rw [hagain, hstrip, hback, List.rdropWhile_idempotent]

theorem strip_toUpper (text : String) : strip text.toUpper = (strip text).toUpper :=
  strip_map isWhitespace_toUpper text

theorem strip_toLower (text : String) : strip text.toLower = (strip text).toLower :=
  strip_map isWhitespace_toLower text

/-- Raise unless the condition holds. -/
def require (cond : Prop) [Decidable cond] (e : ε) : Except ε Unit :=
  if cond then .ok () else .error e

@[simp] theorem require_eq_ok {cond : Prop} [Decidable cond] {e : ε} {u : Unit} :
    require cond e = .ok u ↔ cond := by
  unfold require
  split <;> simp_all

@[simp] theorem require_eq_error {cond : Prop} [Decidable cond] {e e' : ε} :
    require cond e = .error e' ↔ ¬ cond ∧ e = e' := by
  unfold require
  split <;> simp_all

/-- A sequence returns exactly when its first step returns and the rest then
does. -/
theorem bind_eq_ok {x : Except ε α} {f : α → Except ε β} {b : β} :
    x >>= f = .ok b ↔ ∃ a, x = .ok a ∧ f a = .ok b := by
  cases x with
  | error e => simp [bind, Except.bind]
  | ok a => simp [bind, Except.bind]

/-- A sequence raises what its first step raises, or what the rest does after it. -/
theorem bind_eq_error {x : Except ε α} {f : α → Except ε β} {e : ε} :
    x >>= f = .error e ↔ x = .error e ∨ ∃ a, x = .ok a ∧ f a = .error e := by
  cases x with
  | error e' => simp [bind, Except.bind]
  | ok a => simp [bind, Except.bind]

/-- The unit-valued form: the step is a check, its value carries nothing. -/
theorem check_bind_eq_ok {x : Except ε Unit} {f : Unit → Except ε β} {b : β} :
    x >>= f = .ok b ↔ x = .ok () ∧ f () = .ok b := by
  rw [bind_eq_ok]
  exact ⟨fun ⟨(), h⟩ => h, fun h => ⟨(), h⟩⟩

theorem eq_ok_of_toOption {x : Except ε α} {a : α} (h : x.toOption = some a) : x = .ok a := by
  cases x with
  | error e => cases h
  | ok found => exact congrArg Except.ok (Option.some.inj h)

theorem toOption_ok (a : α) : (Except.ok a : Except ε α).toOption = some a := rfl

theorem toOption_bind (x : Except ε α) (f : α → Except ε β) :
    (x >>= f).toOption = x.toOption.bind fun a => (f a).toOption := by
  cases x <;> rfl

@[simp] theorem pure_eq_ok {a b : α} : (pure a : Except ε α) = .ok b ↔ a = b :=
  ⟨fun h => by cases h; rfl, fun h => by cases h; rfl⟩

end Foundation
