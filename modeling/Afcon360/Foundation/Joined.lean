import Mathlib.Data.List.Basic

/-!
# Texts joined by a separator

Two lists of texts joined by one separator give the same text exactly when they have the same
pieces: the texts of each list, cut at the separators in them. Lists of texts that have no
separator in them are told apart.
-/

namespace Foundation

universe u

section

variable {α : Type u} [DecidableEq α] {sep : α} {parts parts' : List (List α)}

/-- The texts, each cut at its separators. -/
def pieces (sep : α) (parts : List (List α)) : List (List α) := parts.flatMap (List.splitOn sep)

theorem splitOn_intercalate_eq_pieces (h : parts ≠ []) :
    ([sep].intercalate parts).splitOn sep = pieces sep parts := by
  induction parts with
  | nil => exact absurd rfl h
  | cons part rest ih =>
    cases rest with
    | nil => simp [pieces]
    | cons next rest =>
      have hrest := ih (List.cons_ne_nil next rest)
      rw [List.intercalate_cons_cons, List.append_assoc, List.singleton_append,
        List.splitOn_append_cons_self, hrest]
      rfl

theorem intercalate_eq_iff_pieces (h : parts ≠ []) (h' : parts' ≠ []) :
    [sep].intercalate parts = [sep].intercalate parts' ↔ pieces sep parts = pieces sep parts' := by
  rw [← splitOn_intercalate_eq_pieces h, ← splitOn_intercalate_eq_pieces h']
  constructor
  · exact congrArg (List.splitOn sep)
  · intro hpieces
    have hjoined := congrArg (List.intercalate [sep]) hpieces
    rwa [List.intercalate_splitOn, List.intercalate_splitOn] at hjoined

theorem pieces_eq_self (h : ∀ part ∈ parts, sep ∉ part) : pieces sep parts = parts := by
  induction parts with
  | nil => rfl
  | cons part rest ih =>
    have hrest := ih fun other hother => h other (List.mem_cons_of_mem _ hother)
    unfold pieces at hrest ⊢
    rw [List.flatMap_cons, List.splitOn_eq_singleton (h part List.mem_cons_self), hrest]
    rfl

end

/-! ## Strings -/

/-- The pieces of a list of strings. -/
def textPieces (sep : Char) (texts : List String) : List (List Char) :=
  pieces sep (texts.map String.toList)

theorem intercalate_eq_iff_textPieces {sep : Char} {texts texts' : List String}
    (h : texts ≠ []) (h' : texts' ≠ []) :
    (String.singleton sep).intercalate texts = (String.singleton sep).intercalate texts' ↔
      textPieces sep texts = textPieces sep texts' := by
  rw [← String.toList_inj, String.toList_intercalate, String.toList_intercalate,
    String.toList_singleton]
  exact intercalate_eq_iff_pieces (by simpa using h) (by simpa using h')

theorem textPieces_eq_iff {sep : Char} {texts texts' : List String}
    (h : ∀ text ∈ texts, sep ∉ text.toList) (h' : ∀ text ∈ texts', sep ∉ text.toList) :
    textPieces sep texts = textPieces sep texts' ↔ texts = texts' := by
  unfold textPieces
  rw [pieces_eq_self (by simpa using h), pieces_eq_self (by simpa using h')]
  exact (List.map_injective_iff.mpr fun _ _ => String.toList_injective).eq_iff

end Foundation
