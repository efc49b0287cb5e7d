import Afcon360.Foundation.Json
import Mathlib.Data.Rat.Lemmas

/-!
# The text of a JSON value

`dumps` writes a value without blanks. The text of a value says where it ends, except that
a number ends where the next character is not a part of one; in an array or an object that
character is a comma or a bracket. `dumps_injective` follows by reading two equal texts
from the left.
-/

namespace Foundation

namespace Json

/-! ## Characters -/

def escape (c : Char) : List Char := if c = '"' ∨ c = '\\' then ['\\', c] else [c]

def textChars (text : String) : List Char := '"' :: (text.toList.flatMap escape ++ ['"'])

/-- An integer in decimal; any other number as a quotient. -/
def numChars (value : ℚ) : List Char :=
  (if value.num < 0 then ['-'] else []) ++ Nat.toDigits 10 value.num.natAbs ++
    (if value.den = 1 then [] else '/' :: Nat.toDigits 10 value.den)

mutual

def chars : Json → List Char
  | null => "null".toList
  | bool true => "true".toList
  | bool false => "false".toList
  | num value => numChars value
  | str value => textChars value
  | arr [] => "[]".toList
  | arr (item :: rest) => '[' :: (item.chars ++ itemsChars rest)
  | obj [] => "\x7b\x7d".toList
  | obj ((key, value) :: rest) =>
    '\x7b' :: (textChars key ++ ':' :: (value.chars ++ fieldsChars rest))

/-- What follows an item of an array. -/
def itemsChars : List Json → List Char
  | [] => [']']
  | item :: rest => ',' :: (item.chars ++ itemsChars rest)

/-- What follows a field of an object. -/
def fieldsChars : List (String × Json) → List Char
  | [] => ['\x7d']
  | (key, value) :: rest => ',' :: (textChars key ++ ':' :: (value.chars ++ fieldsChars rest))

end

/-- The text of a value. -/
def dumps (data : Json) : String := String.ofList data.chars

/-! ## Reading from the left -/

/-- No number goes on here. -/
def Ends (rest : List Char) : Prop := ∀ c ∈ rest.head?, c.isDigit = false ∧ c ≠ '/'

theorem Ends.nil : Ends [] := by simp [Ends]

theorem Ends.itemsChars (items : List Json) (rest : List Char) :
    Ends (itemsChars items ++ rest) := by
  cases items <;> simp [Ends, Json.itemsChars]

theorem Ends.fieldsChars (fields : List (String × Json)) (rest : List Char) :
    Ends (fieldsChars fields ++ rest) := by
  cases fields <;> simp [Ends, Json.fieldsChars]

theorem escape_append_inj {text text' rest rest' : List Char}
    (h : text.flatMap escape ++ '"' :: rest = text'.flatMap escape ++ '"' :: rest') :
    text = text' ∧ rest = rest' := by
  induction text generalizing text' with
  | nil =>
    cases text' with
    | nil => simpa using h
    | cons c' text' =>
      simp only [List.flatMap_nil, List.nil_append, List.flatMap_cons, escape] at h
      split at h
      · simp at h
      · rename_i hc'
        simp only [List.cons_append, List.nil_append, List.cons.injEq] at h
        exact absurd (Or.inl h.1.symm) hc'
  | cons c text ih =>
    cases text' with
    | nil =>
      simp only [List.flatMap_nil, List.nil_append, List.flatMap_cons, escape] at h
      split at h
      · simp at h
      · rename_i hc
        simp only [List.cons_append, List.nil_append, List.cons.injEq] at h
        exact absurd (Or.inl h.1) hc
    | cons c' text' =>
      simp only [List.flatMap_cons, List.append_assoc] at h
      have hstep : c = c' ∧ text.flatMap escape ++ '"' :: rest =
          text'.flatMap escape ++ '"' :: rest' := by
        simp only [escape] at h
        split at h <;> split at h
        · simpa using h
        · rename_i hc'
          simp only [List.cons_append, List.nil_append, List.cons.injEq] at h
          exact absurd (Or.inr h.1.symm) hc'
        · rename_i hc _
          simp only [List.cons_append, List.nil_append, List.cons.injEq] at h
          exact absurd (Or.inr h.1) hc
        · simpa using h
      obtain ⟨htext, hrest⟩ := ih hstep.2
      exact ⟨by rw [hstep.1, htext], hrest⟩

theorem textChars_append_inj {text text' : String} {rest rest' : List Char}
    (h : textChars text ++ rest = textChars text' ++ rest') : text = text' ∧ rest = rest' := by
  simp only [textChars, List.cons_append, List.append_assoc, List.nil_append, List.cons.injEq,
    true_and] at h
  obtain ⟨htext, hrest⟩ := escape_append_inj h
  exact ⟨String.toList_inj.mp htext, hrest⟩

theorem digits_append_inj {n n' : ℕ} {rest rest' : List Char}
    (hrest : ∀ c ∈ rest.head?, c.isDigit = false) (hrest' : ∀ c ∈ rest'.head?, c.isDigit = false)
    (h : Nat.toDigits 10 n ++ rest = Nat.toDigits 10 n' ++ rest') : n = n' ∧ rest = rest' := by
  have htake : ∀ (m : ℕ) (tail : List Char), (∀ c ∈ tail.head?, c.isDigit = false) →
      (Nat.toDigits 10 m ++ tail).takeWhile Char.isDigit = Nat.toDigits 10 m := by
    intro m tail htail
    rw [List.takeWhile_append_of_pos
      (fun c hc => Nat.isDigit_of_mem_toDigits (by decide) (by decide) hc)]
    cases tail with
    | nil => simp
    | cons c tail => simp [htail c (by simp)]
  have hdigits : Nat.toDigits 10 n = Nat.toDigits 10 n' := by
    rw [← htake n rest hrest, ← htake n' rest' hrest', h]
  have hn : n = n' := by
    rw [← Nat.ofDigitChars_ten_toDigits (n := n), hdigits, Nat.ofDigitChars_ten_toDigits]
  subst hn
  exact ⟨rfl, List.append_cancel_left h⟩

/-- A number starts with a digit or a sign. -/
theorem numChars_head (value : ℚ) :
    ∃ c rest, numChars value = c :: rest ∧ (c.isDigit = true ∨ c = '-') := by
  rw [numChars]
  split
  · exact ⟨'-', _, rfl, .inr rfl⟩
  · cases hdigits : Nat.toDigits 10 value.num.natAbs with
    | nil => exact absurd hdigits Nat.toDigits_ne_nil
    | cons c rest =>
      have hc : c ∈ Nat.toDigits 10 value.num.natAbs := by simp [hdigits]
      exact ⟨c, _, rfl, .inl (Nat.isDigit_of_mem_toDigits (by decide) (by decide) hc)⟩

theorem signed_append_inj {n n' : ℤ} {rest rest' : List Char}
    (hrest : ∀ c ∈ rest.head?, c.isDigit = false) (hrest' : ∀ c ∈ rest'.head?, c.isDigit = false)
    (h : (if n < 0 then ['-'] else []) ++ (Nat.toDigits 10 n.natAbs ++ rest) =
      (if n' < 0 then ['-'] else []) ++ (Nat.toDigits 10 n'.natAbs ++ rest')) :
    n = n' ∧ rest = rest' := by
  have hminus : ∀ (m : ℕ) (tail tail' : List Char), Nat.toDigits 10 m ++ tail ≠ '-' :: tail' := by
    intro m tail tail' heq
    cases hdigits : Nat.toDigits 10 m with
    | nil => exact Nat.toDigits_ne_nil hdigits
    | cons c digits =>
      have hc : c.isDigit = true :=
        Nat.isDigit_of_mem_toDigits (b := 10) (n := m) (by decide) (by decide)
          (by simp [hdigits])
      rw [hdigits, List.cons_append, List.cons.injEq] at heq
      rw [heq.1] at hc
      exact absurd hc (by decide)
  split at h <;> split at h
  · obtain ⟨habs, htail⟩ := digits_append_inj hrest hrest' (List.cons.inj h).2
    exact ⟨by omega, htail⟩
  · exact absurd h.symm (hminus _ _ _)
  · exact absurd h (hminus _ _ _)
  · obtain ⟨habs, htail⟩ := digits_append_inj hrest hrest' h
    exact ⟨by omega, htail⟩

theorem numChars_append_inj {value value' : ℚ} {rest rest' : List Char}
    (hrest : Ends rest) (hrest' : Ends rest')
    (h : numChars value ++ rest = numChars value' ++ rest') : value = value' ∧ rest = rest' := by
  have hdigit : ∀ (den : ℕ) (tail : List Char), Ends tail →
      ∀ c ∈ ((if den = 1 then [] else '/' :: Nat.toDigits 10 den) ++ tail).head?,
        c.isDigit = false := by
    intro den tail htail c hc
    split at hc
    · exact (htail c hc).1
    · simp only [List.cons_append, List.head?_cons, Option.mem_def, Option.some.injEq] at hc
      rw [← hc]
      decide
  have hslash : ∀ tail : List Char, Ends tail → ∀ tail', tail ≠ '/' :: tail' := by
    intro tail htail tail' heq
    exact (htail '/' (by simp [heq])).2 rfl
  simp only [numChars, List.append_assoc] at h
  obtain ⟨hnum, hden⟩ := signed_append_inj (hdigit _ _ hrest) (hdigit _ _ hrest') h
  suffices value.den = value'.den ∧ rest = rest' from ⟨Rat.ext hnum this.1, this.2⟩
  split at hden <;> split at hden
  · rename_i hone hone'
    exact ⟨hone.trans hone'.symm, hden⟩
  · exact absurd hden (hslash _ hrest _)
  · exact absurd hden.symm (hslash _ hrest' _)
  · exact digits_append_inj (fun c hc => (hrest c hc).1) (fun c hc => (hrest' c hc).1)
      (List.cons.inj hden).2

/-- What the first character of a text says about the value. -/
def tag : Json → Char
  | null => 'n'
  | bool true => 't'
  | bool false => 'f'
  | num _ => '0'
  | str _ => '"'
  | arr _ => '['
  | obj _ => '\x7b'

def headTag (c : Char) : Char := if c.isDigit ∨ c = '-' then '0' else c

theorem chars_head (data : Json) :
    ∃ c rest, data.chars = c :: rest ∧ headTag c = data.tag := by
  cases data with
  | null => exact ⟨'n', _, rfl, rfl⟩
  | bool value => cases value <;> exact ⟨_, _, rfl, rfl⟩
  | num value =>
    obtain ⟨c, rest, h, hc⟩ := numChars_head value
    exact ⟨c, rest, by rw [chars, h], by rw [headTag, if_pos (by simpa using hc), tag]⟩
  | str value => exact ⟨'"', _, rfl, rfl⟩
  | arr items => cases items <;> exact ⟨'[', _, rfl, rfl⟩
  | obj fields =>
    cases fields with
    | nil => exact ⟨'\x7b', _, rfl, rfl⟩
    | cons field rest => exact ⟨'\x7b', _, rfl, rfl⟩

theorem tag_eq_of_chars {data data' : Json} {rest rest' : List Char}
    (h : data.chars ++ rest = data'.chars ++ rest') : data.tag = data'.tag := by
  obtain ⟨c, tail, hchars, hc⟩ := chars_head data
  obtain ⟨c', tail', hchars', hc'⟩ := chars_head data'
  rw [hchars, hchars', List.cons_append, List.cons_append, List.cons.injEq] at h
  rw [← hc, ← hc', h.1]

/-- An array that ends at once is told from one that starts with an item. -/
theorem chars_append_ne (data : Json) (rest tail : List Char) :
    data.chars ++ rest ≠ ']' :: tail := by
  intro h
  obtain ⟨c, text, hchars, hc⟩ := chars_head data
  rw [hchars, List.cons_append, List.cons.injEq] at h
  rw [h.1] at hc
  cases data with
  | bool value => cases value <;> simp [headTag, tag] at hc
  | _ => simp [headTag, tag] at hc

mutual

theorem chars_append_inj : ∀ (data data' : Json) {rest rest' : List Char}, Ends rest →
    Ends rest' → data.chars ++ rest = data'.chars ++ rest' → data = data' ∧ rest = rest'
  | null, data', rest, rest', hrest, hrest', h => by
      have htag := tag_eq_of_chars h
      cases data' with
      | null => simpa [chars] using h
      | bool value' => cases value' <;> simp [tag] at htag
      | _ => simp [tag] at htag
  | bool value, data', rest, rest', hrest, hrest', h => by
      have htag := tag_eq_of_chars h
      cases data' with
      | bool value' =>
        cases value <;> cases value'
        · simpa [chars] using h
        · simp [tag] at htag
        · simp [tag] at htag
        · simpa [chars] using h
      | _ => cases value <;> simp [tag] at htag
  | num value, data', rest, rest', hrest, hrest', h => by
      have htag := tag_eq_of_chars h
      cases data' with
      | num value' =>
        obtain ⟨rfl, htail⟩ := numChars_append_inj hrest hrest' (by simpa only [chars] using h)
        exact ⟨rfl, htail⟩
      | bool value' => cases value' <;> simp [tag] at htag
      | _ => simp [tag] at htag
  | str value, data', rest, rest', hrest, hrest', h => by
      have htag := tag_eq_of_chars h
      cases data' with
      | str value' =>
        obtain ⟨rfl, htail⟩ := textChars_append_inj (by simpa only [chars] using h)
        exact ⟨rfl, htail⟩
      | bool value' => cases value' <;> simp [tag] at htag
      | _ => simp [tag] at htag
  | arr items, data', rest, rest', hrest, hrest', h => by
      have htag := tag_eq_of_chars h
      cases data' with
      | arr items' =>
        have hitems : items = items' ∧ rest = rest' := by
          cases items with
          | nil =>
            cases items' with
            | nil => exact ⟨rfl, by simpa [chars] using h⟩
            | cons item' items' =>
              simp only [chars, String.reduceToList, List.cons_append, List.nil_append,
                List.append_assoc, List.cons.injEq, true_and] at h
              exact absurd h.symm (chars_append_ne _ _ _)
          | cons item items =>
            cases items' with
            | nil =>
              simp only [chars, String.reduceToList, List.cons_append, List.nil_append,
                List.append_assoc, List.cons.injEq, true_and] at h
              exact absurd h (chars_append_ne _ _ _)
            | cons item' items' =>
              simp only [chars, List.cons_append, List.append_assoc, List.cons.injEq,
                true_and] at h
              obtain ⟨rfl, htail⟩ := chars_append_inj item item' (.itemsChars _ _)
                (.itemsChars _ _) h
              obtain ⟨rfl, hrest⟩ := itemsChars_append_inj items items' htail
              exact ⟨rfl, hrest⟩
        exact ⟨by rw [hitems.1], hitems.2⟩
      | bool value' => cases value' <;> simp [tag] at htag
      | _ => simp [tag] at htag
  | obj fields, data', rest, rest', hrest, hrest', h => by
      have htag := tag_eq_of_chars h
      cases data' with
      | obj fields' =>
        have hfields : fields = fields' ∧ rest = rest' := by
          cases fields with
          | nil =>
            cases fields' with
            | nil => exact ⟨rfl, by simpa [chars] using h⟩
            | cons field' fields' => simp [chars, textChars] at h
          | cons field fields =>
            cases fields' with
            | nil => simp [chars, textChars] at h
            | cons field' fields' =>
              obtain ⟨key, value⟩ := field
              obtain ⟨key', value'⟩ := field'
              simp only [chars, List.cons_append, List.append_assoc, List.cons.injEq,
                true_and] at h
              obtain ⟨rfl, hvalue⟩ := textChars_append_inj h
              simp only [List.cons.injEq, true_and] at hvalue
              obtain ⟨rfl, htail⟩ := chars_append_inj value value' (.fieldsChars _ _)
                (.fieldsChars _ _) hvalue
              obtain ⟨rfl, hrest⟩ := fieldsChars_append_inj fields fields' htail
              exact ⟨rfl, hrest⟩
        exact ⟨by rw [hfields.1], hfields.2⟩
      | bool value' => cases value' <;> simp [tag] at htag
      | _ => simp [tag] at htag

theorem itemsChars_append_inj : ∀ (items items' : List Json) {rest rest' : List Char},
    itemsChars items ++ rest = itemsChars items' ++ rest' → items = items' ∧ rest = rest'
  | [], [], rest, rest', h => by simpa [itemsChars] using h
  | [], _ :: _, rest, rest', h => by simp [itemsChars] at h
  | _ :: _, [], rest, rest', h => by simp [itemsChars] at h
  | item :: items, item' :: items', rest, rest', h => by
      simp only [itemsChars, List.cons_append, List.append_assoc, List.cons.injEq,
        true_and] at h
      obtain ⟨rfl, htail⟩ := chars_append_inj item item' (.itemsChars _ _) (.itemsChars _ _) h
      obtain ⟨rfl, hrest⟩ := itemsChars_append_inj items items' htail
      exact ⟨rfl, hrest⟩

theorem fieldsChars_append_inj : ∀ (fields fields' : List (String × Json))
    {rest rest' : List Char}, fieldsChars fields ++ rest = fieldsChars fields' ++ rest' →
      fields = fields' ∧ rest = rest'
  | [], [], rest, rest', h => by simpa [fieldsChars] using h
  | [], _ :: _, rest, rest', h => by simp [fieldsChars] at h
  | _ :: _, [], rest, rest', h => by simp [fieldsChars] at h
  | (key, value) :: fields, (key', value') :: fields', rest, rest', h => by
      simp only [fieldsChars, List.cons_append, List.append_assoc, List.cons.injEq,
        true_and] at h
      obtain ⟨rfl, hvalue⟩ := textChars_append_inj h
      simp only [List.cons.injEq, true_and] at hvalue
      obtain ⟨rfl, htail⟩ := chars_append_inj value value' (.fieldsChars _ _)
        (.fieldsChars _ _) hvalue
      obtain ⟨rfl, hrest⟩ := fieldsChars_append_inj fields fields' htail
      exact ⟨rfl, hrest⟩

end

theorem dumps_injective : Function.Injective dumps := by
  intro data data' h
  have hchars : data.chars = data'.chars := String.ofList_injective h
  exact (chars_append_inj data data' .nil .nil (congrArg (· ++ []) hchars)).1

end Json

end Foundation
