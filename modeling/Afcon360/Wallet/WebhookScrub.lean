import Afcon360.Foundation.Floating

/-!
# Scrubbing of webhook payloads

The payload of a provider's webhook is stored after its card data and its long account numbers
were replaced by a marker. Case folding and the class of digits are parameters; the marker has
no digit.
-/

namespace Afcon360.Wallet

open Foundation

/-- A decoded JSON value. -/
inductive Payload
  | null
  | bool (value : Bool)
  | int (value : ℤ)
  | float (value : Number)
  | str (value : String)
  | arr (items : List Payload)
  | obj (fields : List (String × Payload))

namespace Payload

def isStr : Payload → Bool
  | str _ => true
  | _ => false

def marker : String := "[REDACTED]"

/-- `str.lower` and `str.isdigit`. -/
structure TextRules where
  lower : String → String
  isDigit : Char → Bool
  plain_marker : ∀ c ∈ marker.toList, isDigit c = false

namespace TextRules

variable (rules : TextRules)

/-- The lower-case key has the word in it. -/
def names (word key : String) : Bool := decide (word.toList <:+: (rules.lower key).toList)

/-- The key names card, cvv or pan data. -/
def namesCard (key : String) : Bool := ["card", "cvv", "pan"].any fun word => rules.names word key

/-- A text or an integer of eight or more digits. -/
def long : Payload → Bool
  | str text => 8 ≤ text.toList.countP rules.isDigit
  | int value => 10 ^ 7 ≤ value.natAbs
  | _ => false

/-- The value of this field is replaced. -/
def redacts (key : String) (value : Payload) : Bool :=
  rules.namesCard key || (rules.names "number" key && isStr value && rules.long value)

mutual

/-- `_scrub_sensitive` -/
def scrub : Payload → Payload
  | obj fields => obj (scrubFields fields)
  | arr items => arr (scrubItems items)
  | value => value

def scrubItems : List Payload → List Payload
  | [] => []
  | item :: rest => scrub item :: scrubItems rest

def scrubFields : List (String × Payload) → List (String × Payload)
  | [] => []
  | (key, value) :: rest =>
    (key, if rules.redacts key value then str marker else scrub value) :: scrubFields rest

end

end TextRules

/-! ## What a payload has in it -/

/-- The containers of a value. -/
inductive Outline
  | leaf
  | arr (items : List Outline)
  | obj (fields : List (String × Outline))

section

-- `cut` are the fields whose values are not looked into.
variable (cut : String → Payload → Bool)

mutual

/-- The keys of the objects and the lengths of the arrays. -/
def outline : Payload → Outline
  | obj fields => .obj (outlineFields fields)
  | arr items => .arr (outlineItems items)
  | _ => .leaf

def outlineItems : List Payload → List Outline
  | [] => []
  | item :: rest => outline item :: outlineItems rest

def outlineFields : List (String × Payload) → List (String × Outline)
  | [] => []
  | (key, value) :: rest =>
    (key, if cut key value then .leaf else outline value) :: outlineFields rest

end

mutual

/-- The fields of all objects, at every depth. -/
def entries : Payload → List (String × Payload)
  | obj fields => entriesOfFields fields
  | arr items => entriesOfItems items
  | _ => []

def entriesOfItems : List Payload → List (String × Payload)
  | [] => []
  | item :: rest => entries item ++ entriesOfItems rest

def entriesOfFields : List (String × Payload) → List (String × Payload)
  | [] => []
  | (key, value) :: rest =>
    (key, value) :: ((if cut key value then [] else entries value) ++ entriesOfFields rest)

end

mutual

/-- The values in a value, itself among them, at every depth. -/
def parts : Payload → List Payload
  | obj fields => obj fields :: partsOfFields fields
  | arr items => arr items :: partsOfItems items
  | value => [value]

def partsOfItems : List Payload → List Payload
  | [] => []
  | item :: rest => parts item ++ partsOfItems rest

def partsOfFields : List (String × Payload) → List Payload
  | [] => []
  | (key, value) :: rest => (if cut key value then [] else parts value) ++ partsOfFields rest

end

end

/-- All fields are looked into. -/
def whole (_ : String) (_ : Payload) : Bool := false

/-! ## Scrubbing -/

section

variable {rules : TextRules}

theorem long_marker : rules.long (str marker) = false := by
  have hcount : marker.toList.countP rules.isDigit = 0 := by
    rw [List.countP_eq_zero]
    intro c hc
    simp [rules.plain_marker c hc]
  simp [TextRules.long, hcount]

theorem long_scrub (value : Payload) : rules.long (rules.scrub value) = rules.long value := by
  cases value <;> simp [TextRules.scrub, TextRules.long]

theorem scrub_marker : rules.scrub (str marker) = str marker := by
  rw [TextRules.scrub] <;> simp

theorem redacts_scrub {key : String} {value : Payload} (h : rules.redacts key value = false) :
    rules.redacts key (rules.scrub value) = false := by
  have hstr : isStr (rules.scrub value) = isStr value := by
    cases value <;> simp [TextRules.scrub, isStr]
  unfold TextRules.redacts at h ⊢
  rw [hstr, long_scrub]
  exact h

theorem scrub_redacted (key : String) (value : Payload) :
    (if rules.redacts key (if rules.redacts key value then str marker else rules.scrub value) then
        str marker
      else rules.scrub (if rules.redacts key value then str marker else rules.scrub value)) =
      if rules.redacts key value then str marker else rules.scrub (rules.scrub value) := by
  cases h : rules.redacts key value with
  | true => simp [scrub_marker]
  | false => simp [redacts_scrub h]

mutual

theorem scrub_scrub (value : Payload) : rules.scrub (rules.scrub value) = rules.scrub value := by
  cases value with
  | obj fields => rw [TextRules.scrub, TextRules.scrub, scrubFields_scrubFields fields]
  | arr items => rw [TextRules.scrub, TextRules.scrub, scrubItems_scrubItems items]
  | null | bool value | int value | float value | str value => simp [TextRules.scrub]

theorem scrubItems_scrubItems (items : List Payload) :
    rules.scrubItems (rules.scrubItems items) = rules.scrubItems items := by
  cases items with
  | nil => rfl
  | cons item rest =>
    rw [TextRules.scrubItems, TextRules.scrubItems, scrub_scrub item,
      scrubItems_scrubItems rest]

theorem scrubFields_scrubFields (fields : List (String × Payload)) :
    rules.scrubFields (rules.scrubFields fields) = rules.scrubFields fields := by
  cases fields with
  | nil => rfl
  | cons field rest =>
    obtain ⟨key, value⟩ := field
    rw [TextRules.scrubFields, TextRules.scrubFields, scrub_redacted, scrub_scrub value,
      scrubFields_scrubFields rest]

end

mutual

theorem outline_scrub (value : Payload) :
    outline whole (rules.scrub value) = outline rules.redacts value := by
  cases value with
  | obj fields => rw [TextRules.scrub, outline, outline, outlineFields_scrub fields]
  | arr items => rw [TextRules.scrub, outline, outline, outlineItems_scrub items]
  | null | bool value | int value | float value | str value => simp [TextRules.scrub, outline]

theorem outlineItems_scrub (items : List Payload) :
    outlineItems whole (rules.scrubItems items) = outlineItems rules.redacts items := by
  cases items with
  | nil => rfl
  | cons item rest =>
    rw [TextRules.scrubItems, outlineItems, outlineItems, outline_scrub item,
      outlineItems_scrub rest]

theorem outlineFields_scrub (fields : List (String × Payload)) :
    outlineFields whole (rules.scrubFields fields) = outlineFields rules.redacts fields := by
  cases fields with
  | nil => rfl
  | cons field rest =>
    obtain ⟨key, value⟩ := field
    rw [TextRules.scrubFields, outlineFields, outlineFields, outlineFields_scrub rest]
    cases h : rules.redacts key value with
    | true => simp [whole, outline]
    | false => simp [whole, outline_scrub value]

end

/-- The field after scrubbing. -/
def TextRules.scrubField (rules : TextRules) (field : String × Payload) : String × Payload :=
  (field.1, if rules.redacts field.1 field.2 then str marker else rules.scrub field.2)

mutual

theorem entries_scrub (value : Payload) :
    entries whole (rules.scrub value) = (entries rules.redacts value).map rules.scrubField := by
  cases value with
  | obj fields => rw [TextRules.scrub, entries, entries, entriesOfFields_scrub fields]
  | arr items => rw [TextRules.scrub, entries, entries, entriesOfItems_scrub items]
  | null | bool value | int value | float value | str value => simp [TextRules.scrub, entries]

theorem entriesOfItems_scrub (items : List Payload) :
    entriesOfItems whole (rules.scrubItems items) =
      (entriesOfItems rules.redacts items).map rules.scrubField := by
  cases items with
  | nil => rfl
  | cons item rest =>
    rw [TextRules.scrubItems, entriesOfItems, entriesOfItems, List.map_append,
      entries_scrub item, entriesOfItems_scrub rest]

theorem entriesOfFields_scrub (fields : List (String × Payload)) :
    entriesOfFields whole (rules.scrubFields fields) =
      (entriesOfFields rules.redacts fields).map rules.scrubField := by
  cases fields with
  | nil => rfl
  | cons field rest =>
    obtain ⟨key, value⟩ := field
    rw [TextRules.scrubFields, entriesOfFields, entriesOfFields, List.map_cons, List.map_append,
      entriesOfFields_scrub rest]
    cases h : rules.redacts key value with
    | true => simp [whole, entries, TextRules.scrubField, h]
    | false => simp [whole, TextRules.scrubField, h, entries_scrub value]

end

mutual

/-- A long value is left in the result exactly where it was looked at. -/
theorem any_parts_scrub (value : Payload) :
    (parts whole (rules.scrub value)).any rules.long =
      (parts rules.redacts value).any rules.long := by
  cases value with
  | obj fields =>
    rw [TextRules.scrub, parts, parts, List.any_cons, List.any_cons,
      any_partsOfFields_scrub fields]
    rfl
  | arr items =>
    rw [TextRules.scrub, parts, parts, List.any_cons, List.any_cons,
      any_partsOfItems_scrub items]
    rfl
  | null | bool value | int value | float value | str value => simp [TextRules.scrub, parts]

theorem any_partsOfItems_scrub (items : List Payload) :
    (partsOfItems whole (rules.scrubItems items)).any rules.long =
      (partsOfItems rules.redacts items).any rules.long := by
  cases items with
  | nil => rfl
  | cons item rest =>
    rw [TextRules.scrubItems, partsOfItems, partsOfItems, List.any_append, List.any_append,
      any_parts_scrub item, any_partsOfItems_scrub rest]

theorem any_partsOfFields_scrub (fields : List (String × Payload)) :
    (partsOfFields whole (rules.scrubFields fields)).any rules.long =
      (partsOfFields rules.redacts fields).any rules.long := by
  cases fields with
  | nil => rfl
  | cons field rest =>
    obtain ⟨key, value⟩ := field
    rw [TextRules.scrubFields, partsOfFields, partsOfFields, List.any_append, List.any_append,
      any_partsOfFields_scrub rest]
    cases h : rules.redacts key value with
    | true => simp [whole, parts, long_marker]
    | false => simp [whole, any_parts_scrub value]

end

/-! ## What is asked of it -/

/-- Scrubbing again changes nothing, what is not replaced keeps its shape, and neither card data
nor a long number is left under its keys; `under` are the values that a field is about. -/
structure Scrubbed (rules : TextRules) (under : Payload → List Payload)
    (payload result : Payload) : Prop where
  again : rules.scrub result = result
  shape : outline whole result = outline rules.redacts payload
  cards : ∀ field ∈ entries whole result, rules.namesCard field.1 = true → field.2 = str marker
  numbers : ∀ field ∈ entries whole result, rules.names "number" field.1 = true →
    ∀ part ∈ under field.2, rules.long part = false

theorem cards_scrub {payload : Payload} {field : String × Payload}
    (hfield : field ∈ entries whole (rules.scrub payload))
    (hcard : rules.namesCard field.1 = true) : field.2 = str marker := by
  rw [entries_scrub] at hfield
  obtain ⟨before, -, rfl⟩ := List.mem_map.mp hfield
  have hredacts : rules.redacts before.1 before.2 = true := by
    have hcard : rules.namesCard before.1 = true := hcard
    simp [TextRules.redacts, hcard]
  simp [TextRules.scrubField, hredacts]

/-- Only the numbers are in question. -/
theorem scrubbed_iff {under : Payload → List Payload} {payload : Payload} :
    Scrubbed rules under payload (rules.scrub payload) ↔
      ∀ field ∈ entries rules.redacts payload, rules.names "number" field.1 = true →
        ∀ part ∈ under (rules.scrubField field).2, rules.long part = false := by
  constructor
  · intro h field hfield hnumber
    refine h.numbers (rules.scrubField field) ?_ hnumber
    rw [entries_scrub]
    exact List.mem_map_of_mem hfield
  · intro h
    refine ⟨scrub_scrub payload, outline_scrub payload, fun _ => cards_scrub, ?_⟩
    intro field hfield hnumber
    rw [entries_scrub] at hfield
    obtain ⟨before, hbefore, rfl⟩ := List.mem_map.mp hfield
    exact h before hbefore hnumber

/-- Of a field that stays, all long values that were looked at stay. -/
theorem parts_scrubField (field : String × Payload) :
    (∀ part ∈ parts whole (rules.scrubField field).2, rules.long part = false) ↔
      rules.redacts field.1 field.2 = true ∨
        ∀ part ∈ parts rules.redacts field.2, rules.long part = false := by
  have hany : ∀ values : List Payload, (∀ part ∈ values, rules.long part = false) ↔
      values.any rules.long = false := by
    intro values
    rw [List.any_eq_false]
    simp
  cases h : rules.redacts field.1 field.2 with
  | true => simp [TextRules.scrubField, h, parts, long_marker]
  | false => simp only [TextRules.scrubField, h, hany, Bool.false_eq_true, if_false, false_or,
      any_parts_scrub]

/-- Of a field itself, a long integer stays. -/
theorem long_scrubField {field : String × Payload} (hnumber : rules.names "number" field.1 = true) :
    rules.long (rules.scrubField field).2 = false ↔
      ∀ value : ℤ, field.2 = .int value →
        rules.namesCard field.1 = true ∨ value.natAbs < 10 ^ 7 := by
  obtain ⟨key, value⟩ := field
  cases hcard : rules.namesCard key with
  | true => simp [TextRules.scrubField, TextRules.redacts, hcard, long_marker]
  | false =>
    cases value with
    | str text =>
      cases hlong : rules.long (str text) with
      | true =>
        have hredacts : rules.redacts key (str text) = true := by
          simp [TextRules.redacts, hnumber, isStr, hlong]
        simp [TextRules.scrubField, hredacts, long_marker]
      | false =>
        simp [TextRules.scrubField, TextRules.redacts, hcard, hlong, TextRules.scrub]
    | int value =>
      simp [TextRules.scrubField, TextRules.redacts, hcard, isStr, TextRules.scrub,
        TextRules.long]
    | null | bool value | float value | arr items | obj fields =>
      simp [TextRules.scrubField, TextRules.redacts, hcard, isStr, TextRules.scrub,
        TextRules.long]

end

/-- For every payload: the values below a key with `number` in it are clean of long numbers
exactly when each of them is replaced, or has none that is looked at; the values of such fields
themselves exactly when none is a long integer. -/
theorem scrub_sensitive (rules : TextRules) (payload : Payload) :
    (Scrubbed rules (parts whole) payload (rules.scrub payload) ↔
      ∀ field ∈ entries rules.redacts payload, rules.names "number" field.1 = true →
        rules.redacts field.1 field.2 = true ∨
          ∀ part ∈ parts rules.redacts field.2, rules.long part = false) ∧
    (Scrubbed rules (fun value => [value]) payload (rules.scrub payload) ↔
      ∀ field ∈ entries rules.redacts payload, rules.names "number" field.1 = true →
        ∀ value : ℤ, field.2 = .int value →
          rules.namesCard field.1 = true ∨ value.natAbs < 10 ^ 7) := by
  constructor
  · rw [scrubbed_iff]
    exact forall₂_congr fun field _ => forall_congr' fun _ => parts_scrubField field
  · rw [scrubbed_iff]
    refine forall₂_congr fun field _ => forall_congr' fun hnumber => ?_
    rw [← long_scrubField hnumber]
    simp

/-- Case and digits of plain text. -/
def asciiRules : TextRules where
  lower := String.toLower
  isDigit := Char.isDigit
  plain_marker := by simp [marker]

/-- An account number that is sent as a number is stored. -/
theorem integer_number_kept :
    ¬ Scrubbed asciiRules (fun value => [value]) (.obj [("account_number", .int 12345678)])
        (asciiRules.scrub (.obj [("account_number", .int 12345678)])) ∧
    ¬ Scrubbed asciiRules (parts whole) (.obj [("account_number", .int 12345678)])
        (asciiRules.scrub (.obj [("account_number", .int 12345678)])) := by
  have hfield : ("account_number", Payload.int 12345678) ∈
      entries asciiRules.redacts (.obj [("account_number", .int 12345678)]) := by
    rw [entries, entriesOfFields]
    exact List.mem_cons_self
  have hnumber : asciiRules.names "number" "account_number" = true := by decide +kernel
  have hkept : (asciiRules.scrubField ("account_number", .int 12345678)).2 = .int 12345678 := by
    have hcard : asciiRules.namesCard "account_number" = false := by decide +kernel
    simp [TextRules.scrubField, TextRules.redacts, hcard, isStr, TextRules.scrub]
  have hlong : asciiRules.long (.int 12345678) = true := by decide
  constructor
  · intro h
    have hclean := scrubbed_iff.mp h _ hfield hnumber (.int 12345678) (by simp [hkept])
    simp [hlong] at hclean
  · intro h
    have hclean := scrubbed_iff.mp h _ hfield hnumber (.int 12345678) (by simp [hkept, parts])
    simp [hlong] at hclean

end Payload

end Afcon360.Wallet
