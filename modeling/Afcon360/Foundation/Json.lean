import Mathlib.Data.Rat.Defs

/-!
# JSON values

What programs ask of a decoded JSON document: whether it counts as true, whether it
is an object, and the fields of an object. Numbers are exact.

An object is the list of its fields. Programs write a field in place or at the end; the
order matters to nobody, and `canonical` sorts the fields of all objects in a value. A
field of a sorted object is the sorted field.
-/

namespace Foundation

inductive Json
  | null
  | bool (value : Bool)
  | num (value : ℚ)
  | str (value : String)
  | arr (items : List Json)
  | obj (fields : List (String × Json))

namespace Json

/-- The value in a condition: empty and zero values count as false. -/
def truthy : Json → Bool
  | null => false
  | bool value => value
  | num value => value ≠ 0
  | str value => value ≠ ""
  | arr items => !items.isEmpty
  | obj fields => !fields.isEmpty

def isObj : Json → Bool
  | obj _ => true
  | _ => false

/-- A field of an object; there is none in any other value. -/
def get? (field : String) : Json → Option Json
  | obj fields => fields.lookup field
  | _ => none

/-- A field, or the value to take in its absence. -/
def get (data : Json) (field : String) (absent : Json) : Json := (data.get? field).getD absent

/-- The left value if it counts as true, the right one otherwise. -/
def orElse (left right : Json) : Json := if left.truthy then left else right

/-! ## Fields -/

/-- The fields of an object; the first of a name counts. -/
abbrev Fields := List (String × Json)

namespace Fields

/-- Write a field. -/
def set : Fields → String → Json → Fields
  | [], key, value => [(key, value)]
  | (other, old) :: rest, key, value =>
    if other = key then (key, value) :: rest else (other, old) :: set rest key value

/-- Write several fields, one after the other. -/
def update (fields more : Fields) : Fields :=
  more.foldl (fun acc field => set acc field.1 field.2) fields

/-- The fields but this one. -/
def without (fields : Fields) (key : String) : Fields :=
  fields.filter (fun field => field.1 ≠ key)

theorem lookup_cons (field : String × Json) (fields : Fields) (key : String) :
    List.lookup key (field :: fields) = if key = field.1 then some field.2 else
      fields.lookup key := by
  rw [List.lookup_cons]
  by_cases h : key = field.1
  · simp [h]
  · simp [h, beq_eq_false_iff_ne.mpr h]

theorem lookup_set_self (fields : Fields) (key : String) (value : Json) :
    (set fields key value).lookup key = some value := by
  induction fields with
  | nil => simp [set]
  | cons field rest ih =>
    obtain ⟨other, old⟩ := field
    simp only [set]
    split
    · simp
    · rename_i hne
      rw [lookup_cons, if_neg (Ne.symm hne), ih]

theorem lookup_set_other (fields : Fields) {key other : String} (value : Json)
    (h : other ≠ key) : (set fields key value).lookup other = fields.lookup other := by
  induction fields with
  | nil => simp [set, h]
  | cons field rest ih =>
    obtain ⟨name, old⟩ := field
    simp only [set]
    split
    · rename_i hname
      subst hname
      rw [lookup_cons, lookup_cons, if_neg h, if_neg h]
    · rw [lookup_cons, lookup_cons, ih]

theorem lookup_without (fields : Fields) {key other : String} (h : other ≠ key) :
    (without fields key).lookup other = fields.lookup other := by
  induction fields with
  | nil => rfl
  | cons field rest ih =>
    obtain ⟨name, value⟩ := field
    have hrest : List.lookup other (rest.filter (fun field => field.1 ≠ key)) =
        rest.lookup other := ih
    rw [without, List.filter_cons]
    split
    · rw [lookup_cons, lookup_cons, hrest]
    · rename_i hname
      have hkey : name = key := by simpa using hname
      subst hkey
      rw [lookup_cons, if_neg h, hrest]

/-- Writing a field that is then left out again changes nothing else. -/
theorem without_set (fields : Fields) (key : String) (value : Json) :
    without (set fields key value) key = without fields key := by
  induction fields with
  | nil => simp [set, without]
  | cons field rest ih =>
    obtain ⟨other, old⟩ := field
    simp only [set]
    split
    · rename_i hkey
      subst hkey
      simp [without]
    · rename_i hkey
      simp only [without, List.filter_cons] at ih ⊢
      rw [ih]

/-! ## Sorted fields -/

/-- Put a field before the first one with a name not less. -/
def insert (field : String × Json) : Fields → Fields
  | [] => [field]
  | other :: rest =>
    if field.1 ≤ other.1 then field :: other :: rest else other :: insert field rest

def sort (fields : Fields) : Fields := fields.foldr insert []

theorem lookup_insert (field : String × Json) (fields : Fields) (key : String) :
    (insert field fields).lookup key =
      if key = field.1 then some field.2 else fields.lookup key := by
  induction fields with
  | nil => rw [insert, lookup_cons]
  | cons other rest ih =>
    rw [insert]
    split
    · rw [lookup_cons]
    · rename_i hnot
      have hne : field.1 ≠ other.1 := fun h => hnot (h ▸ String.le_refl _)
      rw [lookup_cons, lookup_cons, ih]
      by_cases hkey : key = field.1
      · rw [if_neg (hkey ▸ hne), if_pos hkey, if_pos hkey]
      · rw [if_neg hkey, if_neg hkey]

theorem lookup_sort (fields : Fields) (key : String) :
    (sort fields).lookup key = fields.lookup key := by
  induction fields with
  | nil => rfl
  | cons field rest ih =>
    have hrest : List.lookup key (rest.foldr insert []) = rest.lookup key := ih
    rw [sort, List.foldr_cons, lookup_insert, lookup_cons, hrest]

end Fields

mutual

/-- The value with the fields of all its objects sorted by name. -/
def canonical : Json → Json
  | null => null
  | bool value => bool value
  | num value => num value
  | str value => str value
  | arr items => arr (canonicalItems items)
  | obj fields => obj (Fields.sort (canonicalFields fields))

def canonicalItems : List Json → List Json
  | [] => []
  | item :: rest => item.canonical :: canonicalItems rest

def canonicalFields : List (String × Json) → List (String × Json)
  | [] => []
  | (key, value) :: rest => (key, value.canonical) :: canonicalFields rest

end

theorem lookup_canonicalFields (fields : Fields) (key : String) :
    List.lookup key (canonicalFields fields) = (fields.lookup key).map canonical := by
  induction fields with
  | nil => rfl
  | cons field rest ih =>
    obtain ⟨name, value⟩ := field
    rw [canonicalFields, Fields.lookup_cons, Fields.lookup_cons, ih]
    split
    · rfl
    · rfl

/-- A field of a sorted object is the sorted field. -/
theorem get?_canonical (fields : Fields) (key : String) :
    (obj fields).canonical.get? key = ((obj fields).get? key).map canonical := by
  rw [canonical, get?, get?, Fields.lookup_sort, lookup_canonicalFields]

/-- Objects are told apart by any field whose sorted values differ. -/
theorem canonical_ne_of_field {fields fields' : Fields} (key : String)
    (h : (fields.lookup key).map canonical ≠ (fields'.lookup key).map canonical) :
    (obj fields).canonical ≠ (obj fields').canonical := by
  intro heq
  apply h
  have hget := congrArg (get? key) heq
  rwa [get?_canonical, get?_canonical] at hget

end Json

end Foundation
