import Afcon360.Foundation.Joined
import Afcon360.Foundation.Run
import Mathlib.Algebra.Order.Ring.Rat
import Mathlib.Data.List.Sort

/-!
# Derived idempotency keys

`idempotent_request` with a namespace derives the key of a call from the texts of its
arguments, and answers a call from the result that is stored under its key. Which text an
argument has is its own affair; it comes with the argument. The digest is a parameter.
-/

namespace Afcon360.Utils

open Foundation

universe u v w

/-- An argument with the text that it has when the key is made. -/
structure Argument (α : Type u) where
  value : α
  text : String
deriving DecidableEq, Repr

/-! ## Calls of decorated functions -/

structure Parameter (α : Type u) where
  name : String
  default : Option α := none
deriving DecidableEq, Repr

/-- The parameters of a function; the first `positionalOnly` positional ones have no name for
a caller. -/
structure Signature (α : Type u) where
  positional : List (Parameter α)
  positionalOnly : ℕ := 0
  varArgs : Option String := none
  keywordOnly : List (Parameter α) := []
  varKeywords : Option String := none
deriving DecidableEq, Repr

/-- What is passed for a parameter: a value, or the instance that a method is called on, which is
not looked at. -/
inductive Passed (α : Type u)
  | receiver
  | value (value : α)
deriving DecidableEq, Repr

namespace Signature

variable {α : Type u} (signature : Signature α)

/-- The name of the first parameter. -/
def firstName : Option String :=
  (signature.positional.head?.map Parameter.name) <|> signature.varArgs <|>
    (signature.keywordOnly.head?.map Parameter.name) <|> signature.varKeywords

/-- `_has_self_first_param` -/
def hasSelfFirstParam : Bool :=
  signature.firstName = some "self" ∨ signature.firstName = some "cls"

/-- What can be passed by name to the positional parameter at the place. -/
def byName (keywords : List (String × Passed α)) (place : ℕ) (name : String) :
    Option (Passed α) :=
  if place < signature.positionalOnly then none else keywords.lookup name

/-- The names that belong to parameters. -/
def names : List String :=
  (signature.positional.drop signature.positionalOnly).map Parameter.name ++
    signature.keywordOnly.map Parameter.name

/-- The keywords that belong to no parameter. -/
def surplus (keywords : List (String × Passed α)) : List (String × Passed α) :=
  keywords.filter fun keyword => keyword.1 ∉ signature.names

/-- The call binds: nothing is passed twice, missing or too much. -/
def accepts (args : List (Passed α)) (keywords : List (String × Passed α)) : Bool :=
  (signature.positional.zipIdx.all fun (param, place) =>
    match args[place]?, signature.byName keywords place param.name with
    | some _, some _ => false
    | none, none => param.default.isSome
    | _, _ => true) &&
  (signature.keywordOnly.all fun param =>
    (keywords.lookup param.name).isSome || param.default.isSome) &&
  (signature.varArgs.isSome || args.length ≤ signature.positional.length) &&
  (signature.varKeywords.isSome || (signature.surplus keywords).isEmpty)

end Signature

/-- The arguments as the function gets them. -/
structure BoundArguments (α : Type u) where
  named : List (String × Option (Passed α))
  varArgs : List (Passed α)
  varKeywords : List (String × Passed α)
deriving DecidableEq

/-- What the parameter has, its default in place of nothing if defaults are applied. -/
def Parameter.bound {α : Type u} (applyDefaults : Bool) (param : Parameter α)
    (passed : Option (Passed α)) : String × Option (Passed α) :=
  (param.name, if applyDefaults then passed <|> param.default.map .value else passed)

def Signature.bind {α : Type u} (signature : Signature α) (applyDefaults : Bool)
    (args : List (Passed α)) (keywords : List (String × Passed α)) : BoundArguments α where
  named :=
    (signature.positional.zipIdx.map fun (param, place) =>
      param.bound applyDefaults (args[place]? <|> signature.byName keywords place param.name)) ++
    signature.keywordOnly.map fun param =>
      param.bound applyDefaults (keywords.lookup param.name)
  varArgs := args.drop signature.positional.length
  varKeywords := signature.surplus keywords

/-- What is passed by position; a method gets its instance first. -/
def Signature.passedArgs {α : Type u} (signature : Signature α) (args : List (Argument α)) :
    List (Passed α) :=
  if args ≠ [] ∧ signature.hasSelfFirstParam then
    .receiver :: args.tail.map fun arg => .value arg.value
  else args.map fun arg => .value arg.value

/-- Keyword arguments by name. -/
def sortedKeywords {α : Type u} (kwargs : List (String × Argument α)) :
    List (String × Argument α) :=
  kwargs.insertionSort fun first second => first.1 ≤ second.1

def passedKeywords {α : Type u} (kwargs : List (String × Argument α)) : List (String × Passed α) :=
  (sortedKeywords kwargs).map fun keyword => (keyword.1, .value keyword.2.value)

/-- A call of a function that is decorated with a namespace. -/
structure Call (α : Type u) where
  keyGetter : String
  signature : Signature α
  args : List (Argument α)
  kwargs : List (String × Argument α)
  nodup : (kwargs.map Prod.fst).Nodup
  accepted : signature.accepts (signature.passedArgs args) (passedKeywords kwargs) = true

/-! ## Keys -/

section

variable {α : Type u}

/-- `generate_idempotency_key`, the parts of the key; the request data is given as its text. -/
def keyParts (funcName : String) (args : List (Argument α)) (kwargs : List (String × Argument α))
    (requestData : Option String) : List String :=
  funcName :: (args.map Argument.text ++
    (sortedKeywords kwargs).map (fun keyword => keyword.1 ++ ":" ++ keyword.2.text) ++
      requestData.toList)

/-- `generate_idempotency_key` -/
def generateIdempotencyKey (sha256 : String → String) (funcName : String)
    (args : List (Argument α)) (kwargs : List (String × Argument α))
    (requestData : Option String) : String :=
  "idempotent:" ++ sha256 ("|".intercalate (keyParts funcName args kwargs requestData))

namespace Call

/-- The arguments that are part of the key: the instance of a method is not. -/
def keyArgs (call : Call α) : List (Argument α) :=
  if call.args ≠ [] ∧ call.signature.hasSelfFirstParam then call.args.tail else call.args

def idempotencyKey (sha256 : String → String) (call : Call α) : String :=
  generateIdempotencyKey sha256 call.keyGetter call.keyArgs call.kwargs none

/-- The namespace and the texts of a call. -/
def texts (call : Call α) : List String :=
  keyParts call.keyGetter call.keyArgs call.kwargs none

def boundArguments (applyDefaults : Bool) (call : Call α) : BoundArguments α :=
  call.signature.bind applyDefaults (call.signature.passedArgs call.args)
    (passedKeywords call.kwargs)

/-- The calls have the same namespace and the same bound arguments. -/
def Same (applyDefaults : Bool) (call other : Call α) : Prop :=
  call.keyGetter = other.keyGetter ∧
    call.boundArguments applyDefaults = other.boundArguments applyDefaults

/-- The keys of two calls agree exactly where their texts have the same pieces. -/
theorem idempotencyKey_eq_iff {sha256 : String → String} (hsha : Function.Injective sha256)
    (call other : Call α) :
    call.idempotencyKey sha256 = other.idempotencyKey sha256 ↔
      textPieces '|' call.texts = textPieces '|' other.texts := by
  have hne : ∀ call : Call α, call.texts ≠ [] := fun call => List.cons_ne_nil _ _
  unfold idempotencyKey generateIdempotencyKey
  have hsep : "|" = String.singleton '|' := rfl
  rw [String.append_right_inj, hsha.eq_iff, hsep]
  exact intercalate_eq_iff_textPieces (hne call) (hne other)

end Call

end

/-! ## Stored results -/

/-- What a call of the function comes to: an object with a status, or an exception, given as the
error that would be stored of it. -/
inductive Outcome (ρ : Type v)
  | returned (result : ρ) (statusCode : ℕ)
  | raised (errorResult : ρ)

/-- A stored result, with the call it is the result of. -/
structure Stored (α : Type u) (ρ : Type v) where
  result : ρ
  statusCode : ℕ
  createdAt : ℚ
  expiresAt : ℚ
  call : Call α

/-- The arguments of the decorator besides the namespace. -/
structure Options where
  ttl : ℚ := 3600
  storeErrors : Bool := false

/-- A call that runs its function; its key object was made at `createdAt`. -/
structure Running (α : Type u) where
  call : Call α
  options : Options
  createdAt : ℚ

/-- The store of a process, the calls under way, and those that were answered from the store. -/
structure Requests (α : Type u) (ρ : Type v) where
  store : String → Option (Stored α ρ) := fun _ => none
  running : List (Running α) := []
  answered : List (Call α × Stored α ρ) := []

/-- Calls begin and finish in any order; the clock is read anew each time. -/
inductive RequestEvent (α : Type u) (ρ : Type v)
  | begin (call : Call α) (options : Options) (created first second : ℚ)
  | finish (place : ℕ) (outcome : Outcome ρ)
  | cleanup (now : ℚ)
  | clear

namespace Requests

variable {α : Type u} {ρ : Type v}

/-- `get_result`: an expired result is deleted. -/
def getResult (store : String → Option (Stored α ρ)) (key : String) (now : ℚ) :
    (String → Option (Stored α ρ)) × Option (Stored α ρ) :=
  match store key with
  | none => (store, none)
  | some stored =>
    if stored.expiresAt < now then (Function.update store key none, none)
    else (store, some stored)

/-- `store_result` -/
def storeResult (s : Requests α ρ) (key : String) (running : Running α) (result : ρ)
    (statusCode : ℕ) : Requests α ρ :=
  { s with
    store := Function.update s.store key (some {
      result := result
      statusCode := statusCode
      createdAt := running.createdAt
      expiresAt := running.createdAt + running.options.ttl
      call := running.call }) }

/-- The part of the wrapper before the function runs. The stored result is read twice; where it
expires in between, the wrapper fails. -/
def begin (sha256 : String → String) (s : Requests α ρ) (call : Call α) (options : Options)
    (created first second : ℚ) : Requests α ρ :=
  let key := call.idempotencyKey sha256
  let run := { call := call, options := options, createdAt := created : Running α }
  match getResult s.store key first with
  | (store, none) => { s with store := store, running := s.running ++ [run] }
  | (store, some _) =>
    match getResult store key second with
    | (store, none) => { s with store := store }
    | (store, some cached) =>
      if 400 ≤ cached.statusCode ∧ options.storeErrors = false then
        { s with store := store, running := s.running ++ [run] }
      else { s with store := store, answered := s.answered ++ [(call, cached)] }

/-- The part of the wrapper after the function has run. -/
def finish (sha256 : String → String) (s : Requests α ρ) (place : ℕ) (outcome : Outcome ρ) :
    Requests α ρ :=
  match s.running[place]? with
  | none => s
  | some running =>
    let s := { s with running := s.running.eraseIdx place }
    let key := running.call.idempotencyKey sha256
    match outcome with
    | .returned result statusCode =>
      if statusCode < 400 ∨ running.options.storeErrors = true then
        s.storeResult key running result statusCode
      else s
    | .raised errorResult =>
      if running.options.storeErrors = true then s.storeResult key running errorResult 500
      else s

def next (sha256 : String → String) (s : Requests α ρ) : RequestEvent α ρ → Requests α ρ
  | .begin call options created first second => s.begin sha256 call options created first second
  | .finish place outcome => s.finish sha256 place outcome
  | .cleanup now =>
    { s with store := fun key => (s.store key).filter fun stored => now ≤ stored.expiresAt }
  | .clear => { s with store := fun _ => none }

/-- The calls of a run. -/
def calls (events : List (RequestEvent α ρ)) : List (Call α) :=
  events.filterMap fun
    | .begin call _ _ _ _ => some call
    | _ => none

/-- Results lie under the keys of their calls, answers come from results under the key of the
call, and all calls are among those that were made. -/
structure Keyed (sha256 : String → String) (made : Call α → Prop) (s : Requests α ρ) : Prop where
  store : ∀ key stored, s.store key = some stored →
    made stored.call ∧ stored.call.idempotencyKey sha256 = key
  running : ∀ running ∈ s.running, made running.call
  answered : ∀ answer ∈ s.answered, made answer.1 ∧ made answer.2.call ∧
    answer.2.call.idempotencyKey sha256 = answer.1.idempotencyKey sha256

section

variable {sha256 : String → String} {made : Call α → Prop} {s : Requests α ρ}

theorem Keyed.empty : Keyed sha256 made ({} : Requests α ρ) where
  store key stored h := by cases h
  running running h := by cases h
  answered answer h := by cases h

/-- Reading a result takes at most that result away. -/
theorem getResult_spec (store : String → Option (Stored α ρ)) (key : String) (now : ℚ) :
    (∀ other stored, (getResult store key now).1 other = some stored →
      store other = some stored) ∧
    ∀ stored, (getResult store key now).2 = some stored → store key = some stored := by
  unfold getResult
  split
  · exact ⟨fun _ _ h => h, fun _ h => by cases h⟩
  · rename_i found hfound
    split
    · refine ⟨fun other stored h => ?_, fun _ h => by cases h⟩
      dsimp only at h
      by_cases hother : other = key
      · rw [hother, Function.update_self] at h
        cases h
      · rwa [Function.update_of_ne hother] at h
    · exact ⟨fun _ _ h => h, fun _ h => hfound.trans h⟩

theorem Keyed.shrink (keyed : Keyed sha256 made s) {store : String → Option (Stored α ρ)}
    (h : ∀ key stored, store key = some stored → s.store key = some stored) :
    Keyed sha256 made { s with store := store } where
  store key stored hstored := keyed.store key stored (h key stored hstored)
  running := keyed.running
  answered := keyed.answered

theorem Keyed.run (keyed : Keyed sha256 made s) {running : Running α}
    (hmade : made running.call) :
    Keyed sha256 made { s with running := s.running ++ [running] } where
  store := keyed.store
  running other hother := by
    obtain hother | hother := List.mem_append.mp hother
    · exact keyed.running other hother
    · rwa [List.mem_singleton.mp hother]
  answered := keyed.answered

theorem Keyed.begin (keyed : Keyed sha256 made s) {call : Call α} (hmade : made call)
    (options : Options) (created first second : ℚ) :
    Keyed sha256 made (s.begin sha256 call options created first second) := by
  unfold Requests.begin
  dsimp only
  obtain ⟨hkept, hfound⟩ := getResult_spec s.store (call.idempotencyKey sha256) first
  split
  · rename_i store hget
    rw [hget] at hkept
    exact (keyed.shrink hkept).run hmade
  · rename_i store seen hget
    rw [hget] at hkept
    obtain ⟨hkept', hfound'⟩ := getResult_spec store (call.idempotencyKey sha256) second
    split
    · rename_i store' hget'
      rw [hget'] at hkept'
      exact keyed.shrink fun key stored h => hkept key stored (hkept' key stored h)
    · rename_i store' cached hget'
      rw [hget'] at hkept' hfound'
      have hshrunk := keyed.shrink fun key stored h => hkept key stored (hkept' key stored h)
      split
      · exact hshrunk.run hmade
      · obtain ⟨hcall, hkey⟩ := keyed.store _ cached (hkept _ _ (hfound' cached rfl))
        refine ⟨hshrunk.store, hshrunk.running, fun answer hanswer => ?_⟩
        obtain hold | hnew := List.mem_append.mp hanswer
        · exact keyed.answered answer hold
        · rw [List.mem_singleton.mp hnew]
          exact ⟨hmade, hcall, hkey⟩

theorem Keyed.storeResult (keyed : Keyed sha256 made s) {running : Running α}
    (hmade : made running.call) (result : ρ) (statusCode : ℕ) :
    Keyed sha256 made
      (s.storeResult (running.call.idempotencyKey sha256) running result statusCode) where
  store key stored h := by
    unfold Requests.storeResult at h
    dsimp only at h
    by_cases hkey : key = running.call.idempotencyKey sha256
    · rw [hkey, Function.update_self] at h
      cases h
      exact ⟨hmade, hkey.symm⟩
    · rw [Function.update_of_ne hkey] at h
      exact keyed.store key stored h
  running := keyed.running
  answered := keyed.answered

theorem Keyed.finish (keyed : Keyed sha256 made s) (place : ℕ) (outcome : Outcome ρ) :
    Keyed sha256 made (s.finish sha256 place outcome) := by
  unfold Requests.finish
  split
  · exact keyed
  rename_i running hrunning
  have hmade : made running.call := keyed.running running (List.mem_of_getElem? hrunning)
  have herased : Keyed sha256 made { s with running := s.running.eraseIdx place } :=
    ⟨keyed.store, fun other hother => keyed.running other (List.mem_of_mem_eraseIdx hother),
      keyed.answered⟩
  dsimp only
  split
  · split
    · exact herased.storeResult hmade _ _
    · exact herased
  · split
    · exact herased.storeResult hmade _ _
    · exact herased

theorem Keyed.next (keyed : Keyed sha256 made s) {event : RequestEvent α ρ}
    (hmade : ∀ call ∈ calls [event], made call) : Keyed sha256 made (s.next sha256 event) := by
  cases event with
  | begin call options created first second =>
    exact keyed.begin (hmade call (by simp [calls])) options created first second
  | finish place outcome => exact keyed.finish place outcome
  | cleanup now => exact keyed.shrink fun _ _ h => (Option.filter_eq_some_iff.mp h).1
  | clear => exact keyed.shrink fun _ _ h => by cases h

theorem Keyed.foldl (keyed : Keyed sha256 made s) {events : List (RequestEvent α ρ)}
    (hmade : ∀ call ∈ calls events, made call) :
    Keyed sha256 made (events.foldl (Requests.next sha256) s) := by
  induction events generalizing s with
  | nil => exact keyed
  | cons event rest ih =>
    have hsplit : calls (event :: rest) = calls [event] ++ calls rest :=
      List.filterMap_append (l := [event])
    rw [hsplit] at hmade
    exact ih (keyed.next fun call h => hmade call (List.mem_append_left _ h))
      (fun call h => hmade call (List.mem_append_right _ h))

/-- A call whose texts have the pieces of those of a call before it is answered with its result. -/
theorem answered_of_key [Inhabited ρ] {call other : Call α}
    (h : call.idempotencyKey sha256 = other.idempotencyKey sha256) :
    ∃ stored : Stored α ρ, stored.call = other ∧
      ([.begin other {} 0 0 0, .finish 0 (.returned default 200),
        .begin call {} 0 0 0].foldl (Requests.next sha256) {}).answered = [(call, stored)] := by
  refine ⟨⟨default, 200, 0, 0 + 3600, other⟩, rfl, ?_⟩
  have htime : ¬ (3600 : ℚ) < 0 := by decide
  simp [htime, Requests.next, Requests.begin, Requests.finish, getResult, Requests.storeResult, h]

end

end Requests

/-! ## Calls that pass their arguments alike -/

namespace Call

variable {α : Type u} {call other : Call α}

/-- The calls are of one function, pass as many arguments by position, and the same ones by name;
the instance of a method is passed by position. -/
structure PassedAlike (call other : Call α) : Prop where
  signature : call.signature = other.signature
  args : call.args.length = other.args.length
  keywords : (sortedKeywords call.kwargs).map Prod.fst = (sortedKeywords other.kwargs).map Prod.fst
  receiver : call.signature.hasSelfFirstParam = true → call.args ≠ []

theorem sortedKeywords_perm (kwargs : List (String × Argument α)) :
    (sortedKeywords kwargs).Perm kwargs := List.perm_insertionSort _ kwargs

theorem length_passedArgs (signature : Signature α) (args : List (Argument α)) :
    (signature.passedArgs args).length = args.length := by
  unfold Signature.passedArgs
  split
  · rename_i h
    have hpos := List.length_pos_iff.mpr h.1
    simp
    omega
  · simp

theorem length_keyArgs (alike : PassedAlike call other) :
    call.keyArgs.length = other.keyArgs.length := by
  have hne : call.args ≠ [] ↔ other.args ≠ [] := by
    rw [← List.length_pos_iff, ← List.length_pos_iff, alike.args]
  unfold keyArgs
  rw [← alike.signature]
  by_cases hmethod : call.args ≠ [] ∧ call.signature.hasSelfFirstParam = true
  · rw [if_pos hmethod, if_pos ⟨hne.mp hmethod.1, hmethod.2⟩, List.length_tail, List.length_tail,
      alike.args]
  · rw [if_neg hmethod, if_neg fun h => hmethod ⟨hne.mpr h.1, h.2⟩, alike.args]

theorem passedArgs_eq_iff (alike : PassedAlike call other) :
    call.signature.passedArgs call.args = other.signature.passedArgs other.args ↔
      call.keyArgs.map Argument.value = other.keyArgs.map Argument.value := by
  have hne : call.args ≠ [] ↔ other.args ≠ [] := by
    rw [← List.length_pos_iff, ← List.length_pos_iff, alike.args]
  have hvalue : ∀ args args' : List (Argument α),
      args.map (fun arg => Passed.value arg.value) = args'.map (fun arg => .value arg.value) ↔
        args.map Argument.value = args'.map Argument.value := by
    intro args args'
    have hinj : Function.Injective (Passed.value : α → Passed α) := fun _ _ h => by cases h; rfl
    have hmap : ∀ args : List (Argument α), args.map (fun arg => Passed.value arg.value) =
        (args.map Argument.value).map Passed.value := fun args => by rw [List.map_map]; rfl
    rw [hmap, hmap]
    exact (List.map_injective_iff.mpr hinj).eq_iff
  unfold Signature.passedArgs keyArgs
  rw [← alike.signature]
  by_cases hmethod : call.args ≠ [] ∧ call.signature.hasSelfFirstParam = true
  · have hmethod' : other.args ≠ [] ∧ call.signature.hasSelfFirstParam = true :=
      ⟨hne.mp hmethod.1, hmethod.2⟩
    rw [if_pos hmethod, if_pos hmethod', if_pos hmethod, if_pos hmethod', List.cons.injEq]
    exact (and_iff_right rfl).trans (hvalue _ _)
  · have hmethod' : ¬ (other.args ≠ [] ∧ call.signature.hasSelfFirstParam = true) :=
      fun h => hmethod ⟨hne.mpr h.1, h.2⟩
    rw [if_neg hmethod, if_neg hmethod', if_neg hmethod, if_neg hmethod']
    exact hvalue _ _

theorem map_fst_passedKeywords (kwargs : List (String × Argument α)) :
    (passedKeywords kwargs).map Prod.fst = (sortedKeywords kwargs).map Prod.fst := by
  unfold passedKeywords
  rw [List.map_map]
  rfl

theorem nodup_passedKeywords (call : Call α) :
    ((passedKeywords call.kwargs).map Prod.fst).Nodup := by
  rw [map_fst_passedKeywords]
  exact ((sortedKeywords_perm call.kwargs).map Prod.fst).nodup_iff.mpr call.nodup

theorem lookup_of_mem {keywords : List (String × Passed α)}
    (hnodup : (keywords.map Prod.fst).Nodup) {keyword : String × Passed α}
    (h : keyword ∈ keywords) : keywords.lookup keyword.1 = some keyword.2 := by
  cases hlookup : keywords.lookup keyword.1 with
  | none =>
    have hne := List.lookup_eq_none_iff.mp hlookup keyword h
    simp at hne
  | some value =>
    obtain ⟨before, after, rfl, -⟩ := List.lookup_eq_some_iff.mp hlookup
    have heq := List.inj_on_of_nodup_map hnodup h
      (List.mem_append_right before List.mem_cons_self) rfl
    rw [heq]

theorem mem_of_lookup {keywords : List (String × Passed α)} {name : String} {value : Passed α}
    (h : keywords.lookup name = some value) : (name, value) ∈ keywords := by
  obtain ⟨before, after, rfl, -⟩ := List.lookup_eq_some_iff.mp h
  exact List.mem_append_right before List.mem_cons_self

/-- A parameter that something is passed for is bound to it. -/
theorem bound_some (applyDefaults : Bool) (param : Parameter α) (value : Passed α) :
    param.bound applyDefaults (some value) = (param.name, some value) := by
  cases applyDefaults <;> rfl

section

variable {signature : Signature α} {applyDefaults : Bool} {args args' : List (Passed α)}
  {keywords keywords' : List (String × Passed α)}

/-- Two bindings of a signature that agree. -/
structure Agree (signature : Signature α) (applyDefaults : Bool) (args args' : List (Passed α))
    (keywords keywords' : List (String × Passed α)) : Prop where
  positional : ∀ param place, (param, place) ∈ signature.positional.zipIdx →
    param.bound applyDefaults (args[place]? <|> signature.byName keywords place param.name) =
      param.bound applyDefaults (args'[place]? <|> signature.byName keywords' place param.name)
  keywordOnly : ∀ param ∈ signature.keywordOnly,
    param.bound applyDefaults (keywords.lookup param.name) =
      param.bound applyDefaults (keywords'.lookup param.name)
  varArgs : args.drop signature.positional.length = args'.drop signature.positional.length
  varKeywords : signature.surplus keywords = signature.surplus keywords'

theorem agree_of_bind (h : signature.bind applyDefaults args keywords =
    signature.bind applyDefaults args' keywords') :
    Agree signature applyDefaults args args' keywords keywords' := by
  simp only [Signature.bind, BoundArguments.mk.injEq] at h
  obtain ⟨hnamed, hvarArgs, hvarKeywords⟩ := h
  obtain ⟨hpositional, hkeywordOnly⟩ := List.append_inj hnamed (by simp)
  refine ⟨fun param place hmem => ?_, ?_, hvarArgs, hvarKeywords⟩
  · exact List.map_inj_left.mp hpositional (param, place) hmem
  · exact List.map_inj_left.mp hkeywordOnly

theorem Agree.args_eq (agree : Agree signature applyDefaults args args' keywords keywords')
    (hlength : args.length = args'.length) : args = args' := by
  refine List.ext_getElem hlength fun place hplace hplace' => ?_
  by_cases hparam : place < signature.positional.length
  · have hmem : (signature.positional[place], place) ∈ signature.positional.zipIdx :=
      List.mem_zipIdx_iff_getElem?.mpr (List.getElem?_eq_getElem hparam)
    have hbound := agree.positional _ place hmem
    rw [List.getElem?_eq_getElem hplace, List.getElem?_eq_getElem hplace'] at hbound
    have hsome : ∀ (value : Passed α) (other : Option (Passed α)),
        (some value <|> other) = some value := fun _ _ => rfl
    rw [hsome, hsome, bound_some, bound_some] at hbound
    exact Option.some.inj (Prod.mk.inj hbound).2
  · have hdrop := congrArg (fun rest => rest[place - signature.positional.length]?) agree.varArgs
    have hplus : signature.positional.length + (place - signature.positional.length) = place := by
      omega
    simp only [List.getElem?_drop, hplus] at hdrop
    rw [List.getElem?_eq_getElem hplace, List.getElem?_eq_getElem hplace'] at hdrop
    exact Option.some.inj hdrop

/-- A name that is looked up in both is bound to the same value. -/
theorem lookup_of_bound {param : Parameter α} {value : Passed α}
    (hnames : keywords.map Prod.fst = keywords'.map Prod.fst)
    (hlookup : keywords.lookup param.name = some value)
    (h : param.bound applyDefaults (keywords.lookup param.name) =
      param.bound applyDefaults (keywords'.lookup param.name)) :
    keywords'.lookup param.name = some value := by
  have hmem : param.name ∈ keywords'.map Prod.fst := by
    rw [← hnames]
    exact List.mem_map_of_mem (mem_of_lookup hlookup)
  cases hlookup' : keywords'.lookup param.name with
  | none =>
    obtain ⟨keyword, hkeyword, hname⟩ := List.mem_map.mp hmem
    have hne := List.lookup_eq_none_iff.mp hlookup' keyword hkeyword
    simp [hname] at hne
  | some other =>
    rw [hlookup, hlookup', bound_some, bound_some] at h
    exact (Prod.mk.inj h).2.symm

/-- Every keyword goes to a parameter or is left over; either way it is in both. -/
theorem Agree.keyword_mem (agree : Agree signature applyDefaults args args' keywords keywords')
    (hlength : args.length = args'.length) (hnodup : (keywords.map Prod.fst).Nodup)
    (hnames : keywords.map Prod.fst = keywords'.map Prod.fst)
    (haccepted : signature.accepts args keywords = true) {keyword : String × Passed α}
    (h : keyword ∈ keywords) : keyword ∈ keywords' := by
  have hlookup := lookup_of_mem hnodup h
  by_cases hname : keyword.1 ∈ signature.names
  · simp only [Signature.accepts, Bool.and_eq_true, List.all_eq_true] at haccepted
    obtain ⟨⟨⟨hpositional, -⟩, -⟩, -⟩ := haccepted
    obtain hname | hname := List.mem_append.mp hname
    · obtain ⟨param, hparam, hparamName⟩ := List.mem_map.mp hname
      obtain ⟨i, hi⟩ := List.mem_iff_getElem?.mp hparam
      rw [List.getElem?_drop] at hi
      have hmem : (param, signature.positionalOnly + i) ∈ signature.positional.zipIdx :=
        List.mem_zipIdx_iff_getElem?.mpr hi
      have hbyName : ∀ keywords : List (String × Passed α),
          signature.byName keywords (signature.positionalOnly + i) param.name =
            keywords.lookup param.name := by
        intro keywords
        exact if_neg (by omega)
      have hbound := agree.positional param _ hmem
      have hfree := hpositional _ hmem
      rw [← hparamName] at hlookup
      simp only [hbyName] at hbound hfree
      -- A parameter that is passed by name is not passed by position too.
      cases hplace : args[signature.positionalOnly + i]? with
      | some value => simp [hplace, hlookup] at hfree
      | none =>
        have hplace' : args'[signature.positionalOnly + i]? = none := by
          rw [List.getElem?_eq_none_iff] at hplace ⊢
          omega
        rw [hplace, hplace'] at hbound
        have hother := lookup_of_bound hnames hlookup hbound
        rw [hparamName] at hother
        exact mem_of_lookup hother
    · obtain ⟨param, hparam, hparamName⟩ := List.mem_map.mp hname
      rw [← hparamName] at hlookup
      have hother := lookup_of_bound hnames hlookup (agree.keywordOnly param hparam)
      rw [hparamName] at hother
      exact mem_of_lookup hother
  · have hsurplus : keyword ∈ signature.surplus keywords :=
      List.mem_filter.mpr ⟨h, by simpa using hname⟩
    rw [agree.varKeywords] at hsurplus
    exact (List.mem_filter.mp hsurplus).1

/-- Two lists of keywords in the same order of names are equal once one is part of the other. -/
theorem keywords_eq (hnodup : (keywords'.map Prod.fst).Nodup)
    (hnames : keywords.map Prod.fst = keywords'.map Prod.fst)
    (hsub : ∀ keyword ∈ keywords, keyword ∈ keywords') : keywords = keywords' := by
  have hlength : keywords.length = keywords'.length := by
    simpa using congrArg List.length hnames
  refine List.ext_getElem hlength fun i hi hi' => ?_
  have hname : keywords[i].1 = keywords'[i].1 := by
    have hget := congrArg (fun names => names[i]?) hnames
    simp only [List.getElem?_map, List.getElem?_eq_getElem hi, List.getElem?_eq_getElem hi',
      Option.map_some, Option.some.injEq] at hget
    exact hget
  exact List.inj_on_of_nodup_map hnodup (hsub _ (List.getElem_mem hi)) (List.getElem_mem hi') hname

end

/-- Calls that pass their arguments alike bind the same where they pass the same values. -/
theorem boundArguments_eq_iff (alike : PassedAlike call other) (applyDefaults : Bool) :
    call.boundArguments applyDefaults = other.boundArguments applyDefaults ↔
      call.keyArgs.map Argument.value = other.keyArgs.map Argument.value ∧
        passedKeywords call.kwargs = passedKeywords other.kwargs := by
  rw [← passedArgs_eq_iff alike]
  unfold boundArguments
  constructor
  · intro h
    rw [← alike.signature] at h ⊢
    have hlength : (call.signature.passedArgs call.args).length =
        (call.signature.passedArgs other.args).length := by
      rw [length_passedArgs, length_passedArgs, alike.args]
    have hnames : (passedKeywords call.kwargs).map Prod.fst =
        (passedKeywords other.kwargs).map Prod.fst := by
      rw [map_fst_passedKeywords, map_fst_passedKeywords]
      exact alike.keywords
    have agree := agree_of_bind h
    refine ⟨agree.args_eq hlength, keywords_eq (nodup_passedKeywords other) hnames ?_⟩
    intro keyword hkeyword
    exact agree.keyword_mem hlength (nodup_passedKeywords call) hnames call.accepted hkeyword
  · rintro ⟨hargs, hkeywords⟩
    rw [← alike.signature] at hargs ⊢
    rw [hargs, hkeywords]

/-- The calls have the same namespace and the same texts, argument for argument. -/
def SameTexts (call other : Call α) : Prop :=
  call.keyGetter = other.keyGetter ∧
    call.keyArgs.map Argument.text = other.keyArgs.map Argument.text ∧
      (sortedKeywords call.kwargs).map (fun keyword => keyword.2.text) =
        (sortedKeywords other.kwargs).map fun keyword => keyword.2.text

/-- The calls have the same namespace and the same values, argument for argument. -/
def SameValues (call other : Call α) : Prop :=
  call.keyGetter = other.keyGetter ∧
    call.keyArgs.map Argument.value = other.keyArgs.map Argument.value ∧
      (sortedKeywords call.kwargs).map (fun keyword => keyword.2.value) =
        (sortedKeywords other.kwargs).map fun keyword => keyword.2.value

/-- What is made of named things is the same where what is made of the things is. -/
theorem map_keywords_eq_iff {β : Type v} {γ : Type w}
    {keywords keywords' : List (String × Argument α)}
    (hnames : keywords.map Prod.fst = keywords'.map Prod.fst) (of : Argument α → β)
    (named : String → β → γ) (hnamed : ∀ name, Function.Injective (named name)) :
    keywords.map (fun keyword => named keyword.1 (of keyword.2)) =
        keywords'.map (fun keyword => named keyword.1 (of keyword.2)) ↔
      keywords.map (fun keyword => of keyword.2) = keywords'.map fun keyword => of keyword.2 := by
  induction keywords generalizing keywords' with
  | nil =>
    cases keywords' with
    | nil => simp
    | cons keyword rest => simp at hnames
  | cons keyword rest ih =>
    cases keywords' with
    | nil => simp at hnames
    | cons keyword' rest' =>
      simp only [List.map_cons, List.cons.injEq] at hnames ⊢
      rw [ih hnames.2, hnames.1, (hnamed keyword'.1).eq_iff]

theorem same_iff_sameValues (alike : PassedAlike call other) (applyDefaults : Bool) :
    call.Same applyDefaults other ↔ call.SameValues other := by
  unfold Same SameValues
  rw [boundArguments_eq_iff alike]
  exact and_congr_right fun _ => and_congr_right fun _ =>
    map_keywords_eq_iff alike.keywords Argument.value (fun name value => (name, Passed.value value))
      fun name _ _ h => by cases h; rfl

theorem texts_eq_iff_sameTexts (alike : PassedAlike call other) :
    call.texts = other.texts ↔ call.SameTexts other := by
  have hnamed : ∀ name : String, Function.Injective fun text : String => name ++ ":" ++ text :=
    fun name _ _ h => (String.append_right_inj _).mp h
  have hlength : (call.keyArgs.map Argument.text).length =
      (other.keyArgs.map Argument.text).length := by
    rw [List.length_map, List.length_map, length_keyArgs alike]
  unfold texts keyParts SameTexts
  rw [List.cons.injEq, ← map_keywords_eq_iff alike.keywords Argument.text _ hnamed]
  refine and_congr_right fun _ => ?_
  simp only [Option.toList_none, List.append_nil]
  constructor
  · intro h
    exact List.append_inj h hlength
  · rintro ⟨hargs, hkeywords⟩
    rw [hargs, hkeywords]

end Call

/-- For every function: the keys of two calls tell them apart exactly when the pieces of their
texts do. Among any calls, none is answered with the result of another one exactly when no two
different ones have the same pieces. For calls without separators that pass their arguments
alike, it is a matter of the texts of corresponding arguments. -/
theorem derived_keys {α : Type} {ρ : Type} [Inhabited ρ] {sha256 : String → String}
    (hsha : Function.Injective sha256) (applyDefaults : Bool) :
    (∀ call other : Call α,
      (call.idempotencyKey sha256 = other.idempotencyKey sha256 ↔ call.Same applyDefaults other) ↔
        (textPieces '|' call.texts = textPieces '|' other.texts ↔
          call.Same applyDefaults other)) ∧
    (∀ made : Call α → Prop,
      (∀ events : List (RequestEvent α ρ), (∀ call ∈ Requests.calls events, made call) →
        ∀ answer ∈ (events.foldl (Requests.next sha256) {}).answered,
          answer.1.Same applyDefaults answer.2.call) ↔
        ∀ call other, made call → made other →
          textPieces '|' call.texts = textPieces '|' other.texts →
            call.Same applyDefaults other) ∧
    ∀ call other : Call α, call.PassedAlike other →
      (∀ text ∈ call.texts, '|' ∉ text.toList) → (∀ text ∈ other.texts, '|' ∉ text.toList) →
        ((call.idempotencyKey sha256 = other.idempotencyKey sha256 ↔
            call.Same applyDefaults other) ↔
          (call.SameTexts other ↔ call.SameValues other)) := by
  refine ⟨fun call other => ?_, fun made => ⟨?_, ?_⟩, fun call other alike hcall hother => ?_⟩
  · rw [Call.idempotencyKey_eq_iff hsha]
  · intro h call other hcall hother hpieces
    obtain ⟨stored, rfl, hanswered⟩ := Requests.answered_of_key (ρ := ρ)
      ((Call.idempotencyKey_eq_iff hsha call other).mpr hpieces)
    refine h _ ?_ (call, stored) (by rw [hanswered]; exact List.mem_cons_self)
    simp [Requests.calls, hcall, hother]
  · intro h events hmade answer hanswer
    have keyed : Requests.Keyed sha256 made (events.foldl (Requests.next sha256) {}) :=
      Requests.Keyed.empty.foldl hmade
    obtain ⟨hcall, hother, hkey⟩ := keyed.answered answer hanswer
    exact h _ _ hcall hother ((Call.idempotencyKey_eq_iff hsha _ _).mp hkey.symm)
  · rw [Call.idempotencyKey_eq_iff hsha, textPieces_eq_iff hcall hother,
      Call.texts_eq_iff_sameTexts alike, Call.same_iff_sameValues alike]

/-! ## A function of two labels -/

def labelSignature : Signature String where
  positional := [{ name := "first" }, { name := "second" }]

/-- Both labels by position; the text of a label is the label. -/
def byPosition (first second : String) : Call String where
  keyGetter := "label"
  signature := labelSignature
  args := [⟨first, first⟩, ⟨second, second⟩]
  kwargs := []
  nodup := List.nodup_nil
  accepted := rfl

/-- The second label by name. -/
def secondByName (first second : String) : Call String where
  keyGetter := "label"
  signature := labelSignature
  args := [⟨first, first⟩]
  kwargs := [("second", ⟨second, second⟩)]
  nodup := List.nodup_singleton _
  accepted := rfl

theorem plain_labels :
    (byPosition "a" "b").idempotencyKey id = (byPosition "c" "d").idempotencyKey id ↔
      (byPosition "a" "b").Same true (byPosition "c" "d") := by
  have alike : (byPosition "a" "b").PassedAlike (byPosition "c" "d") :=
    ⟨rfl, rfl, rfl, fun _ => List.cons_ne_nil _ _⟩
  refine ((derived_keys (ρ := Unit) Function.injective_id true).2.2 _ _ alike ?_ ?_).mpr ?_
  · decide +kernel
  · decide +kernel
  · exact iff_of_false (by unfold Call.SameTexts; decide) (by unfold Call.SameValues; decide)

/-- Separators in the arguments make the keys of different calls agree, whatever the digest, and
one label by name makes those of the same call differ. -/
theorem labels_confused :
    (∀ sha256 : String → String, (byPosition "a|b" "c").idempotencyKey sha256 =
      (byPosition "a" "b|c").idempotencyKey sha256) ∧
    ¬ (byPosition "a|b" "c").Same true (byPosition "a" "b|c") ∧
    (byPosition "a" "b").Same true (secondByName "a" "b") ∧
    (byPosition "a" "b").idempotencyKey id ≠ (secondByName "a" "b").idempotencyKey id := by
  refine ⟨fun sha256 => ?_, ?_, ?_, ?_⟩
  · have htexts : "|".intercalate (byPosition "a|b" "c").texts =
        "|".intercalate (byPosition "a" "b|c").texts := by decide +kernel
    exact congrArg (fun text => "idempotent:" ++ sha256 text) htexts
  · unfold Call.Same
    decide +kernel
  · unfold Call.Same
    decide +kernel
  · decide +kernel

end Afcon360.Utils
