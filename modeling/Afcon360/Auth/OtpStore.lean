import Mathlib.Algebra.Order.Ring.Unbundled.Rat

/-!
# The store of one-time codes

`otp_store` keeps short-lived values with an expiry: in Redis, or in a dictionary of the
process when there is no Redis. Where Redis is required, a command that fails is reported as
a failure, whether it took effect or not, and the dictionary is not used.

The clock is read anew by every command, and may say anything.
-/

namespace Afcon360.Auth

/-- A value with the time at which it expires, if it does. -/
structure StoredValue where
  value : String
  expiresAt : Option ℚ
deriving DecidableEq, Repr

abbrev Entries := String → Option StoredValue

def StoredValue.expired (now : ℚ) (entry : StoredValue) : Bool := entry.expiresAt.any (· ≤ now)

/-- `time.time() + ttl if ttl else None` -/
def expiryOf (now : ℚ) (ttl : ℕ) : Option ℚ := if ttl = 0 then none else some (now + ttl)

def Entries.live (entries : Entries) (now : ℚ) (key : String) : Option StoredValue :=
  (entries key).filter (!·.expired now)

/-! ## The dictionary -/

namespace MemoryStore

/-- `_purge` -/
def purge (entries : Entries) (now : ℚ) : Entries := fun key => entries.live now key

/-- `_MemoryStore.get` -/
def get (entries : Entries) (now : ℚ) (key : String) : Entries × Option String :=
  match entries key with
  | none => (entries, none)
  | some entry =>
    if entry.expired now then (Function.update entries key none, none)
    else (entries, some entry.value)

/-- `_MemoryStore.set`, which reads the clock twice. -/
def set (entries : Entries) (now later : ℚ) (key value : String) (ttl : ℕ) : Entries :=
  Function.update (purge entries now) key (some ⟨value, expiryOf later ttl⟩)

/-- `_MemoryStore.delete` -/
def delete (entries : Entries) (key : String) : Entries × Bool :=
  (Function.update entries key none, (entries key).isSome)

/-- `_MemoryStore.compare_and_delete` -/
def compareAndDelete (entries : Entries) (now : ℚ) (key expected : String) : Entries × Bool :=
  match entries key with
  | none => (entries, false)
  | some entry =>
    if entry.expired now then (Function.update entries key none, false)
    else if entry.value ≠ expected then (entries, false)
    else (Function.update entries key none, true)

end MemoryStore

/-! ## Redis -/

namespace Redis

/-- `SET key value EX ttl`, which refuses an expiry of zero. -/
def set (entries : Entries) (now : ℚ) (key value : String) (ttl : ℕ) : Option Entries :=
  if ttl = 0 then none else some (Function.update entries key (some ⟨value, some (now + ttl)⟩))

/-- `GET` -/
def get (entries : Entries) (now : ℚ) (key : String) : Option String :=
  (entries.live now key).map StoredValue.value

/-- `DEL`, with the number of keys it removed. -/
def del (entries : Entries) (now : ℚ) (key : String) : Entries × Bool :=
  (Function.update entries key none, (entries.live now key).isSome)

/-- The script of `store_compare_and_delete`. -/
def compareAndDelete (entries : Entries) (now : ℚ) (key expected : String) : Entries × Bool :=
  match get entries now key with
  | none => (entries, false)
  | some current =>
    if current ≠ expected then (entries, false)
    else (Function.update entries key none, true)

/-- Redis removes a key that has expired, when it likes. -/
def expire (entries : Entries) (now : ℚ) (key : String) : Entries :=
  Function.update entries key (entries.live now key)

end Redis

/-! ## `otp_store` -/

/-- Redis is required, or it is absent and one process has the dictionary. -/
inductive StoreMode
  | redisRequired
  | memory
deriving DecidableEq, Repr

/-- Whether Redis answers a command, or fails before or after the command takes effect. -/
inductive Fault
  | none
  | before
  | after
deriving DecidableEq, Repr

/-- `_encode` of a hex digest: its JSON text. -/
def encode (value : String) : String := "\"" ++ value ++ "\""

/-- `_decode` -/
def decode (raw : String) : String :=
  match raw.toList with
  | '"' :: rest => if rest.getLast? = some '"' then String.ofList rest.dropLast else raw
  | _ => raw

/-- What the store holds for a value. -/
def StoreMode.stored : StoreMode → String → String
  | .redisRequired, value => encode value
  | .memory, value => value

/-- `store_set`; `none` where the mode has no such fault. -/
def storeSet (mode : StoreMode) (fault : Fault) (entries : Entries) (now later : ℚ)
    (key value : String) (ttl : ℕ) : Option (Entries × Bool) :=
  match mode, fault with
  | .memory, .none => some (MemoryStore.set entries now later key value ttl, true)
  | .memory, _ => none
  | .redisRequired, .before => some (entries, false)
  | .redisRequired, .none =>
    match Redis.set entries now key (encode value) ttl with
    | none => some (entries, false)
    | some after => some (after, true)
  | .redisRequired, .after =>
    some ((Redis.set entries now key (encode value) ttl).getD entries, false)

/-- `store_get` -/
def storeGet (mode : StoreMode) (fault : Fault) (entries : Entries) (now : ℚ) (key : String) :
    Option (Entries × Option String) :=
  match mode, fault with
  | .memory, .none => some (MemoryStore.get entries now key)
  | .memory, _ => none
  | .redisRequired, .none => some (entries, (Redis.get entries now key).map decode)
  | .redisRequired, _ => some (entries, none)

/-- `store_delete` -/
def storeDelete (mode : StoreMode) (fault : Fault) (entries : Entries) (now : ℚ) (key : String) :
    Option (Entries × Bool) :=
  match mode, fault with
  | .memory, .none => some (MemoryStore.delete entries key)
  | .memory, _ => none
  | .redisRequired, .none => some (Redis.del entries now key)
  | .redisRequired, .before => some (entries, false)
  | .redisRequired, .after => some ((Redis.del entries now key).1, false)

/-- `store_compare_and_delete` -/
def storeCompareAndDelete (mode : StoreMode) (fault : Fault) (entries : Entries) (now : ℚ)
    (key expected : String) : Option (Entries × Bool) :=
  match mode, fault with
  | .memory, .none => some (MemoryStore.compareAndDelete entries now key expected)
  | .memory, _ => none
  | .redisRequired, .none => some (Redis.compareAndDelete entries now key (encode expected))
  | .redisRequired, .before => some (entries, false)
  | .redisRequired, .after =>
    some ((Redis.compareAndDelete entries now key (encode expected)).1, false)

/-! ## What the commands do -/

section

variable {entries after : Entries} {now later : ℚ} {key other value expected : String} {ttl : ℕ}
  {entry : StoredValue} {mode : StoreMode} {fault : Fault} {result : Bool}

theorem encode_injective : Function.Injective encode := by
  intro a b h
  have hlist := congrArg String.toList h
  simp only [encode, String.toList_append] at hlist
  exact String.toList_injective (List.append_cancel_left (List.append_cancel_right hlist))

theorem stored_injective (mode : StoreMode) : Function.Injective mode.stored := by
  cases mode with
  | redisRequired => exact encode_injective
  | memory => exact fun _ _ h => h

theorem eq_of_live (h : entries.live now key = some entry) : entries key = some entry :=
  (Option.filter_eq_some_iff.mp h).1

/-- Every entry after a command was there before, or is the one the command stored. -/
def Subsumed (entries after : Entries) : Prop :=
  ∀ key entry, after key = some entry → entries key = some entry

theorem Subsumed.refl (entries : Entries) : Subsumed entries entries := fun _ _ h => h

theorem subsumed_remove (entries : Entries) (key : String) :
    Subsumed entries (Function.update entries key none) := by
  intro other entry h
  by_cases hother : other = key
  · rw [hother, Function.update_self] at h
    cases h
  · rwa [Function.update_of_ne hother] at h

theorem subsumed_expire : Subsumed entries (Redis.expire entries now key) := by
  intro other entry h
  unfold Redis.expire at h
  by_cases hother : other = key
  · rw [hother, Function.update_self] at h
    rw [hother]
    exact eq_of_live h
  · rwa [Function.update_of_ne hother] at h

theorem subsumed_purge : Subsumed entries (MemoryStore.purge entries now) :=
  fun _ _ h => eq_of_live h

/-- The expiry that a store has given its key, if it took effect. -/
def storeEffect (mode : StoreMode) (fault : Fault) (now later : ℚ) (ttl : ℕ) : Option (Option ℚ) :=
  match mode, fault with
  | .memory, _ => some (expiryOf later ttl)
  | .redisRequired, .before => none
  | .redisRequired, _ => if ttl = 0 then none else some (some (now + ttl))

theorem storeSet_of_no_effect (h : storeSet mode fault entries now later key value ttl =
      some (after, result)) (heffect : storeEffect mode fault now later ttl = none) :
    after = entries ∧ result = false := by
  cases mode with
  | memory => cases heffect
  | redisRequired =>
    cases fault with
    | before =>
      cases h
      exact ⟨rfl, rfl⟩
    | none =>
      have hzero : ttl = 0 := by simpa [storeEffect] using heffect
      simp only [storeSet, Redis.set, hzero, if_true] at h
      cases h
      exact ⟨rfl, rfl⟩
    | after =>
      have hzero : ttl = 0 := by simpa [storeEffect] using heffect
      simp only [storeSet, Redis.set, hzero, if_true, Option.getD_none] at h
      cases h
      exact ⟨rfl, rfl⟩

theorem eq_update_of_set {new : StoredValue} (hbase : Subsumed entries after)
    (other : String) (hother : other ≠ key) {entry : StoredValue}
    (h : Function.update after key (some new) other = some entry) : entries other = some entry := by
  rw [Function.update_of_ne hother] at h
  exact hbase other entry h

/-- A store that takes effect leaves the value at its key, and elsewhere what was there. -/
theorem storeSet_of_effect {expiry : Option ℚ}
    (h : storeSet mode fault entries now later key value ttl = some (after, result))
    (heffect : storeEffect mode fault now later ttl = some expiry) :
    after key = some ⟨mode.stored value, expiry⟩ ∧
      ∀ other, other ≠ key → ∀ entry, after other = some entry → entries other = some entry := by
  cases mode with
  | memory =>
    cases heffect
    cases fault with
    | none =>
      cases h
      exact ⟨Function.update_self .., fun other hother entry hentry =>
        eq_update_of_set subsumed_purge other hother hentry⟩
    | before => cases h
    | after => cases h
  | redisRequired =>
    have hset : fault ≠ .before → ttl ≠ 0 ∧ expiry = some (now + ttl) := by
      intro hfault
      cases fault with
      | before => exact absurd rfl hfault
      | none =>
        obtain ⟨hzero, hsome⟩ := Option.ite_none_left_eq_some.mp heffect
        exact ⟨hzero, (Option.some.inj hsome).symm⟩
      | after =>
        obtain ⟨hzero, hsome⟩ := Option.ite_none_left_eq_some.mp heffect
        exact ⟨hzero, (Option.some.inj hsome).symm⟩
    cases fault with
    | before => cases heffect
    | none =>
      obtain ⟨hzero, rfl⟩ := hset (by simp)
      simp only [storeSet, Redis.set, hzero, if_false] at h
      cases h
      exact ⟨Function.update_self .., fun other hother entry hentry =>
        eq_update_of_set (.refl entries) other hother hentry⟩
    | after =>
      obtain ⟨hzero, rfl⟩ := hset (by simp)
      simp only [storeSet, Redis.set, hzero, if_false, Option.getD_some] at h
      cases h
      exact ⟨Function.update_self .., fun other hother entry hentry =>
        eq_update_of_set (.refl entries) other hother hentry⟩

theorem storeGet_subsumed {found : Option String}
    (h : storeGet mode fault entries now key = some (after, found)) : Subsumed entries after := by
  cases mode with
  | memory =>
    cases fault with
    | none =>
      have hget := Option.some.inj h
      unfold MemoryStore.get at hget
      split at hget
      · cases hget
        exact .refl entries
      · split at hget
        · cases hget
          exact subsumed_remove entries key
        · cases hget
          exact .refl entries
    | before => cases h
    | after => cases h
  | redisRequired =>
    cases fault <;>
    · cases h
      exact .refl entries

theorem storeDelete_spec (h : storeDelete mode fault entries now key = some (after, result)) :
    Subsumed entries after ∧ (result = true → after key = none) := by
  cases mode with
  | memory =>
    cases fault with
    | none =>
      cases h
      exact ⟨subsumed_remove entries key, fun _ => Function.update_self ..⟩
    | before => cases h
    | after => cases h
  | redisRequired =>
    cases fault with
    | none =>
      cases h
      exact ⟨subsumed_remove entries key, fun _ => Function.update_self ..⟩
    | before =>
      cases h
      exact ⟨.refl entries, fun hfalse => by cases hfalse⟩
    | after =>
      cases h
      exact ⟨subsumed_remove entries key, fun hfalse => by cases hfalse⟩

/-- What a consumption found, if it consumed. -/
structure Consumed (mode : StoreMode) (entries after : Entries) (now : ℚ) (key expected : String) :
    Prop where
  found : ∃ entry, entries key = some entry ∧ entry.expired now = false ∧
    entry.value = mode.stored expected
  gone : after key = none

theorem redis_compareAndDelete_spec {raw : String}
    (h : Redis.compareAndDelete entries now key raw = (after, result)) :
    Subsumed entries after ∧ (result = true → after key = none ∧
      ∃ entry, entries key = some entry ∧ entry.expired now = false ∧ entry.value = raw) := by
  unfold Redis.compareAndDelete at h
  split at h
  · cases h
    exact ⟨.refl entries, fun hfalse => by cases hfalse⟩
  · rename_i current hget
    split at h
    · cases h
      exact ⟨.refl entries, fun hfalse => by cases hfalse⟩
    · rename_i heq
      cases h
      refine ⟨subsumed_remove entries key, fun _ => ⟨Function.update_self .., ?_⟩⟩
      obtain ⟨entry, hlive, rfl⟩ := Option.map_eq_some_iff.mp hget
      obtain ⟨hentry, halive⟩ := Option.filter_eq_some_iff.mp hlive
      exact ⟨entry, hentry, by simpa using halive, not_not.mp heq⟩

theorem storeCompareAndDelete_spec
    (h : storeCompareAndDelete mode fault entries now key expected = some (after, result)) :
    Subsumed entries after ∧ (result = true → Consumed mode entries after now key expected) := by
  cases mode with
  | memory =>
    cases fault with
    | none =>
      have hcompare := Option.some.inj h
      unfold MemoryStore.compareAndDelete at hcompare
      split at hcompare
      · cases hcompare
        exact ⟨.refl entries, fun hfalse => by cases hfalse⟩
      · rename_i entry hentry
        split at hcompare
        · cases hcompare
          exact ⟨subsumed_remove entries key, fun hfalse => by cases hfalse⟩
        rename_i hexpired
        split at hcompare
        · cases hcompare
          exact ⟨.refl entries, fun hfalse => by cases hfalse⟩
        · rename_i heq
          cases hcompare
          refine ⟨subsumed_remove entries key, fun _ => ⟨?_, Function.update_self ..⟩⟩
          exact ⟨entry, hentry, by simpa using hexpired, not_not.mp heq⟩
    | before => cases h
    | after => cases h
  | redisRequired =>
    cases fault with
    | none =>
      obtain ⟨hsub, hfound⟩ := redis_compareAndDelete_spec (Option.some.inj h)
      exact ⟨hsub, fun hresult => ⟨(hfound hresult).2, (hfound hresult).1⟩⟩
    | before =>
      cases h
      exact ⟨.refl entries, fun hfalse => by cases hfalse⟩
    | after =>
      cases h
      exact ⟨(redis_compareAndDelete_spec rfl).1, fun hfalse => by cases hfalse⟩

end

end Afcon360.Auth
