import Afcon360.Auth.OtpStore
import Afcon360.Foundation.Rounding
import Afcon360.Foundation.Run

/-!
# The fallback of the auth store

The operations of `otp_store` on the dictionary of the process and on Redis. The dictionary has
values and removes what expired only when it is read or written; Redis has the JSON texts of the
values and never shows what expired. An operation happens at one instant.

An integer beyond 64 bits, or a text that is none, is an error of `INCR`; the caller then counts
in its own dictionary.
-/

namespace Afcon360.Auth.Fallback

open Foundation

universe u

/-- What the store asks of values and of their texts: `json.dumps`, `_decode`, `==` and
`int(value or 0)`, where `none` is an exception. -/
structure Coding (V : Type u) where
  dumps : V → String
  decode : String → V
  same : V → V → Bool
  int : ℤ → V
  toInt : V → Option ℤ
  dumps_int : ∀ n, dumps (int n) = toString n
  decode_int : ∀ n, decode (toString n) = int n
  toInt_int : ∀ n, toInt (int n) = some n

@[ext] structure Entry (α : Type u) where
  value : α
  expiresAt : Option ℚ
deriving DecidableEq, Repr

def Entry.expired {α : Type u} (now : ℚ) (entry : Entry α) : Bool := entry.expiresAt.any (· ≤ now)

abbrev Entries (α : Type u) := String → Option (Entry α)

/-- The entry of a key that has not expired. -/
def Entries.live {α : Type u} (entries : Entries α) (now : ℚ) (key : String) : Option (Entry α) :=
  (entries key).filter (!·.expired now)

/-- A time to live: whole seconds, if any. -/
abbrev Ttl := Option ℕ+

/-- `time.time() + ttl if ttl else None` -/
def Ttl.expiry (ttl : Ttl) (now : ℚ) : Option ℚ := ttl.map fun seconds => now + (seconds : ℕ)

/-- The operations of the store. -/
inductive Command (V : Type u)
  | set (key : String) (value : V) (ttl : Ttl)
  | setIfAbsent (key : String) (value : V) (ttl : Ttl)
  | get (key : String)
  | delete (key : String)
  | incr (key : String) (ttl : Ttl)
  | ttl (key : String)
  | expire (key : String) (ttl : ℕ+)
  | compareAndDelete (key : String) (expected : V)

/-- What an operation returns; no count is an exception. -/
inductive Reply (V : Type u)
  | flag (value : Bool)
  | value (value : Option V)
  | count (value : Option ℤ)
  | seconds (value : ℤ)
deriving DecidableEq

/-! ## The dictionary -/

namespace Memory

variable {V : Type u}

def purge (entries : Entries V) (now : ℚ) : Entries V := fun key => entries.live now key

def get (entries : Entries V) (now : ℚ) (key : String) : Entries V × Option V :=
  match entries key with
  | none => (entries, none)
  | some entry =>
    if entry.expired now then (Function.update entries key none, none)
    else (entries, some entry.value)

def set (entries : Entries V) (now : ℚ) (key : String) (value : V) (ttl : Ttl) :
    Entries V × Bool :=
  (Function.update (purge entries now) key (some ⟨value, ttl.expiry now⟩), true)

def setIfAbsent (entries : Entries V) (now : ℚ) (key : String) (value : V) (ttl : Ttl) :
    Entries V × Bool :=
  match get entries now key with
  | (after, some _) => (after, false)
  | (after, none) => set after now key value ttl

def delete (entries : Entries V) (key : String) : Entries V × Bool :=
  (Function.update entries key none, (entries key).isSome)

def incr (coding : Coding V) (entries : Entries V) (now : ℚ) (key : String) (ttl : Ttl) :
    Entries V × Option ℤ :=
  match get entries now key with
  | (after, none) => ((set after now key (coding.int 1) ttl).1, some 1)
  | (after, some current) =>
    match coding.toInt current with
    | none => (after, none)
    | some count =>
      (Function.update after key ((after key).map fun entry =>
        { entry with value := coding.int (count + 1) }), some (count + 1))

def ttl (entries : Entries V) (now : ℚ) (key : String) : ℤ :=
  match entries key with
  | none => -2
  | some entry =>
    match entry.expiresAt with
    | none => -1
    | some expiresAt =>
      let remaining := roundDown 1 (expiresAt - now)
      if 0 < remaining then remaining else -2

def expire (entries : Entries V) (now : ℚ) (key : String) (ttl : ℕ+) : Entries V × Bool :=
  match entries key with
  | none => (entries, false)
  | some entry =>
    (Function.update entries key (some { entry with expiresAt := some (now + (ttl : ℕ)) }), true)

def compareAndDelete (coding : Coding V) (entries : Entries V) (now : ℚ) (key : String)
    (expected : V) : Entries V × Bool :=
  match entries key with
  | none => (entries, false)
  | some entry =>
    if entry.expired now then (Function.update entries key none, false)
    else if !coding.same entry.value expected then (entries, false)
    else (Function.update entries key none, true)

/-- `_MemoryStore` -/
def run (coding : Coding V) (entries : Entries V) (now : ℚ) :
    Command V → Entries V × Reply V
  | .set key value ttl => (set entries now key value ttl).map id .flag
  | .setIfAbsent key value ttl => (setIfAbsent entries now key value ttl).map id .flag
  | .get key => (get entries now key).map id .value
  | .delete key => (delete entries key).map id .flag
  | .incr key seconds => (incr coding entries now key seconds).map id .count
  | .ttl key => (entries, .seconds (ttl entries now key))
  | .expire key seconds => (expire entries now key seconds).map id .flag
  | .compareAndDelete key expected =>
    (compareAndDelete coding entries now key expected).map id .flag

end Memory

/-! ## Redis -/

namespace Redis

/-- `SET key value EX ttl`, with `NX` if it must not exist. -/
def set (entries : Entries String) (now : ℚ) (key value : String) (ttl : Ttl) (nx : Bool) :
    Entries String × Bool :=
  if nx && (entries.live now key).isSome then (entries, false)
  else (Function.update entries key (some ⟨value, ttl.expiry now⟩), true)

def get (entries : Entries String) (now : ℚ) (key : String) : Option String :=
  (entries.live now key).map Entry.value

/-- `DEL`, with the number of keys it removed. -/
def del (entries : Entries String) (now : ℚ) (key : String) : Entries String × Bool :=
  (Function.update entries key none, (entries.live now key).isSome)

/-- What the digits of a text with or without a sign come to. -/
def digits (text : String) : ℤ :=
  match text.toList with
  | '-' :: rest => -Nat.ofDigitChars 10 rest 0
  | rest => Nat.ofDigitChars 10 rest 0

/-- A text that is a signed integer of 64 bits, written in the shortest way. -/
def readInt (text : String) : Option ℤ :=
  (some (digits text)).filter fun n => toString n = text ∧ -2 ^ 63 ≤ n ∧ n < 2 ^ 63

/-- `INCR`; `none` is an error. -/
def incr (entries : Entries String) (now : ℚ) (key : String) : Option (Entries String × ℤ) :=
  match entries.live now key with
  | none => some (Function.update entries key (some ⟨"1", none⟩), 1)
  | some entry =>
    match readInt entry.value with
    | none => none
    | some count =>
      if count + 1 < 2 ^ 63 then
        some (Function.update entries key (some { entry with value := toString (count + 1) }),
          count + 1)
      else none

/-- `TTL`, rounded to the nearest second. -/
def ttl (entries : Entries String) (now : ℚ) (key : String) : ℤ :=
  match entries.live now key with
  | none => -2
  | some entry =>
    match entry.expiresAt with
    | none => -1
    | some expiresAt => ⌊expiresAt - now + 1 / 2⌋

def expire (entries : Entries String) (now : ℚ) (key : String) (ttl : ℕ+) :
    Entries String × Bool :=
  match entries.live now key with
  | none => (entries, false)
  | some entry =>
    (Function.update entries key (some { entry with expiresAt := some (now + (ttl : ℕ)) }), true)

/-- The script of `store_compare_and_delete`. -/
def compareAndDelete (entries : Entries String) (now : ℚ) (key expected : String) :
    Entries String × Bool :=
  match get entries now key with
  | none => (entries, false)
  | some current =>
    if current ≠ expected then (entries, false)
    else (Function.update entries key none, true)

end Redis

/-- Redis, and the dictionary of the process that calls it. -/
structure Backed (V : Type u) where
  redis : Entries String
  fallback : Entries V

namespace Backed

variable {V : Type u}

/-- `store_incr` -/
def incr (coding : Coding V) (store : Backed V) (now : ℚ) (key : String) (ttl : Ttl) :
    Backed V × Option ℤ :=
  match Redis.incr store.redis now key with
  | none =>
    let (after, count) := Memory.incr coding store.fallback now key ttl
    ({ store with fallback := after }, count)
  | some (after, count) =>
    match ttl with
    | none => ({ store with redis := after }, some count)
    | some seconds =>
      if Redis.ttl after now key < 0 then
        ({ store with redis := (Redis.expire after now key seconds).1 }, some count)
      else ({ store with redis := after }, some count)

/-- The functions of `otp_store` when Redis answers. -/
def run (coding : Coding V) (store : Backed V) (now : ℚ) : Command V → Backed V × Reply V
  | .set key value ttl =>
    (Redis.set store.redis now key (coding.dumps value) ttl false).map
      (fun after => { store with redis := after }) .flag
  | .setIfAbsent key value ttl =>
    (Redis.set store.redis now key (coding.dumps value) ttl true).map
      (fun after => { store with redis := after }) .flag
  | .get key => (store, .value ((Redis.get store.redis now key).map coding.decode))
  | .delete key =>
    (Redis.del store.redis now key).map (fun after => { store with redis := after }) .flag
  | .incr key seconds => (incr coding store now key seconds).map id .count
  | .ttl key => (store, .seconds (Redis.ttl store.redis now key))
  | .expire key seconds =>
    (Redis.expire store.redis now key seconds).map (fun after => { store with redis := after })
      .flag
  | .compareAndDelete key expected =>
    (Redis.compareAndDelete store.redis now key (coding.dumps expected)).map
      (fun after => { store with redis := after }) .flag

end Backed

/-! ## The same history on both -/

/-- The two replies are the same; seconds that remain may differ by one. -/
def Reply.Agrees {V : Type u} : Reply V → Reply V → Prop
  | .seconds a, .seconds b => a = b ∨ 0 ≤ a ∧ 0 ≤ b ∧ |a - b| ≤ 1
  | a, b => a = b

instance {V : Type u} [DecidableEq V] (a b : Reply V) : Decidable (a.Agrees b) := by
  unfold Reply.Agrees
  split <;> infer_instance

/-- Redis has the text of the value, from which the value is read back. -/
def Entry.Codes {V : Type u} (coding : Coding V) (entry : Entry V) (text : Entry String) : Prop :=
  text.value = coding.dumps entry.value ∧ coding.decode text.value = entry.value ∧
    text.expiresAt = entry.expiresAt

/-- Both have the same live keys. -/
def Related {V : Type u} (coding : Coding V) (now : ℚ) (entries : Entries V)
    (texts : Entries String) : Prop :=
  ∀ key, Option.Rel (Entry.Codes coding) (entries.live now key) (texts.live now key)

/-- Where the dictionary does what Redis does. -/
def Meets {V : Type u} (coding : Coding V) (entries : Entries V) (now : ℚ) : Command V → Prop
  | .set _ value _ => coding.decode (coding.dumps value) = value
  | .setIfAbsent key value _ =>
    entries.live now key = none → coding.decode (coding.dumps value) = value
  | .get _ => True
  | .delete key => ∀ entry ∈ entries key, entry.expired now = false
  | .incr key ttl => ∀ entry ∈ entries.live now key,
    (∃ n, -2 ^ 63 ≤ n ∧ n + 1 < 2 ^ 63 ∧ entry.value = coding.int n) ∧
      (ttl = none ∨ entry.expiresAt ≠ none)
  | .ttl key => ∀ entry ∈ entries.live now key, ∀ expiresAt ∈ entry.expiresAt, now + 1 ≤ expiresAt
  | .expire key _ => ∀ entry ∈ entries key, entry.expired now = false
  | .compareAndDelete key expected => ∀ entry ∈ entries.live now key,
    (coding.same entry.value expected ↔ coding.dumps entry.value = coding.dumps expected)

/-- The dictionary that stands in for Redis has only counts. -/
def Counted {V : Type u} (coding : Coding V) (fallback : Entries V) : Prop :=
  ∀ key, ∀ entry ∈ fallback key, ∃ n, entry.value = coding.int n

/-! ## Live entries -/

section

variable {α : Type u} {entries : Entries α} {now later : ℚ} {key : String} {entry : Entry α}

theorem live_update (new : Option (Entry α)) :
    Entries.live (Function.update entries key new) now =
      Function.update (entries.live now) key (new.filter (!·.expired now)) := by
  funext other
  by_cases h : other = key
  · subst h
    simp [Entries.live]
  · simp [Entries.live, h]

theorem live_eq_some : entries.live now key = some entry ↔
    entries key = some entry ∧ entry.expired now = false := by
  simp [Entries.live, Option.filter_eq_some_iff]

theorem live_eq_none : entries.live now key = none ↔
    ∀ entry ∈ entries key, entry.expired now = true := by
  simp [Entries.live, Option.filter_eq_none_iff]

/-- What is live later is live now. -/
theorem live_later (h : now ≤ later) :
    entries.live later key = (entries.live now key).filter (!·.expired later) := by
  cases hentry : entries key with
  | none => simp [Entries.live, hentry]
  | some entry =>
    by_cases hnow : entry.expired now = true
    · have hlater : entry.expired later = true := by
        simp only [Entry.expired, Option.any_eq_true, decide_eq_true_eq] at hnow ⊢
        obtain ⟨expiresAt, hat, hle⟩ := hnow
        exact ⟨expiresAt, hat, hle.trans h⟩
      simp [Entries.live, hentry, Option.filter_some, hnow, hlater]
    · simp [Entries.live, hentry, Option.filter_some, hnow]

theorem expired_expiry (value : α) (ttl : Ttl) :
    Entry.expired now ⟨value, ttl.expiry now⟩ = false := by
  cases ttl with
  | none => rfl
  | some seconds => simp [Entry.expired, Ttl.expiry]

theorem expired_some {expiresAt : ℚ} (value : α) :
    Entry.expired now ⟨value, some expiresAt⟩ = decide (expiresAt ≤ now) := rfl

theorem live_purge : Entries.live (Memory.purge entries now) now = entries.live now := by
  funext key
  simp [Entries.live, Memory.purge]

theorem live_get : (Memory.get entries now key).1.live now = entries.live now := by
  unfold Memory.get
  split
  · rfl
  · rename_i entry hentry
    split
    · rename_i hexpired
      have hnone : entries.live now key = none :=
        live_eq_none.mpr (by simp [hentry, hexpired])
      rw [live_update, Option.filter_none, ← hnone, Function.update_eq_self]
    · rfl

theorem get_snd : (Memory.get entries now key).2 = (entries.live now key).map Entry.value := by
  unfold Memory.get
  cases hentry : entries key with
  | none => simp [Entries.live, hentry]
  | some entry =>
    by_cases hexpired : entry.expired now = true
    · simp [Entries.live, hentry, hexpired]
    · simp [Entries.live, hentry, hexpired]

theorem get_of_live (h : entries.live now key = some entry) :
    Memory.get entries now key = (entries, some entry.value) := by
  obtain ⟨hentry, hlive⟩ := live_eq_some.mp h
  simp [Memory.get, hentry, hlive]

theorem live_set (key : String) (value : α) (ttl : Ttl) :
    (Memory.set entries now key value ttl).1.live now =
      Function.update (entries.live now) key (some ⟨value, ttl.expiry now⟩) := by
  rw [Memory.set, live_update, live_purge, Option.filter_some, expired_expiry]
  rfl

end

section

variable {V : Type u} {coding : Coding V} {entries : Entries V} {texts : Entries String}
  {now later : ℚ} {key : String} {entry : Entry V} {text : Entry String}

theorem Related.of_le (h : Related coding now entries texts) (hle : now ≤ later) :
    Related coding later entries texts := by
  intro key
  have hkey := h key
  rw [live_later hle, live_later hle]
  revert hkey
  generalize entries.live now key = a
  generalize texts.live now key = b
  rintro (@⟨entry, text, hcodes⟩ | _)
  · have hsame : text.expired later = entry.expired later := by
      rw [Entry.expired, Entry.expired, hcodes.2.2]
    by_cases hexpired : entry.expired later = true
    · simp [Option.filter_some, hsame, hexpired]
    · simpa [Option.filter_some, hsame, hexpired] using hcodes
  · exact Option.Rel.none

/-- Writing a key on both sides keeps the others. -/
theorem related_update (h : Related coding now entries texts) {after : Entries V}
    {after' : Entries String} {new : Option (Entry V)} {new' : Option (Entry String)}
    (hafter : after.live now = Function.update (entries.live now) key new)
    (hafter' : after'.live now = Function.update (texts.live now) key new') :
    Related coding now after after' ↔ Option.Rel (Entry.Codes coding) new new' := by
  unfold Related
  rw [hafter, hafter']
  constructor
  · intro hall
    simpa using hall key
  · intro hnew other
    by_cases hother : other = key
    · subst hother
      simpa using hnew
    · simpa [hother] using h other

theorem digits_toString (n : ℤ) : Redis.digits (toString n) = n := by
  cases n with
  | ofNat m =>
    have hlist : (toString (Int.ofNat m)).toList = Nat.toDigits 10 m := Nat.toList_repr
    rw [Redis.digits, hlist]
    split
    · rename_i rest hrest
      have hdigit : '-'.isDigit = true :=
        Nat.isDigit_of_mem_toDigits (by decide) (by decide) (hrest ▸ List.mem_cons_self)
      exact absurd hdigit (by decide)
    · rw [Nat.ofDigitChars_ten_toDigits]
      rfl
  | negSucc m =>
    have hlist : (toString (Int.negSucc m)).toList = '-' :: Nat.toDigits 10 (m + 1) := by
      rw [← Nat.toList_repr]
      exact String.toList_append
    simp only [Redis.digits, hlist, Nat.ofDigitChars_ten_toDigits]
    omega

theorem readInt_eq_some {text : String} {n : ℤ} :
    Redis.readInt text = some n ↔ text = toString n ∧ -2 ^ 63 ≤ n ∧ n < 2 ^ 63 := by
  simp only [Redis.readInt, Option.filter_eq_some_iff, decide_eq_true_eq]
  constructor
  · rintro ⟨-, htext, hrange⟩
    exact ⟨htext.symm, hrange⟩
  · rintro ⟨rfl, hrange⟩
    exact ⟨congrArg some (digits_toString n), rfl, hrange⟩

/-! ## One operation on both -/

/-- The dictionary and Redis reply alike and stay related. -/
def Steps (coding : Coding V) (entries : Entries V) (store : Backed V) (now : ℚ)
    (command : Command V) : Prop :=
  (Memory.run coding entries now command).2.Agrees (Backed.run coding store now command).2 ∧
    Related coding now (Memory.run coding entries now command).1
      (Backed.run coding store now command).1.redis

variable {store : Backed V}

/-- A key is live on both sides or on none. -/
theorem Related.cases (h : Related coding now entries texts) (key : String) :
    (entries.live now key = none ∧ texts.live now key = none) ∨
      ∃ entry text, entries.live now key = some entry ∧ texts.live now key = some text ∧
        entry.Codes coding text := by
  have hkey := h key
  revert hkey
  generalize entries.live now key = a
  generalize texts.live now key = b
  rintro (@⟨entry, text, hcodes⟩ | _)
  · exact .inr ⟨entry, text, rfl, rfl, hcodes⟩
  · exact .inl ⟨rfl, rfl⟩

theorem codes_dumps (value : V) (expiresAt : Option ℚ) :
    Entry.Codes coding ⟨value, expiresAt⟩ ⟨coding.dumps value, expiresAt⟩ ↔
      coding.decode (coding.dumps value) = value := by
  simp [Entry.Codes]

theorem live_redis_set (key value : String) (ttl : Ttl) :
    Entries.live (Function.update texts key (some ⟨value, ttl.expiry now⟩)) now =
      Function.update (texts.live now) key (some ⟨value, ttl.expiry now⟩) := by
  rw [live_update, Option.filter_some, expired_expiry]
  rfl

theorem steps_set (h : Related coding now entries store.redis) (value : V) (ttl : Ttl) :
    Steps coding entries store now (.set key value ttl) ↔
      coding.decode (coding.dumps value) = value := by
  have hwritten := related_update h (live_set key value ttl)
    (live_redis_set key (coding.dumps value) ttl)
  rw [Option.rel_some_some, codes_dumps] at hwritten
  exact (and_iff_right rfl).trans hwritten

theorem steps_setIfAbsent (h : Related coding now entries store.redis) (value : V) (ttl : Ttl) :
    Steps coding entries store now (.setIfAbsent key value ttl) ↔
      (entries.live now key = none → coding.decode (coding.dumps value) = value) := by
  obtain ⟨hnone, htext⟩ | ⟨entry, text, hentry, htext, -⟩ := h.cases key
  · have hsnd : (Memory.get entries now key).2 = none := by rw [get_snd, hnone]; rfl
    have hset : Memory.setIfAbsent entries now key value ttl =
        Memory.set (Memory.get entries now key).1 now key value ttl := by
      rw [Memory.setIfAbsent]
      split
      · rename_i hget
        rw [hget] at hsnd
        cases hsnd
      · rename_i after hget
        rw [hget]
    have hredis : Redis.set store.redis now key (coding.dumps value) ttl true =
        Redis.set store.redis now key (coding.dumps value) ttl false := by
      simp [Redis.set, htext]
    have hrelated : Related coding now (Memory.get entries now key).1 store.redis := by
      intro other
      rw [live_get]
      exact h other
    simp only [Steps, Memory.run, Backed.run, hset, hredis, hnone, true_imp_iff]
    exact steps_set hrelated value ttl
  · have hset : Memory.setIfAbsent entries now key value ttl = (entries, false) := by
      rw [Memory.setIfAbsent, get_of_live hentry]
    have hredis : Redis.set store.redis now key (coding.dumps value) ttl true =
        (store.redis, false) := by
      simp [Redis.set, htext]
    simp only [Steps, Memory.run, Backed.run, hset, hredis, hentry, reduceCtorEq, false_imp_iff,
      iff_true]
    exact ⟨rfl, h⟩

theorem steps_get (h : Related coding now entries store.redis) :
    Steps coding entries store now (.get key) := by
  constructor
  · simp only [Memory.run, Backed.run, Prod.map, get_snd, Redis.get, Reply.Agrees]
    obtain ⟨hnone, htext⟩ | ⟨entry, text, hentry, htext, hcodes⟩ := h.cases key
    · simp [hnone, htext]
    · simp [hentry, htext, hcodes.2.1]
  · intro other
    simp only [Memory.run, Backed.run, Prod.map, id_eq, live_get]
    exact h other

theorem steps_delete (h : Related coding now entries store.redis) :
    Steps coding entries store now (.delete key) ↔
      ∀ entry ∈ entries key, entry.expired now = false := by
  have hrelated : Related coding now (Function.update entries key none)
      (Function.update store.redis key none) :=
    (related_update h (live_update none) (live_update none)).mpr Option.Rel.none
  simp only [Steps, Memory.run, Backed.run, Memory.delete, Redis.del, Prod.map, id_eq,
    Reply.Agrees, Reply.flag.injEq]
  rw [and_iff_left hrelated]
  obtain ⟨hnone, htext⟩ | ⟨entry, text, hentry, htext, -⟩ := h.cases key
  · have hexpired := live_eq_none.mp hnone
    cases hentry : entries key with
    | none => simp [htext]
    | some entry => simp [htext, hexpired entry hentry]
  · obtain ⟨hentry, hlive⟩ := live_eq_some.mp hentry
    simp [hentry, htext, hlive]

theorem steps_expire (h : Related coding now entries store.redis) (seconds : ℕ+) :
    Steps coding entries store now (.expire key seconds) ↔
      ∀ entry ∈ entries key, entry.expired now = false := by
  simp only [Steps, Memory.run, Backed.run, Memory.expire, Redis.expire]
  obtain ⟨hnone, htext⟩ | ⟨entry, text, hentry, htext, hcodes⟩ := h.cases key
  · have hexpired := live_eq_none.mp hnone
    cases hentry : entries key with
    | none => simp [htext, Reply.Agrees, h]
    | some entry => simp [htext, Reply.Agrees, hexpired entry hentry]
  · obtain ⟨hentry, hlive⟩ := live_eq_some.mp hentry
    have hfresh : now < now + ((seconds : ℕ) : ℚ) := by
      have hpos : (0 : ℚ) < ((seconds : ℕ) : ℚ) := by exact_mod_cast seconds.pos
      linarith
    have hrelated : Related coding now
        (Function.update entries key (some { entry with expiresAt := some (now + (seconds : ℕ)) }))
        (Function.update store.redis key
          (some { text with expiresAt := some (now + (seconds : ℕ)) })) := by
      rw [related_update h (live_update _) (live_update _)]
      simpa [Option.filter_some, expired_some, hfresh] using ⟨hcodes.1, hcodes.2.1, rfl⟩
    simp [hentry, htext, hlive, Reply.Agrees, hrelated]

theorem steps_compareAndDelete (h : Related coding now entries store.redis) (expected : V) :
    Steps coding entries store now (.compareAndDelete key expected) ↔
      ∀ entry ∈ entries.live now key,
        (coding.same entry.value expected ↔ coding.dumps entry.value = coding.dumps expected) := by
  simp only [Steps, Memory.run, Backed.run, Memory.compareAndDelete, Redis.compareAndDelete,
    Redis.get]
  have hremoved : Related coding now (Function.update entries key none)
      (Function.update store.redis key none) :=
    (related_update h (live_update none) (live_update none)).mpr Option.Rel.none
  obtain ⟨hnone, htext⟩ | ⟨entry, text, hentry, htext, hcodes⟩ := h.cases key
  · have hexpired := live_eq_none.mp hnone
    cases hentry : entries key with
    | none => simp [htext, hnone, Reply.Agrees, h]
    | some entry =>
      have hpurged : Related coding now (Function.update entries key none) store.redis := by
        intro other
        rw [live_update, Option.filter_none, ← hnone, Function.update_eq_self]
        exact h other
      simp [htext, hnone, hexpired entry hentry, Reply.Agrees, hpurged]
  · obtain ⟨hraw, hlive⟩ := live_eq_some.mp hentry
    have hstored : text.value = coding.dumps entry.value := hcodes.1
    by_cases hsame : coding.same entry.value expected = true <;>
      by_cases htexts : coding.dumps entry.value = coding.dumps expected <;>
        simp [hraw, hlive, htext, hentry, hsame, htexts, hstored, Reply.Agrees, h, hremoved]

/-- A number of seconds cut off and the same rounded are less than one apart. -/
theorem rounded_near {x : ℚ} (hx : 0 < x) :
    0 ≤ ⌊x + 1 / 2⌋ ∧ |roundDown 1 x - ⌊x + 1 / 2⌋| ≤ 1 ∧ (0 < roundDown 1 x ↔ 1 ≤ x) := by
  have hcut : roundDown 1 x = ⌊x⌋ := by simp [roundDown, hx.le]
  have hlow : ⌊x⌋ ≤ ⌊x + 1 / 2⌋ := Int.floor_le_floor (by linarith)
  have hhigh : ⌊x + 1 / 2⌋ ≤ ⌊x⌋ + 1 := by
    rw [← Int.floor_add_one]
    exact Int.floor_le_floor (by linarith)
  have hnonneg : 0 ≤ ⌊x⌋ := Int.floor_nonneg.mpr hx.le
  refine ⟨hnonneg.trans hlow, ?_, ?_⟩
  · rw [hcut, abs_le]
    omega
  · rw [hcut, Int.floor_pos]

theorem steps_ttl (h : Related coding now entries store.redis) :
    Steps coding entries store now (.ttl key) ↔
      ∀ entry ∈ entries.live now key, ∀ expiresAt ∈ entry.expiresAt, now + 1 ≤ expiresAt := by
  have hstep : Steps coding entries store now (.ttl key) ↔
      (Reply.seconds (V := V) (Memory.ttl entries now key)).Agrees
        (.seconds (Redis.ttl store.redis now key)) := and_iff_left h
  rw [hstep]
  simp only [Memory.ttl, Redis.ttl, Reply.Agrees]
  obtain ⟨hnone, htext⟩ | ⟨entry, text, hentry, htext, hcodes⟩ := h.cases key
  · have hexpired := live_eq_none.mp hnone
    cases hentry : entries key with
    | none => simp [htext, hnone]
    | some entry =>
      have hpast := hexpired entry hentry
      simp only [Entry.expired, Option.any_eq_true, decide_eq_true_eq] at hpast
      obtain ⟨expiresAt, hat, hle⟩ := hpast
      have hcut : ¬ 0 < roundDown 1 (expiresAt - now) := by
        unfold roundDown
        split
        · have hzero : expiresAt - now = 0 := le_antisymm (by linarith) (by assumption)
          simp [hzero]
        · have hpos : 0 ≤ ⌊-(expiresAt - now) * (1 : ℕ)⌋ := Int.floor_nonneg.mpr (by
            push_cast
            linarith)
          omega
      simp [htext, hnone, hat, hcut]
  · obtain ⟨hraw, hlive⟩ := live_eq_some.mp hentry
    simp only [hraw, htext, hentry, hcodes.2.2, Option.mem_def, Option.some.injEq,
      forall_eq']
    cases hat : entry.expiresAt with
    | none => simp
    | some expiresAt =>
      have hahead : 0 < expiresAt - now := by
        simp only [Entry.expired, hat, Option.any_some, decide_eq_false_iff_not, not_le] at hlive
        linarith
      obtain ⟨hredis, hnear, hpos⟩ := rounded_near hahead
      have hcond : (∀ at_, some expiresAt = some at_ → now + 1 ≤ at_) ↔
          0 < roundDown 1 (expiresAt - now) := by
        rw [hpos]
        constructor
        · intro hall
          have hone := hall expiresAt rfl
          linarith
        · rintro hone at_ ⟨rfl⟩
          linarith
      rw [hcond]
      by_cases hcut : 0 < roundDown 1 (expiresAt - now)
      · simp only [hcut, if_true, iff_true]
        exact .inr ⟨hcut.le, hredis, hnear⟩
      · simp only [hcut, if_false, iff_false]
        omega

/-! ## Counting -/

theorem int_injective (coding : Coding V) : Function.Injective coding.int := by
  intro n m h
  have htoInt := congrArg coding.toInt h
  rw [coding.toInt_int, coding.toInt_int] at htoInt
  exact Option.some.inj htoInt

/-- The count of a dictionary of counts never raises, and is again one. -/
theorem Counted.incr {fallback : Entries V} (h : Counted coding fallback) (key : String)
    (ttl : Ttl) :
    (∃ count, (Memory.incr coding fallback now key ttl).2 = some count) ∧
      Counted coding (Memory.incr coding fallback now key ttl).1 := by
  have hget : ∀ other, ∀ entry ∈ (Memory.get fallback now key).1 other,
      ∃ n, entry.value = coding.int n := by
    intro other entry hentry
    unfold Memory.get at hentry
    split at hentry
    · exact h other entry hentry
    · split at hentry
      · by_cases hother : other = key
        · simp [hother] at hentry
        · simp only [Function.update_of_ne hother] at hentry
          exact h other entry hentry
      · exact h other entry hentry
  have hsnd : ∀ current, (Memory.get fallback now key).2 = some current →
      ∃ n, current = coding.int n := by
    intro current hcurrent
    rw [get_snd] at hcurrent
    obtain ⟨entry, hentry, rfl⟩ := Option.map_eq_some_iff.mp hcurrent
    exact h key entry (live_eq_some.mp hentry).1
  unfold Memory.incr
  split
  · rename_i after hafter
    refine ⟨⟨1, rfl⟩, fun other entry hentry => ?_⟩
    rw [hafter] at hget
    by_cases hother : other = key
    · subst hother
      simp only [Memory.set, Function.update_self, Option.mem_def, Option.some.injEq] at hentry
      exact ⟨1, by rw [← hentry]⟩
    · simp only [Memory.set, Function.update_of_ne hother, Memory.purge] at hentry
      exact hget other entry (live_eq_some.mp hentry).1
  · rename_i after current hafter
    rw [hafter] at hget hsnd
    obtain ⟨n, rfl⟩ := hsnd current rfl
    simp only [coding.toInt_int]
    refine ⟨⟨n + 1, rfl⟩, fun other entry hentry => ?_⟩
    by_cases hother : other = key
    · subst hother
      rw [Function.update_self] at hentry
      obtain ⟨old, -, rfl⟩ := Option.map_eq_some_iff.mp hentry
      exact ⟨n + 1, rfl⟩
    · rw [Function.update_of_ne hother] at hentry
      exact hget other entry hentry

/-- The count of a key that is not live. -/
theorem steps_incr_absent (h : Related coding now entries store.redis) (ttl : Ttl)
    (hnone : entries.live now key = none) (htext : store.redis.live now key = none) :
    Steps coding entries store now (.incr key ttl) := by
  have hsnd : (Memory.get entries now key).2 = none := by rw [get_snd, hnone]; rfl
  have hmemory : Memory.incr coding entries now key ttl =
      ((Memory.set (Memory.get entries now key).1 now key (coding.int 1) ttl).1, some 1) := by
    rw [Memory.incr]
    split
    · rename_i hget
      rw [hget]
    · rename_i hget
      rw [hget] at hsnd
      cases hsnd
  have hredis : Backed.incr coding store now key ttl =
      ({ store with redis := Function.update store.redis key (some ⟨"1", ttl.expiry now⟩) },
        some 1) := by
    rw [Backed.incr, Redis.incr, htext]
    cases ttl with
    | none => rfl
    | some seconds =>
      have hlive : Entries.live (Function.update store.redis key (some ⟨"1", none⟩)) now key =
          some ⟨"1", none⟩ := by
        simp [Entries.live, Entry.expired]
      simp [Redis.ttl, Redis.expire, hlive, Ttl.expiry]
  have hrelated : Related coding now (Memory.get entries now key).1 store.redis := by
    intro other
    rw [live_get]
    exact h other
  have hwritten := related_update hrelated (live_set key (coding.int 1) ttl)
    (live_redis_set key "1" ttl)
  simp only [Steps, Memory.run, Backed.run, hmemory, hredis, Prod.map, id_eq]
  refine ⟨rfl, hwritten.mpr (.some ⟨(coding.dumps_int 1).symm, ?_, rfl⟩)⟩
  exact coding.decode_int 1

/-- The count of a live key. -/
theorem steps_incr_live (h : Related coding now entries store.redis)
    (hcounted : Counted coding store.fallback) (ttl : Ttl)
    (hentry : entries.live now key = some entry) (htext : store.redis.live now key = some text)
    (hcodes : entry.Codes coding text) :
    Steps coding entries store now (.incr key ttl) ↔
      (∃ n, -2 ^ 63 ≤ n ∧ n + 1 < 2 ^ 63 ∧ entry.value = coding.int n) ∧
        (ttl = none ∨ entry.expiresAt ≠ none) := by
  obtain ⟨hraw, hlive⟩ := live_eq_some.mp hentry
  obtain ⟨htraw, htlive⟩ := live_eq_some.mp htext
  obtain ⟨hdumps, hdecode, hexpires⟩ := hcodes
  have hwritten : ∀ (value : V) (new : Entry String), new.expired now = false →
      (Related coding now (Function.update entries key (some { entry with value }))
        (Function.update store.redis key (some new)) ↔
          Entry.Codes coding { entry with value } new) := by
    intro value new hnew
    have hfresh : Entry.expired now { entry with value } = false := hlive
    rw [related_update h (live_update _) (live_update _), Option.filter_some, Option.filter_some,
      hfresh, hnew]
    exact Option.rel_some_some
  have hmemory : ∀ count, coding.toInt entry.value = some count →
      Memory.incr coding entries now key ttl =
        (Function.update entries key (some { entry with value := coding.int (count + 1) }),
          some (count + 1)) := by
    intro count hcount
    simp [Memory.incr, get_of_live hentry, hcount, hraw]
  -- Where the text stays as it is, the dictionary must not have counted.
  have hstays : ∀ count, coding.toInt entry.value = some count →
      ¬ Related coding now (Memory.incr coding entries now key ttl).1 store.redis := by
    intro count hcount hrelated
    have hkey := hrelated key
    have hfresh : Entry.expired now { entry with value := coding.int (count + 1) } = false := hlive
    rw [hmemory count hcount, live_update, Function.update_self, htext, Option.filter_some, hfresh]
      at hkey
    have hcounted : coding.decode text.value = coding.int (count + 1) :=
      (Option.rel_some_some.mp hkey).2.1
    rw [hdecode] at hcounted
    rw [hcounted, coding.toInt_int] at hcount
    have hsame := Option.some.inj hcount
    omega
  cases hread : Redis.readInt text.value with
  | none =>
    have herror : Redis.incr store.redis now key = none := by
      simp [Redis.incr, htext, hread]
    obtain ⟨count, hfallback⟩ :
        ∃ count, (Memory.incr coding store.fallback now key ttl).2 = some count :=
      (hcounted.incr key ttl).1
    refine iff_of_false ?_ ?_
    · rintro ⟨hreply, hrelated⟩
      simp only [Memory.run, Backed.run, Backed.incr, herror, Prod.map, id_eq, hfallback,
        Reply.Agrees, Reply.count.injEq] at hreply hrelated
      cases hcount : coding.toInt entry.value with
      | none => simp [Memory.incr, get_of_live hentry, hcount] at hreply
      | some n => exact hstays n hcount hrelated
    · rintro ⟨⟨n, hlow, hhigh, hvalue⟩, -⟩
      have hsome : Redis.readInt text.value = some n := by
        rw [readInt_eq_some, hdumps, hvalue, coding.dumps_int]
        exact ⟨rfl, hlow, by omega⟩
      rw [hread] at hsome
      cases hsome
  | some n =>
    obtain ⟨hn, hlow, -⟩ := readInt_eq_some.mp hread
    have hvalue : entry.value = coding.int n := by rw [← hdecode, hn, coding.decode_int]
    have hcount : coding.toInt entry.value = some n := by rw [hvalue, coding.toInt_int]
    by_cases hroom : n + 1 < 2 ^ 63
    · have hredis : Redis.incr store.redis now key = some
          (Function.update store.redis key (some { text with value := toString (n + 1) }),
            n + 1) := by
        simp only [Redis.incr, htext, hread]
        rw [if_pos hroom]
      have hafter : Entries.live
          (Function.update store.redis key (some { text with value := toString (n + 1) })) now key =
            some { text with value := toString (n + 1) } := by
        have hfresh : Entry.expired now { text with value := toString (n + 1) } = false := htlive
        rw [live_update, Function.update_self, Option.filter_some, hfresh]
        rfl
      have hcond : (∃ n, -2 ^ 63 ≤ n ∧ n + 1 < 2 ^ 63 ∧ entry.value = coding.int n) :=
        ⟨n, hlow, hroom, hvalue⟩
      have hkept : Related coding now
          (Function.update entries key (some { entry with value := coding.int (n + 1) }))
          (Function.update store.redis key (some { text with value := toString (n + 1) })) :=
        (hwritten _ { text with value := toString (n + 1) } htlive).mpr
          ⟨(coding.dumps_int _).symm, coding.decode_int _, hexpires⟩
      rw [and_iff_right hcond, Steps]
      simp only [Memory.run, Backed.run, Backed.incr, hredis, hmemory n hcount, Prod.map, id_eq]
      cases ttl with
      | none => exact iff_of_true ⟨rfl, hkept⟩ (.inl rfl)
      | some seconds =>
        obtain hat | ⟨expiresAt, hat⟩ := Option.eq_none_or_eq_some text.expiresAt
        · -- Redis starts the window of a count that had none.
          have hnone : Redis.ttl (Function.update store.redis key
              (some { text with value := toString (n + 1) })) now key < 0 := by
            simp only [Redis.ttl, hafter]
            simp [hat]
          refine iff_of_false ?_ ?_
          · rintro ⟨-, hrelated⟩
            simp only [hnone, if_true, Redis.expire, hafter, Function.update_idem] at hrelated
            have hnew : Entry.expired now
                { text with value := toString (n + 1), expiresAt := some (now + (seconds : ℕ)) } =
                  false := expired_expiry _ (some seconds)
            have hcodes := (hwritten _ _ hnew).mp hrelated
            rw [hexpires] at hat
            exact absurd (hcodes.2.2.trans hat) (by simp)
          · simp [← hexpires, hat]
        · have hsome : ¬ Redis.ttl (Function.update store.redis key
              (some { text with value := toString (n + 1) })) now key < 0 := by
            simp only [Redis.ttl, hafter]
            simp only [hat, not_lt]
            simp only [Entry.expired, hat, Option.any_some, decide_eq_false_iff_not, not_le]
              at htlive
            exact Int.floor_nonneg.mpr (by linarith)
          simp only [hsome, if_false]
          exact iff_of_true ⟨rfl, hkept⟩ (.inr (by simp [← hexpires, hat]))
    · have herror : Redis.incr store.redis now key = none := by
        simp only [Redis.incr, htext, hread]
        rw [if_neg hroom]
      refine iff_of_false ?_ ?_
      · rintro ⟨-, hrelated⟩
        simp only [Memory.run, Backed.run, Backed.incr, herror, Prod.map, id_eq] at hrelated
        exact hstays n hcount hrelated
      · rintro ⟨⟨m, -, hhigh, hm⟩, -⟩
        rw [hvalue] at hm
        have hsame := int_injective coding hm
        omega

theorem steps_iff (h : Related coding now entries store.redis)
    (hcounted : Counted coding store.fallback) (command : Command V) :
    Steps coding entries store now command ↔ Meets coding entries now command := by
  cases command with
  | set key value ttl => exact steps_set h value ttl
  | setIfAbsent key value ttl => exact steps_setIfAbsent h value ttl
  | get key => exact iff_of_true (steps_get h) trivial
  | delete key => exact steps_delete h
  | incr key ttl =>
    obtain ⟨hnone, htext⟩ | ⟨entry, text, hentry, htext, hcodes⟩ := h.cases key
    · exact iff_of_true (steps_incr_absent h ttl hnone htext) (by simp [Meets, hnone])
    · rw [steps_incr_live h hcounted ttl hentry htext hcodes, Meets]
      simp [hentry]
  | ttl key => exact steps_ttl h
  | expire key seconds => exact steps_expire h seconds
  | compareAndDelete key expected => exact steps_compareAndDelete h expected

/-- The dictionary beside Redis only counts. -/
theorem Counted.run (h : Counted coding store.fallback) (command : Command V) :
    Counted coding (Backed.run coding store now command).1.fallback := by
  cases command with
  | incr key ttl =>
    simp only [Backed.run, Backed.incr, Prod.map, id_eq]
    split
    · exact (h.incr key ttl).2
    · split
      · exact h
      · split
        · exact h
        · exact h
  | _ => exact h

end

/-! ## Histories -/

/-- The stores after a history: the dictionary alone, and Redis. -/
structure Stores (V : Type u) where
  memory : Entries V := fun _ => none
  backed : Backed V := ⟨fun _ => none, fun _ => none⟩

namespace Stores

variable {V : Type u} (coding : Coding V)

def next (s : Stores V) (label : ℚ × Command V) : Stores V where
  memory := (Memory.run coding s.memory label.1 label.2).1
  backed := (Backed.run coding s.backed label.1 label.2).1

/-- Both return the same. -/
def RepliesAgree (s : Stores V) (label : ℚ × Command V) : Prop :=
  (Memory.run coding s.memory label.1 label.2).2.Agrees
    (Backed.run coding s.backed label.1 label.2).2

/-- Both return the same and have the same live keys afterwards. -/
def StayAlike (s : Stores V) (label : ℚ × Command V) : Prop :=
  s.RepliesAgree coding label ∧
    Related coding label.1 (s.next coding label).memory (s.next coding label).backed.redis

/-- The operation is one that the dictionary does as Redis does it. -/
def Met (s : Stores V) (label : ℚ × Command V) : Prop :=
  Meets coding s.memory label.1 label.2

instance [DecidableEq V] (s : Stores V) (label : ℚ × Command V) :
    Decidable (s.RepliesAgree coding label) :=
  inferInstanceAs (Decidable (Reply.Agrees _ _))

variable {coding}

theorem alike_iff {s : Stores V} {now : ℚ} {history : List (ℚ × Command V)}
    (h : Related coding now s.memory s.backed.redis) (hcounted : Counted coding s.backed.fallback)
    (hlater : ∀ label ∈ history, now ≤ label.1)
    (hclock : history.Pairwise (fun first second => first.1 ≤ second.1)) :
    Along (next coding) (StayAlike coding) s history ↔
      Along (next coding) (Met coding) s history := by
  induction history generalizing s now with
  | nil => exact iff_of_true (along_nil _ _ _) (along_nil _ _ _)
  | cons label rest ih =>
    obtain ⟨hfirst, hclock⟩ := List.pairwise_cons.mp hclock
    have hnow := h.of_le (hlater label List.mem_cons_self)
    have hstep : s.StayAlike coding label ↔ s.Met coding label := steps_iff hnow hcounted label.2
    rw [along_cons, along_cons, hstep]
    refine and_congr_right fun hmet => ?_
    exact ih (hstep.mpr hmet).2 (hcounted.run label.2) hfirst hclock

end Stores

/-- Over every history whose clock does not go back, the dictionary and Redis return the same and
have the same live keys after each operation exactly when each operation meets its condition. -/
theorem fallback_refines {V : Type u} (coding : Coding V) (history : List (ℚ × Command V))
    (hclock : history.Pairwise (fun first second => first.1 ≤ second.1)) :
    Along (Stores.next coding) (Stores.StayAlike coding) {} history ↔
      Along (Stores.next coding) (Stores.Met coding) {} history := by
  cases history with
  | nil => exact iff_of_true (along_nil _ _ _) (along_nil _ _ _)
  | cons label rest =>
    have hfirst : ∀ other ∈ label :: rest, label.1 ≤ other.1 := by
      intro other hother
      rcases List.mem_cons.mp hother with rfl | hrest
      · exact le_rfl
      · exact (List.pairwise_cons.mp hclock).1 other hrest
    exact Stores.alike_iff (fun _ => Option.Rel.none) (by simp [Counted]) hfirst hclock

/-- A store of integers. -/
def integers : Coding ℤ where
  dumps := toString
  decode := Redis.digits
  same n m := n == m
  int := id
  toInt := some
  dumps_int _ := rfl
  decode_int := digits_toString
  toInt_int _ := rfl

/-- A counter in a window of a minute. -/
theorem counter_alike :
    Along (Stores.next integers) (Stores.StayAlike integers) {}
      [(0, .incr "k" (some 60)), (1, .incr "k" (some 60)), (2, .ttl "k")] := by
  refine (fallback_refines integers _ (by simp)).mpr ?_
  rw [along_cons, along_cons, along_cons]
  refine ⟨?_, ?_, ?_, along_nil _ _ _⟩
  · intro entry hentry
    cases hentry
  · intro entry hentry
    have hlive : Entries.live (Stores.next integers {} (0, .incr "k" (some 60))).memory 1 "k" =
        some ⟨1, some 60⟩ := by decide +kernel
    obtain rfl := Option.some.inj (hentry.symm.trans hlive)
    exact ⟨⟨1, by decide, by decide, rfl⟩, .inr (by simp)⟩
  · intro entry hentry expiresAt hat
    have hlive : Entries.live (Stores.next integers
        (Stores.next integers {} (0, .incr "k" (some 60))) (1, .incr "k" (some 60))).memory 2 "k" =
          some ⟨2, some 60⟩ := by decide +kernel
    obtain rfl := Option.some.inj (hentry.symm.trans hlive)
    obtain rfl := Option.some.inj hat
    decide +kernel

/-- An expired key that was not purged is given a new expiry and deleted, a key with half a second
left is reported absent, and a counter without a window never gets one. -/
theorem fallback_drifts :
    ¬ Along (Stores.next integers) (Stores.RepliesAgree integers) {}
        [(0, .set "k" 5 (some 1)), (2, .expire "k" 60)] ∧
    ¬ Along (Stores.next integers) (Stores.RepliesAgree integers) {}
        [(0, .set "k" 5 (some 1)), (2, .delete "k")] ∧
    ¬ Along (Stores.next integers) (Stores.RepliesAgree integers) {}
        [(0, .set "k" 5 (some 5)), (9 / 2, .ttl "k")] ∧
    ¬ Along (Stores.next integers) (Stores.RepliesAgree integers) {}
        [(0, .incr "k" none), (1, .incr "k" (some 60)), (2, .ttl "k")] := by
  refine ⟨fun h => ?_, fun h => ?_, fun h => ?_, fun h => ?_⟩
  · have hlast := h [_] _ [] rfl
    revert hlast
    decide +kernel
  · have hlast := h [_] _ [] rfl
    revert hlast
    decide +kernel
  · have hlast := h [_] _ [] rfl
    revert hlast
    decide +kernel
  · have hlast := h [_, _] _ [] rfl
    revert hlast
    decide +kernel

end Afcon360.Auth.Fallback
