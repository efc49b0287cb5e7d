import Afcon360.Foundation.OneTime
import Afcon360.Foundation.Run
import Afcon360.Auth.OtpStore

/-!
# One-time codes

`OTPService` stores the keyed hash of a code under the identifier and the purpose it is for.
A verification reads the hash, compares, and then consumes exactly the hash it has read.
Each command of the store is a step, and calls take turns between them.

The log records the store of a code when the command takes effect, whatever it reports, and
the uses and withdrawals that are reported.
-/

namespace Afcon360.Auth

open Foundation

inductive OtpRequest
  | storeOtp (identifier otp purpose : String) (ttl : ℕ)
  | verifyOtp (identifier otp purpose : String)
  | invalidateOtp (identifier purpose : String)
deriving DecidableEq, Repr

/-- A call by the command it issues next, or by its result. -/
inductive OtpCall
  | storing (identifier otp purpose : String) (ttl : ℕ)
  | getting (identifier otp purpose : String)
  | consuming (identifier otp purpose storedHash : String)
  | deleting (identifier purpose : String)
  | raised (error : String)
  | stored (identifier otp purpose : String) (success : Bool)
  | verified (identifier otp purpose : String) (success : Bool) (message : String)
  | invalidated (identifier purpose : String) (success : Bool)
deriving DecidableEq, Repr

/-- A code is for an identifier and a purpose. -/
abbrev OtpEvent := CodeEvent (String × String) String (Option ℚ) ℚ

/-- `otp:{identifier}:{purpose}` -/
def cacheKey (identifier purpose : String) : String := "otp:" ++ identifier ++ ":" ++ purpose

namespace OtpCall

def begin : OtpRequest → OtpCall
  | .storeOtp identifier otp purpose ttl =>
    if identifier = "" ∨ otp = "" ∨ purpose = "" then
      .raised "identifier, otp, and purpose are required"
    else .storing identifier otp purpose ttl
  | .verifyOtp identifier otp purpose =>
    if identifier = "" ∨ otp = "" ∨ purpose = "" then
      .verified identifier otp purpose false "Missing required parameters"
    else .getting identifier otp purpose
  | .invalidateOtp identifier purpose =>
    if identifier = "" ∨ purpose = "" then .invalidated identifier purpose false
    else .deleting identifier purpose

/-- `verify_otp` when it has read the store; `hash` is the keyed hash. -/
def compare (hash : String → String) (identifier otp purpose : String) :
    Option String → OtpCall
  | none => .verified identifier otp purpose false "OTP not found or expired"
  | some storedHash =>
    if storedHash = "" then .verified identifier otp purpose false "OTP not found or expired"
    else if hash otp = storedHash then .consuming identifier otp purpose storedHash
    else .verified identifier otp purpose false "Invalid OTP"

/-- `verify_otp` when it has tried to consume what it read. -/
def consumed (identifier otp purpose : String) (success : Bool) : OtpCall :=
  .verified identifier otp purpose success
    (if success then "OTP verified successfully" else "OTP has already been used or replaced")

end OtpCall

structure OtpSystem where
  entries : Entries
  calls : List OtpCall
  /-- The latest event first. -/
  log : List OtpEvent

inductive OtpAct
  | start (request : OtpRequest)
  | command (place : ℕ) (fault : Fault) (now later : ℚ)
  | expire (key : String) (now : ℚ)
deriving DecidableEq, Repr

/-- What one command of a call does: the entries it leaves, the call, and what it logs. -/
def OtpCall.advance (mode : StoreMode) (hash : String → String) (fault : Fault) (now later : ℚ)
    (entries : Entries) : OtpCall → Option (Entries × OtpCall × List OtpEvent)
  | .storing identifier otp purpose ttl =>
    (storeSet mode fault entries now later (cacheKey identifier purpose) (hash otp) ttl).map
      fun (after, success) => (after, .stored identifier otp purpose success,
        match storeEffect mode fault now later ttl with
        | none => []
        | some expiry => [.stored (identifier, purpose) otp expiry])
  | .getting identifier otp purpose =>
    (storeGet mode fault entries now (cacheKey identifier purpose)).map
      fun (after, storedHash) => (after, .compare hash identifier otp purpose storedHash, [])
  | .consuming identifier otp purpose storedHash =>
    (storeCompareAndDelete mode fault entries now (cacheKey identifier purpose) storedHash).map
      fun (after, success) => (after, .consumed identifier otp purpose success,
        if success then [.used (identifier, purpose) otp now] else [])
  | .deleting identifier purpose =>
    (storeDelete mode fault entries now (cacheKey identifier purpose)).map
      fun (after, success) => (after, .invalidated identifier purpose success,
        if success then [.withdrawn (identifier, purpose)] else [])
  | _ => none

namespace OtpSystem

def empty : OtpSystem := ⟨fun _ => none, [], []⟩

def next (mode : StoreMode) (hash : String → String) (s : OtpSystem) : OtpAct → Option OtpSystem
  | .start request => some { s with calls := s.calls ++ [.begin request] }
  | .command place fault now later =>
    s.calls[place]?.bind fun call =>
      (call.advance mode hash fault now later s.entries).map fun (after, call', events) =>
        ⟨after, s.calls.set place call', events ++ s.log⟩
  | .expire key now =>
    if mode = .redisRequired then some { s with entries := Redis.expire s.entries now key }
    else none

def Step (mode : StoreMode) (hash : String → String) (s : OtpSystem) (a : OtpAct)
    (t : OtpSystem) : Prop :=
  s.next mode hash a = some t

/-- What the callers promise: a purpose without the separator of the key, and a positive time
to live. -/
def Called (_ : OtpSystem) : OtpAct → Prop
  | .start (.storeOtp _ _ purpose ttl) => ':' ∉ purpose.toList ∧ 0 < ttl
  | .start (.verifyOtp _ _ purpose) => ':' ∉ purpose.toList
  | .start (.invalidateOtp _ purpose) => ':' ∉ purpose.toList
  | _ => True

end OtpSystem

/-! ## Keys -/

/-- The text after the last separator is the purpose. -/
theorem split_last {a b p q : List Char} (hp : ':' ∉ p) (hq : ':' ∉ q)
    (h : a ++ ':' :: p = b ++ ':' :: q) : a = b ∧ p = q := by
  induction a generalizing b with
  | nil =>
    cases b with
    | nil => exact ⟨rfl, (List.cons.inj h).2⟩
    | cons head rest =>
      refine absurd ?_ hp
      rw [(List.cons.inj h).2]
      exact List.mem_append_right _ List.mem_cons_self
  | cons first a ih =>
    cases b with
    | nil =>
      refine absurd ?_ hq
      rw [← (List.cons.inj h).2]
      exact List.mem_append_right _ List.mem_cons_self
    | cons head rest =>
      obtain ⟨rfl, htail⟩ := List.cons.inj h
      obtain ⟨rfl, rfl⟩ := ih htail
      exact ⟨rfl, rfl⟩

theorem cacheKey_injective {identifier purpose identifier' purpose' : String}
    (hp : ':' ∉ purpose.toList) (hq : ':' ∉ purpose'.toList)
    (h : cacheKey identifier purpose = cacheKey identifier' purpose') :
    (identifier, purpose) = (identifier', purpose') := by
  have hlist := congrArg String.toList h
  simp only [cacheKey, String.toList_append, List.append_assoc] at hlist
  have hrest := List.append_cancel_left hlist
  obtain ⟨hidentifier, hpurpose⟩ := split_last hp hq hrest
  rw [String.toList_injective hidentifier, String.toList_injective hpurpose]

end Afcon360.Auth
