import Afcon360.Auth.OtpService

/-!
# A code is used once

Whatever lies in the store under the key of an identifier and a purpose is the hash of the
code that lies there by the log. A consumption succeeds only on the hash that the
verification has compared, so the code it used is the one that lies there, and it takes it
away. The counts follow from the log.
-/

namespace Afcon360.Auth

open Foundation

variable {mode : StoreMode} {hash : String → String} {entries after : Entries}
  {log : List OtpEvent} {identifier purpose otp : String} {now later : ℚ} {fault : Fault}
  {call call' : OtpCall} {events : List OtpEvent}

/-- A code is usable while its expiry is ahead. -/
def Unexpired (now : ℚ) (expiry : Option ℚ) : Prop := ∃ time, expiry = some time ∧ now < time

/-- What lies in the store is what lies there by the log. -/
def Held (mode : StoreMode) (hash : String → String) (entries : Entries) (log : List OtpEvent) :
    Prop :=
  ∀ identifier purpose, ':' ∉ purpose.toList → ∀ entry,
    entries (cacheKey identifier purpose) = some entry → ∃ code time,
      current (identifier, purpose) log = some (code, some time) ∧
        entry = ⟨mode.stored (hash code), some time⟩

theorem Held.subsumed (h : Held mode hash entries log) (hsub : Subsumed entries after) :
    Held mode hash after log :=
  fun identifier purpose hpurpose entry hentry =>
    h identifier purpose hpurpose entry (hsub _ entry hentry)

/-- The key of another identifier or purpose. -/
theorem cacheKey_ne {identifier' purpose' : String} (hp : ':' ∉ purpose.toList)
    (hq : ':' ∉ purpose'.toList) (h : (identifier, purpose) ≠ (identifier', purpose')) :
    cacheKey identifier' purpose' ≠ cacheKey identifier purpose :=
  fun heq => h (cacheKey_injective hp hq heq.symm)

/-- An event at a place whose entry is what the event leaves there. -/
theorem Held.cons {event : OtpEvent} (h : Held mode hash entries log)
    (hpurpose : ':' ∉ purpose.toList) (hplace : event.place = (identifier, purpose))
    (hother : ∀ key, key ≠ cacheKey identifier purpose → ∀ entry, after key = some entry →
      entries key = some entry)
    (hself : ∀ entry, after (cacheKey identifier purpose) = some entry → ∃ code time,
      event.leaves = some (code, some time) ∧ entry = ⟨mode.stored (hash code), some time⟩) :
    Held mode hash after (event :: log) := by
  intro identifier' purpose' hpurpose' entry hentry
  by_cases hsame : (identifier, purpose) = (identifier', purpose')
  · cases hsame
    rw [current_cons hplace]
    exact hself entry hentry
  · have hne : event.place ≠ (identifier', purpose') := fun heq => hsame (hplace.symm.trans heq)
    rw [current_cons_of_ne hne]
    exact h identifier' purpose' hpurpose' entry
      (hother _ (cacheKey_ne hpurpose hpurpose' hsame) entry hentry)

/-- What a call in progress relies on. -/
def OtpCall.Proper (hash : String → String) : OtpCall → Prop
  | .storing _ _ purpose ttl => ':' ∉ purpose.toList ∧ 0 < ttl
  | .getting _ _ purpose => ':' ∉ purpose.toList
  | .consuming _ otp purpose storedHash => ':' ∉ purpose.toList ∧ storedHash = hash otp
  | .deleting _ purpose => ':' ∉ purpose.toList
  | _ => True

/-- With a positive time to live, a store that takes effect sets an expiry. -/
theorem storeEffect_isSome {ttl : ℕ} {expiry : Option ℚ} (httl : 0 < ttl)
    (h : storeEffect mode fault now later ttl = some expiry) : ∃ time, expiry = some time := by
  have hne : ttl ≠ 0 := httl.ne'
  cases mode with
  | memory =>
    cases h
    exact ⟨later + ttl, if_neg hne⟩
  | redisRequired =>
    cases fault with
    | before => cases h
    | none => exact ⟨now + ttl, (Option.some.inj ((if_neg hne).symm.trans h)).symm⟩
    | after => exact ⟨now + ttl, (Option.some.inj ((if_neg hne).symm.trans h)).symm⟩

/-- One command keeps the store in step with a sound log. -/
theorem held_advance (hinj : Function.Injective hash) (hheld : Held mode hash entries log)
    (hsound : Sound Unexpired log) (hproper : call.Proper hash)
    (h : call.advance mode hash fault now later entries = some (after, call', events)) :
    Held mode hash after (events ++ log) ∧ Sound Unexpired (events ++ log) ∧
      call'.Proper hash := by
  cases call with
  | storing identifier otp purpose ttl =>
    obtain ⟨⟨left, success⟩, hset, heq⟩ := Option.map_eq_some_iff.mp h
    simp only [Prod.mk.injEq] at heq
    obtain ⟨rfl, rfl, rfl⟩ := heq
    cases heffect : storeEffect mode fault now later ttl with
    | none =>
      obtain ⟨rfl, -⟩ := storeSet_of_no_effect hset heffect
      exact ⟨hheld, hsound, trivial⟩
    | some expiry =>
      obtain ⟨hkey, hother⟩ := storeSet_of_effect hset heffect
      obtain ⟨time, rfl⟩ := storeEffect_isSome hproper.2 heffect
      refine ⟨hheld.cons hproper.1 rfl hother ?_, hsound, trivial⟩
      intro entry hentry
      exact ⟨otp, time, rfl, (Option.some.inj (hkey.symm.trans hentry)).symm⟩
  | getting identifier otp purpose =>
    obtain ⟨⟨left, found⟩, hget, heq⟩ := Option.map_eq_some_iff.mp h
    simp only [Prod.mk.injEq] at heq
    obtain ⟨rfl, rfl, rfl⟩ := heq
    refine ⟨hheld.subsumed (storeGet_subsumed hget), hsound, ?_⟩
    unfold OtpCall.compare
    split
    · trivial
    split
    · trivial
    split
    · exact ⟨hproper, Eq.symm ‹_›⟩
    · trivial
  | consuming identifier otp purpose storedHash =>
    obtain ⟨⟨left, success⟩, hconsume, heq⟩ := Option.map_eq_some_iff.mp h
    simp only [Prod.mk.injEq] at heq
    obtain ⟨rfl, rfl, rfl⟩ := heq
    obtain ⟨hsub, hconsumed⟩ := storeCompareAndDelete_spec hconsume
    obtain ⟨hpurpose, rfl⟩ := hproper
    by_cases hsuccess : success = true
    · obtain ⟨⟨entry, hentry, halive, hvalue⟩, hgone⟩ := hconsumed hsuccess
      obtain ⟨code, time, hcurrent, rfl⟩ := hheld identifier purpose hpurpose entry hentry
      obtain rfl : code = otp := hinj (stored_injective mode hvalue)
      rw [if_pos hsuccess]
      refine ⟨hheld.cons hpurpose rfl (fun key _ => hsub key) ?_,
        ⟨⟨some time, hcurrent, time, rfl, ?_⟩, hsound⟩, trivial⟩
      · intro other hother
        rw [hgone] at hother
        cases hother
      · simpa [StoredValue.expired] using halive
    · rw [if_neg hsuccess]
      exact ⟨hheld.subsumed hsub, hsound, trivial⟩
  | deleting identifier purpose =>
    obtain ⟨⟨left, success⟩, hdelete, heq⟩ := Option.map_eq_some_iff.mp h
    simp only [Prod.mk.injEq] at heq
    obtain ⟨rfl, rfl, rfl⟩ := heq
    obtain ⟨hsub, hgone⟩ := storeDelete_spec hdelete
    by_cases hsuccess : success = true
    · rw [if_pos hsuccess]
      refine ⟨hheld.cons hproper rfl (fun key _ => hsub key) ?_, hsound, trivial⟩
      intro other hother
      rw [hgone hsuccess] at hother
      cases hother
    · rw [if_neg hsuccess]
      exact ⟨hheld.subsumed hsub, hsound, trivial⟩
  | raised error => cases h
  | stored identifier otp purpose success => cases h
  | verified identifier otp purpose success message => cases h
  | invalidated identifier purpose success => cases h

/-! ## Counting calls -/

/-- A verification of the code has succeeded. -/
def OtpCall.succeeded (identifier purpose otp : String) : OtpCall → Bool
  | .verified identifier' otp' purpose' success _ =>
    success && identifier' = identifier && purpose' = purpose && otp' = otp
  | _ => false

/-- A store of the code has ended. -/
def OtpCall.storedCode (identifier purpose otp : String) : OtpCall → Bool
  | .stored identifier' otp' purpose' _ =>
    identifier' = identifier && purpose' = purpose && otp' = otp
  | _ => false

/-- A store of the code has reported success. -/
def OtpCall.reportedStored (identifier purpose otp : String) : OtpCall → Bool
  | .stored identifier' otp' purpose' success =>
    success && identifier' = identifier && purpose' = purpose && otp' = otp
  | _ => false

/-- An invalidation has reported success. -/
def OtpCall.reportedInvalidated (identifier purpose : String) : OtpCall → Bool
  | .invalidated identifier' purpose' success =>
    success && identifier' = identifier && purpose' = purpose
  | _ => false

/-- The log tells what the calls have reported. -/
structure Recorded (calls : List OtpCall) (log : List OtpEvent) (identifier purpose otp : String) :
    Prop where
  used : calls.countP (OtpCall.succeeded identifier purpose otp) =
    log.countP (CodeEvent.isUsed (identifier, purpose) otp)
  stored : log.countP (CodeEvent.isStored (identifier, purpose) otp) ≤
    calls.countP (OtpCall.storedCode identifier purpose otp)
  reported : calls.countP (OtpCall.reportedStored identifier purpose otp) ≤
    log.countP (CodeEvent.isStored (identifier, purpose) otp)
  withdrawn : calls.countP (OtpCall.reportedInvalidated identifier purpose) =
    log.countP (CodeEvent.isWithdrawn (identifier, purpose))

/-- A call in progress has reported nothing. -/
theorem open_of_advance
    (h : call.advance mode hash fault now later entries = some (after, call', events))
    (identifier purpose otp : String) :
    call.succeeded identifier purpose otp = false ∧ call.storedCode identifier purpose otp = false ∧
      call.reportedStored identifier purpose otp = false ∧
      call.reportedInvalidated identifier purpose = false := by
  cases call with
  | storing _ _ _ _ => exact ⟨rfl, rfl, rfl, rfl⟩
  | getting _ _ _ => exact ⟨rfl, rfl, rfl, rfl⟩
  | consuming _ _ _ _ => exact ⟨rfl, rfl, rfl, rfl⟩
  | deleting _ _ => exact ⟨rfl, rfl, rfl, rfl⟩
  | raised _ => cases h
  | stored _ _ _ _ => cases h
  | verified _ _ _ _ _ => cases h
  | invalidated _ _ _ => cases h

theorem recorded_begin (request : OtpRequest) (identifier purpose otp : String) :
    Recorded [.begin request] [] identifier purpose otp := by
  cases request with
  | storeOtp _ _ _ _ =>
    simp only [OtpCall.begin]
    split <;> exact ⟨rfl, by simp, by simp [OtpCall.reportedStored], rfl⟩
  | verifyOtp _ _ _ =>
    simp only [OtpCall.begin]
    split <;> exact ⟨by simp [OtpCall.succeeded], by simp, by simp [OtpCall.reportedStored], rfl⟩
  | invalidateOtp _ _ =>
    simp only [OtpCall.begin]
    split <;> exact ⟨rfl, by simp, by simp [OtpCall.reportedStored],
      by simp [OtpCall.reportedInvalidated]⟩

/-- What a command reports is what it logs. -/
theorem recorded_advance
    (h : call.advance mode hash fault now later entries = some (after, call', events))
    (identifier purpose otp : String) : Recorded [call'] events identifier purpose otp := by
  cases call with
  | storing identifier' otp' purpose' ttl =>
    obtain ⟨⟨left, success⟩, hset, heq⟩ := Option.map_eq_some_iff.mp h
    simp only [Prod.mk.injEq] at heq
    obtain ⟨rfl, rfl, rfl⟩ := heq
    cases heffect : storeEffect mode fault now later ttl with
    | none =>
      obtain ⟨-, rfl⟩ := storeSet_of_no_effect hset heffect
      exact ⟨rfl, by simp, by simp [OtpCall.reportedStored], rfl⟩
    | some expiry =>
      refine ⟨rfl, ?_, ?_, rfl⟩
      · simp only [List.countP_singleton, CodeEvent.isStored, OtpCall.storedCode]
        by_cases hsame : (identifier', purpose') = (identifier, purpose) ∧ otp' = otp
        · simp_all
        · simp
      · simp only [List.countP_singleton, CodeEvent.isStored, OtpCall.reportedStored]
        by_cases hsame : (identifier', purpose') = (identifier, purpose) ∧ otp' = otp
        · simp only [hsame, and_self, decide_true, if_true]
          split <;> simp
        · have hnot : (success && decide (identifier' = identifier) &&
              decide (purpose' = purpose) && decide (otp' = otp)) = false := by
            simp_all
          simp [hnot]
  | getting identifier' otp' purpose' =>
    obtain ⟨⟨left, found⟩, -, heq⟩ := Option.map_eq_some_iff.mp h
    simp only [Prod.mk.injEq] at heq
    obtain ⟨rfl, rfl, rfl⟩ := heq
    unfold OtpCall.compare
    split
    · exact ⟨by simp [OtpCall.succeeded], by simp, by simp [OtpCall.reportedStored], rfl⟩
    split
    · exact ⟨by simp [OtpCall.succeeded], by simp, by simp [OtpCall.reportedStored], rfl⟩
    split
    · exact ⟨rfl, by simp, by simp [OtpCall.reportedStored], rfl⟩
    · exact ⟨by simp [OtpCall.succeeded], by simp, by simp [OtpCall.reportedStored], rfl⟩
  | consuming identifier' otp' purpose' storedHash =>
    obtain ⟨⟨left, success⟩, -, heq⟩ := Option.map_eq_some_iff.mp h
    simp only [Prod.mk.injEq] at heq
    obtain ⟨rfl, rfl, rfl⟩ := heq
    cases success with
    | false =>
      exact ⟨by simp [OtpCall.consumed, OtpCall.succeeded], by simp,
        by simp [OtpCall.consumed, OtpCall.reportedStored], rfl⟩
    | true =>
      refine ⟨?_, by simp [CodeEvent.isStored], by simp [OtpCall.consumed, OtpCall.reportedStored],
        rfl⟩
      simp [OtpCall.consumed, OtpCall.succeeded, CodeEvent.isUsed]
  | deleting identifier' purpose' =>
    obtain ⟨⟨left, success⟩, -, heq⟩ := Option.map_eq_some_iff.mp h
    simp only [Prod.mk.injEq] at heq
    obtain ⟨rfl, rfl, rfl⟩ := heq
    cases success with
    | false =>
      exact ⟨rfl, by simp, by simp [OtpCall.reportedStored],
        by simp [OtpCall.reportedInvalidated]⟩
    | true =>
      refine ⟨rfl, by simp [CodeEvent.isStored], by simp [OtpCall.reportedStored], ?_⟩
      simp [OtpCall.reportedInvalidated, CodeEvent.isWithdrawn]
  | raised _ => cases h
  | stored _ _ _ _ => cases h
  | verified _ _ _ _ _ => cases h
  | invalidated _ _ _ => cases h

theorem Recorded.append {calls more : List OtpCall} (h : Recorded calls log identifier purpose otp)
    (hmore : Recorded more events identifier purpose otp) :
    Recorded (calls ++ more) (events ++ log) identifier purpose otp := by
  constructor
  · rw [List.countP_append, List.countP_append, h.used, hmore.used]
    omega
  · have hfirst := h.stored
    have hsecond := hmore.stored
    rw [List.countP_append, List.countP_append]
    omega
  · have hfirst := h.reported
    have hsecond := hmore.reported
    rw [List.countP_append, List.countP_append]
    omega
  · rw [List.countP_append, List.countP_append, h.withdrawn, hmore.withdrawn]
    omega

theorem countP_set_of_not {calls : List OtpCall} {place : ℕ} {p : OtpCall → Bool}
    (hcall : calls[place]? = some call) (hnot : p call = false) :
    (calls.set place call').countP p = (calls ++ [call']).countP p := by
  obtain ⟨hlt, rfl⟩ := List.getElem?_eq_some_iff.mp hcall
  rw [List.countP_set hlt, List.countP_append, List.countP_singleton, hnot]
  simp

theorem Recorded.set {calls : List OtpCall} {place : ℕ}
    (h : Recorded calls log identifier purpose otp)
    (hcall : calls[place]? = some call)
    (hadvance : call.advance mode hash fault now later entries = some (after, call', events)) :
    Recorded (calls.set place call') (events ++ log) identifier purpose otp := by
  obtain ⟨hused, hstored, hreported, hwithdrawn⟩ := open_of_advance hadvance identifier purpose otp
  have happend := h.append (recorded_advance hadvance identifier purpose otp)
  constructor
  · rw [countP_set_of_not hcall hused]
    exact happend.used
  · rw [countP_set_of_not hcall hstored]
    exact happend.stored
  · rw [countP_set_of_not hcall hreported]
    exact happend.reported
  · rw [countP_set_of_not hcall hwithdrawn]
    exact happend.withdrawn

/-! ## Runs -/

namespace OtpSystem

variable {s t : OtpSystem} {acts : List OtpAct}

structure Kept (mode : StoreMode) (hash : String → String) (s : OtpSystem) : Prop where
  held : Held mode hash s.entries s.log
  sound : Sound Unexpired s.log
  proper : ∀ call ∈ s.calls, call.Proper hash
  recorded : ∀ identifier purpose otp, Recorded s.calls s.log identifier purpose otp

theorem proper_begin {request : OtpRequest} (h : s.Called (.start request)) :
    (OtpCall.begin request).Proper hash := by
  cases request with
  | storeOtp identifier otp purpose ttl =>
    simp only [OtpCall.begin]
    split
    · trivial
    · exact h
  | verifyOtp identifier otp purpose =>
    simp only [OtpCall.begin]
    split
    · trivial
    · exact h
  | invalidateOtp identifier purpose =>
    simp only [OtpCall.begin]
    split
    · trivial
    · exact h

theorem kept_step {a : OtpAct} (hinj : Function.Injective hash) (h : s.Kept mode hash)
    (hguard : s.Called a) (hstep : s.next mode hash a = some t) : t.Kept mode hash := by
  cases a with
  | start request =>
    cases hstep
    refine ⟨h.held, h.sound, ?_, ?_⟩
    · intro call hcall
      obtain hold | hnew := List.mem_append.mp hcall
      · exact h.proper call hold
      · rw [List.mem_singleton.mp hnew]
        exact proper_begin hguard
    · intro identifier purpose otp
      exact (h.recorded identifier purpose otp).append
        (recorded_begin request identifier purpose otp)
  | command place fault now later =>
    obtain ⟨call, hcall, hmap⟩ := Option.bind_eq_some_iff.mp hstep
    obtain ⟨⟨after, call', events⟩, hadvance, rfl⟩ := Option.map_eq_some_iff.mp hmap
    obtain ⟨hheld, hsound, hproper⟩ := held_advance hinj h.held h.sound
      (h.proper call (List.mem_of_getElem? hcall)) hadvance
    refine ⟨hheld, hsound, ?_, fun identifier purpose otp =>
      (h.recorded identifier purpose otp).set hcall hadvance⟩
    intro other hother
    obtain hold | rfl := List.mem_or_eq_of_mem_set hother
    · exact h.proper other hold
    · exact hproper
  | expire key now =>
    simp only [next] at hstep
    split at hstep
    · cases hstep
      exact ⟨h.held.subsumed subsumed_expire, h.sound, h.proper, h.recorded⟩
    · cases hstep

theorem kept_empty : empty.Kept mode hash := by
  refine ⟨?_, trivial, ?_, ?_⟩
  · intro identifier purpose _ entry hentry
    cases hentry
  · intro call hcall
    cases hcall
  · intro identifier purpose otp
    exact ⟨rfl, le_refl _, le_refl _, rfl⟩

/-- A code is verified for an identifier and a purpose at most as often as it was stored for
them. Each success goes back to a store of that code, not expired, with no later store, use
or reported invalidation for them. -/
theorem one_time_codes (hinj : Function.Injective hash)
    (run : Run (Guarded Called (Step mode hash)) empty acts s) (identifier purpose otp : String) :
    s.calls.countP (OtpCall.succeeded identifier purpose otp) ≤
        s.calls.countP (OtpCall.storedCode identifier purpose otp) ∧
      Recorded s.calls s.log identifier purpose otp ∧
      ∀ later now earlier, s.log = later ++ .used (identifier, purpose) otp now :: earlier →
        ∃ expiry between rest,
          earlier = between ++ .stored (identifier, purpose) otp (some expiry) :: rest ∧
            now < expiry ∧ ∀ event ∈ between, event.place ≠ (identifier, purpose) := by
  have hkept : s.Kept mode hash := run.invariant (Kept mode hash)
    (fun _ _ _ h hstep => kept_step hinj h hstep.1 hstep.2) kept_empty
  have hrecorded := hkept.recorded identifier purpose otp
  refine ⟨?_, hrecorded, ?_⟩
  · have hlog := hkept.sound.used_le_stored (identifier, purpose) otp
    have hstored := hrecorded.stored
    rw [hrecorded.used]
    omega
  · intro later now earlier hsplit
    have hsound := hkept.sound
    rw [hsplit] at hsound
    obtain ⟨expiry, between, rest, hstore, ⟨time, rfl, hlt⟩, hbetween⟩ := hsound.used
    exact ⟨time, between, rest, hstore, hlt, hbetween⟩

/-- A code is stored, and verified twice at the same time. -/
def verifiedTwice : List OtpAct :=
  [.start (.storeOtp "user:7" "123456" "2fa_login" 300), .command 0 .none 0 0,
    .start (.verifyOtp "user:7" "123456" "2fa_login"), .command 1 .none 1 1,
    .start (.verifyOtp "user:7" "123456" "2fa_login"), .command 2 .none 2 2,
    .command 1 .none 3 3, .command 2 .none 4 4]

/-- The second verification finds the code used. -/
theorem one_time_codes_twice :
    ∃ s, Run (Guarded Called (Step .redisRequired ("digest of " ++ ·))) empty verifiedTwice s ∧
      s.calls.map (OtpCall.succeeded "user:7" "2fa_login" "123456") = [false, true, false] ∧
      s.calls.countP (OtpCall.succeeded "user:7" "2fa_login" "123456") ≤
        s.calls.countP (OtpCall.storedCode "user:7" "2fa_login" "123456") := by
  have hdone : (exec (fun s a => if a ∈ verifiedTwice then
      s.next .redisRequired ("digest of " ++ ·) a else none) empty verifiedTwice).any
      (fun s => s.calls.map (OtpCall.succeeded "user:7" "2fa_login" "123456") =
        [false, true, false]) = true := by
    decide +kernel
  obtain ⟨s, hexec, hcalls⟩ := (Option.any_eq_true _ _).mp hdone
  have hrun : Run (Guarded Called (Step .redisRequired ("digest of " ++ ·))) empty verifiedTwice
      s := by
    refine Run.of_exec (fun s a t h => ?_) hexec
    obtain ⟨hmem, hstep⟩ := Option.ite_none_right_eq_some.mp h
    refine ⟨?_, hstep⟩
    simp only [verifiedTwice, List.mem_cons, List.not_mem_nil, or_false] at hmem
    obtain rfl | rfl | rfl | rfl | rfl | rfl | rfl | rfl := hmem
    all_goals simp only [Called]
    all_goals decide
  have hinj : Function.Injective (fun otp : String => "digest of " ++ otp) := by
    intro a b h
    have hlist := congrArg String.toList h
    simp only [String.toList_append] at hlist
    exact String.toList_injective (List.append_cancel_left hlist)
  exact ⟨s, hrun, of_decide_eq_true hcalls,
    (one_time_codes hinj hrun "user:7" "2fa_login" "123456").1⟩

end OtpSystem

end Afcon360.Auth
