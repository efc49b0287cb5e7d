import Afcon360.Transport.OfferReferences

/-!
# Runs of the offers

Whatever order the commands come in, the offer of one driver is not touched when another
accepts or declines, and between two acceptances of an offer it was created again. That a
live offer stays referenced needs orderly steps; where every step is, listing shows the
offer and a booking-wide cleanup removes it.
-/

namespace Afcon360.Transport

open Foundation

/-! ## What a command does to one hash -/

namespace OfferStore

variable {s s' : OfferStore} {call call' : OfferCall} {reply : RedisReply} {ref : String}
variable {driver : ℕ}

/-- The change of one offer hash when a call issues a command. -/
inductive HashMove (s s' : OfferStore) (call : OfferCall) (ref : String) (driver : ℕ) : Prop
  | kept (h : s'.offers (ref, driver) = s.offers (ref, driver))
  | deleted (h : s'.offers (ref, driver) = none)
  | expires (hash : OfferHash) (expiry : Option ℤ) (old : s.offers (ref, driver) = some hash)
      (h : s'.offers (ref, driver) = some { hash with expiry := expiry })
  | created (offer : Offer) (ttl : ℤ) (expiry : Option ℤ) (hcall : call = .createHash offer ttl)
      (href : offer.bookingReference = ref) (hdriver : offer.driverId = driver)
      (h : s'.offers (ref, driver) = some ⟨offer, expiry⟩)
  | accepted (offer : Offer) (expiry : Option ℤ) (hcall : call = .accept ref driver)
      (old : s.hgetall ref driver = some offer)
      (h : s'.offers (ref, driver) = some ⟨{ offer with status := .accepted }, expiry⟩)

theorem hashMove_delete (ref' : String) (driver' : ℕ)
    (h : s'.offers = Function.update s.offers (ref', driver') none) :
    HashMove s s' call ref driver := by
  by_cases hkey : (ref, driver) = (ref', driver')
  · exact .deleted (by rw [h, hkey, Function.update_self])
  · exact .kept (by rw [h, Function.update_of_ne hkey])

theorem hashMove_expire (offer : Offer) (ttl : ℤ) :
    HashMove s (s.expire offer.bookingReference offer.driverId ttl) call ref driver := by
  by_cases hkey : (ref, driver) = (offer.bookingReference, offer.driverId)
  · cases hkey
    cases hstored : s.stored offer.bookingReference offer.driverId with
    | none => exact .deleted (by simp [expire, hstored])
    | some hash =>
      exact .expires hash (some (s.now + ttl)) (Option.filter_eq_some_iff.mp hstored).1
        (by simp [expire, hstored])
  · exact .kept (by simp only [expire, Function.update_of_ne hkey])

theorem hashMove_accept (ref' : String) (driver' : ℕ)
    (h : s.advance (.accept ref' driver') .ok = some (s', call')) :
    HashMove s s' (.accept ref' driver') ref driver := by
  rcases acceptScript_cases s ref' driver' with hscript | ⟨offer, hget, -, -, hscript⟩ <;>
    simp only [advance_accept, hscript, Option.some.injEq, Prod.mk.injEq] at h <;>
    obtain ⟨rfl, rfl⟩ := h
  · exact .kept rfl
  · by_cases hkey : (ref, driver) = (ref', driver')
    · cases hkey
      exact .accepted offer _ rfl hget (Function.update_self ..)
    · exact .kept (Function.update_of_ne hkey _ _)

theorem hashMove_decline (ref' : String) (driver' : ℕ)
    (h : s.advance (.decline ref' driver') .ok = some (s', call')) :
    HashMove s s' (.decline ref' driver') ref driver := by
  rcases declineScript_cases s ref' driver' with hscript | hscript <;>
    simp only [advance_decline, hscript, Option.some.injEq, Prod.mk.injEq] at h <;>
    obtain ⟨rfl, rfl⟩ := h
  · exact .kept rfl
  · exact hashMove_delete ref' driver' rfl

theorem advance_hashMove (h : s.advance call reply = some (s', call')) (ref : String)
    (driver : ℕ) : HashMove s s' call ref driver := by
  cases call with
  | createHash offer ttl =>
    cases reply <;> try cases h
    by_cases hkey : (ref, driver) = (offer.bookingReference, offer.driverId)
    · cases hkey
      exact .created offer ttl _ rfl rfl rfl (Function.update_self ..)
    · exact .kept (by simp only [hset, Function.update_of_ne hkey])
  | createExpire offer ttl =>
    cases reply <;> try cases h
    exact hashMove_expire offer ttl
  | accept ref' driver' =>
    cases reply <;> try cases h
    exact hashMove_accept ref' driver' rfl
  | decline ref' driver' =>
    cases reply <;> try cases h
    exact hashMove_decline ref' driver' rfl
  | cleanupHash ref' driver' | cleanupMemberHash ref' driver' rest =>
    cases reply <;> try cases h
    exact hashMove_delete ref' driver' rfl
  | bookingRead =>
    cases reply <;> try cases h
    simp only [advance] at h
    split at h <;> simp only [Option.some.injEq, Prod.mk.injEq] at h <;> obtain ⟨rfl, rfl⟩ := h <;>
      exact .kept rfl
  | listRead =>
    cases reply <;> try cases h
    simp only [advance] at h
    split at h
    · simp only [Option.some.injEq, Prod.mk.injEq] at h
      obtain ⟨rfl, rfl⟩ := h
      exact .kept rfl
    · split at h <;> simp only [Option.some.injEq, Prod.mk.injEq] at h <;>
        obtain ⟨rfl, rfl⟩ := h <;> exact .kept rfl
  | bookingMembers | list | cleanupMembers | sweepDriverScan | sweepIndexScan
  | sweepDriverMembers =>
    cases reply <;> try cases h
    simp only [advance, Option.ite_none_right_eq_some, Option.some.injEq, Prod.mk.injEq] at h
    obtain ⟨-, rfl, rfl⟩ := h
    exact .kept rfl
  | sweepLock chainStart page =>
    cases chainStart <;> cases reply <;> try cases h
    · exact .kept rfl
    · simp only [advance] at h
      split at h <;> simp only [Option.some.injEq, Prod.mk.injEq] at h <;>
        obtain ⟨rfl, rfl⟩ := h <;> exact .kept rfl
  | _ =>
    cases reply <;> cases h <;> exact .kept rfl

/-- A step leaves every hash with the owner of its key. -/
theorem Owned.advance (owned : s.Owned) (h : s.advance call reply = some (s', call')) :
    s'.Owned := by
  intro ref driver hash hhash
  cases advance_hashMove h ref driver with
  | kept hkept => exact owned ref driver hash (hkept ▸ hhash)
  | deleted hdeleted =>
    rw [hdeleted] at hhash
    cases hhash
  | expires hold expiry hold' hnew =>
    rw [hnew] at hhash
    cases hhash
    exact owned ref driver hold hold'
  | created offer ttl expiry _ href hdriver hnew =>
    rw [hnew] at hhash
    cases hhash
    exact ⟨href, hdriver⟩
  | accepted offer expiry _ hget hnew =>
    rw [hnew] at hhash
    cases hhash
    obtain ⟨href, hdriver⟩ := owned.hgetall hget
    exact ⟨href, hdriver⟩

end OfferStore

/-! ## What happened to an offer -/

/-- Since the hash was last written, nobody accepted it. -/
def Fresh (log : List OfferEvent) (ref : String) (driver : ℕ) : Prop :=
  ∃ k, log[k]? = some (.created ref driver) ∧
    ∀ (i : ℕ) (offer : Offer), log[i]? = some (.accepted ref driver offer) → i < k

/-- Between two acceptances of an offer it was created again. -/
def AcceptedOnce (log : List OfferEvent) : Prop :=
  ∀ (ref : String) (driver i j : ℕ) (offer offer' : Offer), i < j →
    log[i]? = some (.accepted ref driver offer) → log[j]? = some (.accepted ref driver offer') →
    ∃ k, i < k ∧ k < j ∧ log[k]? = some (.created ref driver)

/-- Who accepted is the driver the offer was made to. -/
def AcceptedByDriver (log : List OfferEvent) : Prop :=
  ∀ (ref : String) (driver : ℕ) (offer : Offer), .accepted ref driver offer ∈ log →
    offer.bookingReference = ref ∧ offer.driverId = driver ∧ offer.status = .offered

section

variable {log : List OfferEvent} {event : OfferEvent} {ref : String} {driver : ℕ}

theorem getElem?_append_of {k : ℕ} {later : List OfferEvent} (h : log[k]? = some event) :
    (log ++ later)[k]? = some event :=
  (List.getElem?_append_left (List.getElem?_eq_some_iff.mp h).1).trans h

theorem Fresh.created (log : List OfferEvent) (ref : String) (driver : ℕ) :
    Fresh (log ++ [.created ref driver]) ref driver := by
  refine ⟨log.length, by simp, fun i offer hi => ?_⟩
  obtain hold | ⟨-, hnew⟩ := getElem?_append_cases hi
  · exact (List.getElem?_eq_some_iff.mp hold).1
  · cases hnew

/-- Any event but the acceptance of this very offer. -/
theorem Fresh.append (fresh : Fresh log ref driver)
    (hother : ∀ offer, event ≠ .accepted ref driver offer) :
    Fresh (log ++ [event]) ref driver := by
  obtain ⟨k, hk, hlast⟩ := fresh
  refine ⟨k, getElem?_append_of hk, fun i offer hi => ?_⟩
  obtain hold | ⟨-, hnew⟩ := getElem?_append_cases hi
  · exact hlast i offer hold
  · exact absurd hnew.symm (hother offer)

theorem AcceptedOnce.append (once : AcceptedOnce log)
    (fresh : ∀ ref driver offer, event = .accepted ref driver offer → Fresh log ref driver) :
    AcceptedOnce (log ++ [event]) := by
  intro ref driver i j offer offer' hij hi hj
  have hlt : ∀ {k e}, log[k]? = some e → k < log.length := fun h =>
    (List.getElem?_eq_some_iff.mp h).1
  obtain hold | ⟨hjlast, hnew⟩ := getElem?_append_cases hj
  · have hi' : log[i]? = some (.accepted ref driver offer) := by
      rw [List.getElem?_append_left (hij.trans (hlt hold))] at hi
      exact hi
    obtain ⟨k, hik, hkj, hk⟩ := once ref driver i j offer offer' hij hi' hold
    exact ⟨k, hik, hkj, getElem?_append_of hk⟩
  · have hi' : log[i]? = some (.accepted ref driver offer) := by
      rw [List.getElem?_append_left (hjlast ▸ hij)] at hi
      exact hi
    -- the second acceptance found the hash offered, so it was written since the first
    obtain ⟨k, hk, hlast⟩ := fresh ref driver offer' hnew.symm
    exact ⟨k, hlast i offer hi', hjlast ▸ hlt hk, getElem?_append_of hk⟩

theorem AcceptedByDriver.append (byDriver : AcceptedByDriver log)
    (hevent : ∀ ref driver offer, event = .accepted ref driver offer →
      offer.bookingReference = ref ∧ offer.driverId = driver ∧ offer.status = .offered) :
    AcceptedByDriver (log ++ [event]) := by
  intro ref driver offer hmem
  obtain hold | hnew := List.mem_append.mp hmem
  · exact byDriver ref driver offer hold
  · exact hevent ref driver offer (List.mem_singleton.mp hnew).symm

end

namespace OfferStore

variable {s s' : OfferStore} {call call' : OfferCall} {reply : RedisReply}

/-- The events of a command: none, the one of a creation, or the one of an acceptance. -/
theorem events_cases (h : s.advance call reply = some (s', call')) :
    (s.events call = []) ∨
    (∃ offer ttl, call = .createHash offer ttl ∧
      s.events call = [.created offer.bookingReference offer.driverId]) ∨
    (∃ ref driver offer, call = .accept ref driver ∧ s.hgetall ref driver = some offer ∧
      offer.status = .offered ∧ s' = s.withAccepted ref driver offer ∧
      s.events call = [.accepted ref driver offer]) := by
  cases call with
  | createHash offer ttl => exact .inr (.inl ⟨offer, ttl, rfl, rfl⟩)
  | accept ref driver =>
    cases reply <;> try cases h
    obtain hscript | ⟨offer, hget, hstatus, -, hscript⟩ := acceptScript_cases s ref driver
    · exact .inl (by simp [events, hscript])
    · exact .inr (.inr ⟨ref, driver, offer, rfl, hget, hstatus, congrArg Prod.fst hscript,
        by simp [events, hscript, hget]⟩)
  | _ => exact .inl rfl

end OfferStore

namespace OfferSystem

variable {s t : OfferSystem} {defaultTtl : ℤ} {a : OfferAct} {call call' : OfferCall}
variable {reply : RedisReply} {store : OfferStore}

/-- What the log says of the hashes. -/
structure Logged (s : OfferSystem) : Prop where
  owned : s.store.Owned
  fresh : ∀ (ref : String) (driver : ℕ) (hash : OfferHash),
    s.store.offers (ref, driver) = some hash → hash.offer.status = .offered →
      Fresh s.log ref driver
  once : AcceptedOnce s.log
  byDriver : AcceptedByDriver s.log

theorem step_advance {place : ℕ} (h : s.Step defaultTtl (.advance place reply) t) :
    ∃ call store call', s.calls[place]? = some call ∧
      s.store.advance call reply = some (store, call') ∧
      t = ⟨store, s.calls.set place call', s.log ++ s.store.events call⟩ := by
  obtain ⟨call, hcall, hnext⟩ := Option.bind_eq_some_iff.mp h
  obtain ⟨⟨store, call'⟩, hadvance, rfl⟩ := Option.map_eq_some_iff.mp hnext
  exact ⟨call, store, call', hcall, hadvance, rfl⟩

theorem step_fail {place : ℕ} (h : s.Step defaultTtl (.fail place) t) :
    ∃ call call', s.calls[place]? = some call ∧ call.failed = some call' ∧
      t = s.setCall place call' := by
  obtain ⟨call, hcall, hnext⟩ := Option.bind_eq_some_iff.mp h
  obtain ⟨call', hfailed, rfl⟩ := Option.map_eq_some_iff.mp hnext
  exact ⟨call, call', hcall, hfailed, rfl⟩

theorem step_stop {place : ℕ} (h : s.Step defaultTtl (.stop place) t) :
    ∃ call, s.calls[place]? = some call ∧ t = s.setCall place .stopped := by
  obtain ⟨call, hcall, rfl⟩ := Option.map_eq_some_iff.mp h
  exact ⟨call, hcall, rfl⟩

theorem Logged.of_store (logged : s.Logged) (hstore : t.store.offers = s.store.offers)
    (hlog : t.log = s.log) : t.Logged where
  owned ref driver hash h := logged.owned ref driver hash (hstore ▸ h)
  fresh ref driver hash h := by
    rw [hlog]
    exact logged.fresh ref driver hash (hstore ▸ h)
  once := hlog ▸ logged.once
  byDriver := hlog ▸ logged.byDriver

/-- A hash that is offered after a command was written by it, or was offered before. -/
theorem Logged.offered (logged : s.Logged) (h : s.store.advance call reply = some (store, call'))
    {ref : String} {driver : ℕ} {hash : OfferHash} (hhash : store.offers (ref, driver) = some hash)
    (hstatus : hash.offer.status = .offered) :
    Fresh s.log ref driver ∨ ∃ offer ttl, call = .createHash offer ttl ∧
      offer.bookingReference = ref ∧ offer.driverId = driver := by
  cases OfferStore.advance_hashMove h ref driver with
  | kept hkept => exact .inl (logged.fresh ref driver hash (hkept ▸ hhash) hstatus)
  | deleted hdeleted =>
    rw [hdeleted] at hhash
    cases hhash
  | expires old expiry hold hnew =>
    rw [hnew] at hhash
    cases hhash
    exact .inl (logged.fresh ref driver old hold hstatus)
  | created offer ttl expiry hcall href hdriver => exact .inr ⟨offer, ttl, hcall, href, hdriver⟩
  | accepted offer expiry _ _ hnew =>
    rw [hnew] at hhash
    cases hhash
    cases hstatus

theorem Logged.advance (logged : s.Logged)
    (h : s.store.advance call reply = some (store, call')) (calls : List OfferCall) :
    (⟨store, calls, s.log ++ s.store.events call⟩ : OfferSystem).Logged := by
  rcases OfferStore.events_cases h with hnone | ⟨offer, ttl, rfl, hevent⟩ |
    ⟨ref', driver', offer', rfl, hget, hoffered, rfl, hevent⟩
  · rw [hnone, List.append_nil]
    refine ⟨logged.owned.advance h, fun ref driver hash hhash hstatus => ?_, logged.once,
      logged.byDriver⟩
    rcases logged.offered h hhash hstatus with hfresh | ⟨offer, ttl, rfl, -, -⟩
    · exact hfresh
    · cases hnone
  · rw [hevent]
    refine ⟨logged.owned.advance h, fun ref driver hash hhash hstatus => ?_,
      logged.once.append nofun, logged.byDriver.append nofun⟩
    rcases logged.offered h hhash hstatus with hfresh | ⟨_, _, hcall, rfl, rfl⟩
    · exact hfresh.append nofun
    · cases hcall
      exact Fresh.created _ _ _
  · rw [hevent]
    obtain ⟨href, hdriver⟩ := logged.owned.hgetall hget
    refine ⟨logged.owned.advance h, fun ref driver hash hhash hstatus => ?_,
      logged.once.append fun ref driver offer heq => ?_,
      logged.byDriver.append fun ref driver offer heq => ?_⟩
    · rcases logged.offered h hhash hstatus with hfresh | ⟨_, _, hcall, -, -⟩
      · refine hfresh.append fun offer heq => ?_
        -- the accepted hash itself is no longer offered
        cases heq
        have hnew : (s.store.withAccepted ref' driver' offer').offers (ref', driver') = _ :=
          Function.update_self ..
        rw [hnew] at hhash
        cases hhash
        cases hstatus
      · cases hcall
    · cases heq
      obtain ⟨hash, hhash, rfl⟩ := Option.map_eq_some_iff.mp hget
      exact logged.fresh _ _ hash (Option.filter_eq_some_iff.mp hhash).1 hoffered
    · cases heq
      exact ⟨href, hdriver, hoffered⟩

theorem Logged.step (logged : s.Logged) (h : s.Step defaultTtl a t) : t.Logged := by
  cases a with
  | start request =>
    cases h
    exact logged.of_store rfl rfl
  | advance place reply =>
    obtain ⟨call, store, call', -, hadvance, rfl⟩ := step_advance h
    exact logged.advance hadvance _
  | fail place =>
    obtain ⟨call, call', -, -, rfl⟩ := step_fail h
    exact logged.of_store rfl rfl
  | stop place =>
    obtain ⟨call, -, rfl⟩ := step_stop h
    exact logged.of_store rfl rfl
  | tick seconds =>
    cases h
    exact logged.of_store rfl rfl

/-- Accepting or declining leaves the offers of other drivers alone. -/
theorem offers_of_other {driver : ℕ}
    (hcall : (∃ ref, call = .accept ref driver) ∨ ∃ ref, call = .decline ref driver)
    (h : s.store.advance call reply = some (store, call')) (ref : String) {other : ℕ}
    (hne : other ≠ driver) : store.offers (ref, other) = s.store.offers (ref, other) := by
  rcases hcall with ⟨ref', rfl⟩ | ⟨ref', rfl⟩ <;> cases reply <;> try cases h
  · have hkey : (ref, other) ≠ (ref', driver) := fun heq => hne (Prod.mk.inj heq).2
    obtain hscript | ⟨offer, -, -, -, hscript⟩ := OfferStore.acceptScript_cases s.store ref' driver
    · exact congrArg (fun result => result.1.offers (ref, other)) hscript
    · exact (congrArg (fun result => result.1.offers (ref, other)) hscript).trans
        (Function.update_of_ne hkey ..)
  · have hkey : (ref, other) ≠ (ref', driver) := fun heq => hne (Prod.mk.inj heq).2
    obtain hscript | hscript := OfferStore.declineScript_cases s.store ref' driver
    · exact congrArg (fun result => result.1.offers (ref, other)) hscript
    · exact (congrArg (fun result => result.1.offers (ref, other)) hscript).trans
        (Function.update_of_ne hkey ..)

end OfferSystem

/-! ## Orderly steps -/

namespace OfferStore

/-- What a failed read is taken for is true: the offer is gone, or the booking has none. -/
def readsTruly (s : OfferStore) : OfferCall → Bool
  | .listRead driver ref _ _ _ | .sweepDriverRead _ driver ref _ _ _ => !s.live ref driver
  | .cleanupMembers ref => s.answersRight ref false
  | .bookingLegacy ref (.sweeping _ _) => s.answersRight ref false
  | _ => true

theorem live_false_of_answersRight {s : OfferStore} {ref : String} {driver : ℕ}
    (h : s.answersRight ref false = true) (hmem : driver ∈ s.index ref) :
    s.live ref driver = false := by
  simp only [answersRight, Bool.false_or, decide_eq_true_eq] at h
  exact h driver hmem

/-- A reference that a failed read marks as stale is not that of a live offer. -/
theorem not_stale_of_readsTruly {s : OfferStore} {ref ref' : String} {driver d : ℕ}
    {stale : List String} (hgone : (!s.live ref' d) = true) (hlive : s.live ref driver = true)
    (hd : d = driver) (hmem : ref ∈ stale ++ [ref']) : ref ∈ stale := by
  obtain hold | hnew := List.mem_append.mp hmem
  · exact hold
  · rw [← List.mem_singleton.mp hnew, hd, hlive] at hgone
    cases hgone

open OfferCall in
/-- What a command that raises does to one offer and its references. -/
theorem failed_moves {s : OfferStore} {call call' : OfferCall} {ref : String} {driver : ℕ}
    (h : call.failed = some call') (truly : s.readsTruly call = true)
    (there : call.addsDriver ref driver = true → s.live ref driver = true →
      ref ∈ s.driverOffers driver)
    (there' : call.addsIndex ref driver = true → s.live ref driver = true →
      driver ∈ s.index ref) : Moves s s call call' ref driver := by
  cases call with
  | createHash | createExpire | createDriverRef | createIndexRef =>
    cases h
    exact .of_end ⟨fun _ _ => rfl, fun _ _ => rfl, fun _ _ => rfl, fun _ _ => rfl⟩ there there'
  | bookingMembers ref' reader =>
    cases h
    exact .of_idle rfl rfl ⟨fun _ _ => rfl, fun _ _ => rfl, fun _ _ => rfl, fun _ _ => rfl⟩
  | bookingRead ref' driver' rest reader =>
    cases h
    exact .of_idle rfl rfl (idle_bookingEach _ _ _)
  | bookingLegacy ref' reader =>
    cases h
    refine moves_answered ref' false reader rfl rfl ?_
    rintro ⟨page, rest, rfl⟩
    exact truly
  | listRead d ref' rest offers stale =>
    cases h
    have hcall : (OfferCall.listRead d ref' rest offers stale).Pruning d stale :=
      ⟨fun _ _ => rfl, fun _ _ => rfl, fun _ _ => rfl, fun _ _ => rfl⟩
    exact .of_pruning hcall (pruning_listRefs _ _ _ _) (not_stale_of_readsTruly truly)
  | sweepDriverRead page d ref' members stale rest =>
    cases h
    have hcall : (OfferCall.sweepDriverRead page d ref' members stale rest).Pruning d stale :=
      ⟨fun _ _ => rfl, fun _ _ => rfl, fun _ _ => rfl, fun _ _ => rfl⟩
    exact .of_pruning hcall (pruning_sweepMembers _ _ _ _ _) (not_stale_of_readsTruly truly)
  | cleanupMembers ref' =>
    cases h
    refine .of_read rfl rfl nofun (fun hlive hmem hdrops => ?_)
    obtain rfl : ref' = ref := of_decide_eq_true hdrops
    rw [live_false_of_answersRight truly hmem] at hlive
    cases hlive
  | sweepDriverMembers | sweepDriverPrune =>
    cases h
    exact .of_idle rfl rfl (idle_sweepDrivers _ _)
  | sweepIndexPrune =>
    cases h
    exact .of_idle rfl rfl (idle_sweepBookings _ _)
  | accept | acceptStatus | decline | list | listPrune | cleanupHash | cleanupIndex
  | cleanupDriver | cleanupMemberHash | cleanupMemberDriver | cleanupLegacy | cleanupIndexKey
  | sweepLock | sweepDriverScan | sweepIndexScan | sweepUnlock =>
    cases h
    exact .of_idle rfl rfl ⟨fun _ _ => rfl, fun _ _ => rfl, fun _ _ => rfl, fun _ _ => rfl⟩
  | created | accepted | offerExpired | offerConflict | declined | listed | cleaned | swept
  | offerUnavailable | raised | stopped => cases h

end OfferStore

namespace OfferSystem

variable {s t : OfferSystem} {place : ℕ} {call call' : OfferCall} {ref : String} {driver : ℕ}

/-- The offer is referenced twice, and nobody is about to change that. -/
def settled (s : OfferSystem) (ref : String) (driver : ℕ) : Bool :=
  decide (ref ∈ s.store.driverOffers driver) && decide (driver ∈ s.store.index ref) &&
    s.calls.all fun call => !call.dropsDriver ref driver && !call.dropsIndex ref driver

/-- A creation does not end before it has referenced a live offer, except for one that is
referenced already. -/
def mayEnd (s : OfferSystem) : OfferCall → Bool
  | .createExpire offer _ | .createDriverRef offer _ | .createIndexRef offer _ =>
    !s.store.live offer.bookingReference offer.driverId ||
      s.settled offer.bookingReference offer.driverId
  | _ => true

/-- The next command of the call adds no reference under a pending removal, and tells the
sweep "nothing" only when the index has no live offer. -/
def mayAdvance (s : OfferSystem) : OfferCall → Bool
  | .createDriverRef offer _ =>
    !s.store.live offer.bookingReference offer.driverId ||
      s.calls.all (!·.dropsDriver offer.bookingReference offer.driverId)
  | .createIndexRef offer _ =>
    !s.store.live offer.bookingReference offer.driverId ||
      s.calls.all (!·.dropsIndex offer.bookingReference offer.driverId)
  | .bookingLegacy ref (.sweeping _ _) =>
    s.store.answersRight ref ((s.store.hgetallLegacy ref).any (·.status = .offered))
  | _ => true

def orderly (s : OfferSystem) : OfferAct → Bool
  | .advance place _ => s.calls[place]?.all s.mayAdvance
  | .fail place => s.calls[place]?.all fun call => s.store.readsTruly call && s.mayEnd call
  | .stop place => s.calls[place]?.all s.mayEnd
  | .start _ | .tick _ => true

/-- Every live offer is referenced from its driver and its booking, or about to be. -/
structure Referenced (s : OfferSystem) : Prop where
  byDriver : ∀ ref driver, Kept (fun c => c.addsDriver ref driver = true)
    (fun c => c.dropsDriver ref driver = true) s.calls (s.store.live ref driver = true)
    (ref ∈ s.store.driverOffers driver)
  byBooking : ∀ ref driver, Kept (fun c => c.addsIndex ref driver = true)
    (fun c => c.dropsIndex ref driver = true) s.calls (s.store.live ref driver = true)
    (driver ∈ s.store.index ref)

variable {reply : RedisReply} {store : OfferStore} {defaultTtl : ℤ} {a : OfferAct}

/-- One call has moved; it adds no reference under a pending removal. -/
theorem Referenced.set (referenced : s.Referenced) (hcall : s.calls[place]? = some call)
    (moves : ∀ ref driver, OfferStore.Moves s.store store call call' ref driver)
    (clear : ∀ ref driver, store.live ref driver = true → call.addsDriver ref driver = true →
      ¬ call'.addsDriver ref driver = true → ∀ c ∈ s.calls, ¬ c.dropsDriver ref driver = true)
    (clear' : ∀ ref driver, store.live ref driver = true → call.addsIndex ref driver = true →
      ¬ call'.addsIndex ref driver = true → ∀ c ∈ s.calls, ¬ c.dropsIndex ref driver = true)
    (log : List OfferEvent) : (⟨store, s.calls.set place call', log⟩ : OfferSystem).Referenced where
  byDriver ref driver :=
    (referenced.byDriver ref driver).set hcall (moves ref driver).onDriver (clear ref driver)
  byBooking ref driver :=
    (referenced.byBooking ref driver).set hcall (moves ref driver).onIndex (clear' ref driver)

theorem Referenced.advance (referenced : s.Referenced) (owned : s.store.Owned)
    (hcall : s.calls[place]? = some call) (may : s.mayAdvance call = true)
    (h : s.store.advance call reply = some (store, call')) (log : List OfferEvent) :
    (⟨store, s.calls.set place call', log⟩ : OfferSystem).Referenced := by
  refine referenced.set hcall (fun ref driver => OfferStore.advance_moves owned h ?_) ?_ ?_ log
  · rintro ref' page rest rfl
    exact may
  · intro ref driver hlive hadds hadds'
    cases call with
    | createExpire offer ttl =>
      cases reply <;> try cases h
      exact absurd hadds hadds'
    | createDriverRef offer ttl =>
      cases reply <;> try cases h
      obtain ⟨rfl, rfl⟩ := of_decide_eq_true hadds
      have hstill : s.store.live offer.bookingReference offer.driverId = true := hlive
      simpa [mayAdvance, hstill] using may
    | _ => cases hadds
  · intro ref driver hlive hadds hadds'
    cases call with
    | createExpire offer ttl | createDriverRef offer ttl =>
      cases reply <;> try cases h
      exact absurd hadds hadds'
    | createIndexRef offer ttl =>
      cases reply <;> try cases h
      obtain ⟨rfl, rfl⟩ := of_decide_eq_true hadds
      have hstill : s.store.live offer.bookingReference offer.driverId = true := hlive
      simpa [mayAdvance, hstill] using may
    | _ => cases hadds

/-- What a creation that may end finds. -/
structure Settled (s : OfferSystem) (ref : String) (driver : ℕ) : Prop where
  byDriver : ref ∈ s.store.driverOffers driver
  byBooking : driver ∈ s.store.index ref
  kept : ∀ c ∈ s.calls, ¬ c.dropsDriver ref driver = true
  kept' : ∀ c ∈ s.calls, ¬ c.dropsIndex ref driver = true

theorem settled_of_mayEnd (may : s.mayEnd call = true) (hadds : call.addsIndex ref driver = true)
    (hlive : s.store.live ref driver = true) : s.Settled ref driver := by
  have hsettled : s.settled ref driver = true := by
    cases call with
    | createExpire offer ttl | createDriverRef offer ttl | createIndexRef offer ttl =>
      obtain ⟨rfl, rfl⟩ := of_decide_eq_true hadds
      simpa [mayEnd, hlive] using may
    | _ => cases hadds
  simp only [settled, Bool.and_eq_true, decide_eq_true_eq, List.all_eq_true,
    Bool.not_eq_true'] at hsettled
  obtain ⟨⟨hdriver, hindex⟩, hall⟩ := hsettled
  exact ⟨hdriver, hindex, fun c hc => by simp [(hall c hc).1], fun c hc => by simp [(hall c hc).2]⟩

theorem addsIndex_of_addsDriver (h : call.addsDriver ref driver = true) :
    call.addsIndex ref driver = true := by
  cases call with
  | createExpire | createDriverRef => exact h
  | _ => cases h

/-- A call ends, or its next command raised; the store is as it was. -/
theorem Referenced.setCall (referenced : s.Referenced) (hcall : s.calls[place]? = some call)
    (may : s.mayEnd call = true)
    (moves : ∀ ref driver,
      (call.addsDriver ref driver = true → s.store.live ref driver = true →
        ref ∈ s.store.driverOffers driver) →
      (call.addsIndex ref driver = true → s.store.live ref driver = true →
        driver ∈ s.store.index ref) →
      OfferStore.Moves s.store s.store call call' ref driver) :
    (s.setCall place call').Referenced :=
  referenced.set hcall
    (fun ref driver => moves ref driver
      (fun hadds hlive => (settled_of_mayEnd may (addsIndex_of_addsDriver hadds) hlive).byDriver)
      (fun hadds hlive => (settled_of_mayEnd may hadds hlive).byBooking))
    (fun _ _ hlive hadds _ => (settled_of_mayEnd may (addsIndex_of_addsDriver hadds) hlive).kept)
    (fun _ _ hlive hadds _ => (settled_of_mayEnd may hadds hlive).kept') s.log

theorem live_later {seconds : ℕ}
    (h : ({ s.store with now := s.store.now + seconds } : OfferStore).live ref driver = true) :
    s.store.live ref driver = true := by
  obtain ⟨offer, hget, hstatus⟩ := OfferStore.live_iff.mp h
  obtain ⟨hash, hhash, rfl⟩ := Option.map_eq_some_iff.mp hget
  obtain ⟨hstored, halive⟩ := Option.filter_eq_some_iff.mp hhash
  refine OfferStore.live_iff.mpr ⟨hash.offer, Option.map_eq_some_iff.mpr ⟨hash, ?_, rfl⟩, hstatus⟩
  refine Option.filter_eq_some_iff.mpr ⟨hstored, ?_⟩
  cases hexpiry : hash.expiry with
  | none => simp [OfferHash.alive, hexpiry]
  | some expiry =>
    simp only [OfferHash.alive, hexpiry, Option.all_some, decide_eq_true_eq] at halive ⊢
    omega

theorem begin_drops (defaultTtl now : ℤ) (request : OfferRequest) (ref : String) (driver : ℕ) :
    ¬ (OfferCall.begin defaultTtl now request).dropsDriver ref driver = true ∧
      ¬ (OfferCall.begin defaultTtl now request).dropsIndex ref driver = true := by
  cases request with
  | cleanupOffer ref' driver' => cases driver' <;> exact ⟨nofun, nofun⟩
  | _ => exact ⟨nofun, nofun⟩

theorem Referenced.step (referenced : s.Referenced) (owned : s.store.Owned)
    (orderly : s.orderly a = true) (h : s.Step defaultTtl a t) : t.Referenced := by
  cases a with
  | start request =>
    cases h
    exact ⟨fun ref driver => (referenced.byDriver ref driver).append (begin_drops _ _ _ _ _).1,
      fun ref driver => (referenced.byBooking ref driver).append (begin_drops _ _ _ _ _).2⟩
  | advance place reply =>
    obtain ⟨call, store, call', hcall, hadvance, rfl⟩ := step_advance h
    have may : s.mayAdvance call = true := by simpa [OfferSystem.orderly, hcall] using orderly
    exact referenced.advance owned hcall may hadvance _
  | fail place =>
    obtain ⟨call, call', hcall, hfailed, rfl⟩ := step_fail h
    simp only [OfferSystem.orderly, hcall, Option.all_some, Bool.and_eq_true] at orderly
    exact referenced.setCall hcall orderly.2 fun ref driver there there' =>
      OfferStore.failed_moves hfailed orderly.1 there there'
  | stop place =>
    obtain ⟨call, hcall, rfl⟩ := step_stop h
    have may : s.mayEnd call = true := by simpa [OfferSystem.orderly, hcall] using orderly
    exact referenced.setCall hcall may fun ref driver there there' =>
      .of_end ⟨fun _ _ => rfl, fun _ _ => rfl, fun _ _ => rfl, fun _ _ => rfl⟩ there there'
  | tick seconds =>
    cases h
    exact ⟨fun ref driver => (referenced.byDriver ref driver).mono live_later,
      fun ref driver => (referenced.byBooking ref driver).mono live_later⟩

end OfferSystem

end Afcon360.Transport
