import Afcon360.Transport.OfferStore

/-!
# The references to a live offer

Creating an offer writes the hash first and the two references afterwards; pruning a
reference reads (or deletes) the hash first and takes the reference out afterwards. A call
between the two holds the intention to add, or to drop, a reference. `Orderly` says of a
step that no reference is added under a pending removal, that a read that answers "gone"
is right when it answers, and that no creation ends half way.
-/

namespace Afcon360.Transport

open Foundation

namespace OfferStore

variable {s s' : OfferStore} {ref ref' : String} {driver driver' : ℕ} {offer : Offer}

/-- The hash is there, has not expired and is offered. -/
def live (s : OfferStore) (ref : String) (driver : ℕ) : Bool :=
  (s.hgetall ref driver).any (·.status = .offered)

theorem live_iff : s.live ref driver = true ↔
    ∃ offer, s.hgetall ref driver = some offer ∧ offer.status = .offered := by
  simp [live, Option.any_eq_true]

/-! ## What the commands leave -/

theorem advance_accept (s : OfferStore) (ref : String) (driver : ℕ) :
    s.advance (.accept ref driver) .ok = some ((s.acceptScript ref driver).1,
      if (s.acceptScript ref driver).2 then .accepted ref driver else .acceptStatus ref
        driver) := by
  simp only [advance]

theorem advance_decline (s : OfferStore) (ref : String) (driver : ℕ) :
    s.advance (.decline ref driver) .ok =
      some ((s.declineScript ref driver).1, .declined (s.declineScript ref driver).2) := by
  simp only [advance]

theorem hgetall_hset_self : (s.hset ref driver offer).hgetall ref driver = some offer := by
  have halive : ((s.stored ref driver).bind OfferHash.expiry).all (s.now < ·) = true := by
    cases hstored : s.stored ref driver with
    | none => rfl
    | some hash => exact (Option.filter_eq_some_iff.mp hstored).2
  simp only [hgetall, stored, hset, Function.update_self, Option.filter_some, OfferHash.alive,
    stored] at halive ⊢
  simp [halive]

theorem hgetall_hset_ne (h : (ref', driver') ≠ (ref, driver)) :
    (s.hset ref driver offer).hgetall ref' driver' = s.hgetall ref' driver' := by
  simp only [hgetall, stored, hset, Function.update_of_ne h]

theorem live_expire {ttl : ℤ} (h : (s.expire ref driver ttl).live ref' driver' = true) :
    s.live ref' driver' = true := by
  by_cases hkey : (ref', driver') = (ref, driver)
  · obtain ⟨rfl, rfl⟩ := Prod.mk.inj hkey
    obtain ⟨offer, hget, hstatus⟩ := live_iff.mp h
    rw [hgetall, stored] at hget
    simp only [expire, Function.update_self] at hget
    cases hstored : s.stored ref' driver' with
    | none =>
      simp only [hstored, Option.map_none, Option.filter_none] at hget
      cases hget
    | some hash =>
      refine live_iff.mpr ⟨offer, ?_, hstatus⟩
      simp only [hstored, Option.map_some, Option.filter_some] at hget
      split at hget
      · simpa [hgetall, hstored] using hget
      · simp at hget
  · simpa only [live, hgetall, stored, expire, Function.update_of_ne hkey] using h

theorem hgetall_deleteOffer_self : (s.deleteOffer ref driver).hgetall ref driver = none := by
  simp [hgetall, stored, deleteOffer]

theorem hgetall_deleteOffer_ne (h : (ref', driver') ≠ (ref, driver)) :
    (s.deleteOffer ref driver).hgetall ref' driver' = s.hgetall ref' driver' := by
  simp only [hgetall, stored, deleteOffer, Function.update_of_ne h]

theorem live_deleteOffer (h : (s.deleteOffer ref driver).live ref' driver' = true) :
    s.live ref' driver' = true ∧ (ref', driver') ≠ (ref, driver) := by
  by_cases hkey : (ref', driver') = (ref, driver)
  · cases hkey
    simp [live, hgetall_deleteOffer_self] at h
  · exact ⟨by simpa only [live, hgetall_deleteOffer_ne hkey] using h, hkey⟩

/-! ## What the scripts do -/

/-- The store after an accepted offer. -/
def withAccepted (s : OfferStore) (ref : String) (driver : ℕ) (offer : Offer) : OfferStore :=
  ((s.hset ref driver { offer with status := .accepted }).sremDriver driver {ref}).sremIndex
    ref driver

/-- The store after a declined offer. -/
def withDeclined (s : OfferStore) (ref : String) (driver : ℕ) : OfferStore :=
  ((s.sremDriver driver {ref}).sremIndex ref driver).deleteOffer ref driver

theorem acceptScript_cases (s : OfferStore) (ref : String) (driver : ℕ) :
    s.acceptScript ref driver = (s, false) ∨
    ∃ offer, s.hgetall ref driver = some offer ∧ offer.status = .offered ∧
      offer.driverId = driver ∧
      s.acceptScript ref driver = (s.withAccepted ref driver offer, true) := by
  unfold acceptScript
  split
  · exact .inl rfl
  · rename_i offer hget
    split
    · exact .inl rfl
    split
    · exact .inl rfl
    · rename_i hstatus howner
      exact .inr ⟨offer, hget, not_not.mp hstatus, not_not.mp howner, rfl⟩

theorem declineScript_cases (s : OfferStore) (ref : String) (driver : ℕ) :
    s.declineScript ref driver = (s, false) ∨
      s.declineScript ref driver = (s.withDeclined ref driver, true) := by
  unfold declineScript
  split
  · exact .inl rfl
  split
  · exact .inl rfl
  · exact .inr rfl

theorem live_withAccepted (h : (s.withAccepted ref driver offer).live ref' driver' = true) :
    s.live ref' driver' = true ∧ (ref', driver') ≠ (ref, driver) := by
  have hset : (s.hset ref driver { offer with status := .accepted }).live ref' driver' = true := h
  by_cases hkey : (ref', driver') = (ref, driver)
  · cases hkey
    simp [live, hgetall_hset_self] at hset
  · exact ⟨by simpa only [live, hgetall_hset_ne hkey] using hset, hkey⟩

theorem live_withDeclined (h : (s.withDeclined ref driver).live ref' driver' = true) :
    s.live ref' driver' = true ∧ (ref', driver') ≠ (ref, driver) :=
  live_deleteOffer (s := (s.sremDriver driver {ref}).sremIndex ref driver) h

/-! ## Membership -/

theorem mem_saddDriver : ref' ∈ (s.saddDriver driver ref).driverOffers driver' ↔
    (driver' = driver ∧ ref' = ref) ∨ ref' ∈ s.driverOffers driver' := by
  by_cases h : driver' = driver
  · subst h
    simp [saddDriver]
  · simp [saddDriver, h]

theorem mem_sremDriver {refs : Finset String} :
    ref' ∈ (s.sremDriver driver refs).driverOffers driver' ↔
      ref' ∈ s.driverOffers driver' ∧ ¬ (driver' = driver ∧ ref' ∈ refs) := by
  by_cases h : driver' = driver
  · subst h
    simp [sremDriver]
  · simp [sremDriver, h]

theorem mem_saddIndex : driver' ∈ (s.saddIndex ref driver).index ref' ↔
    (ref' = ref ∧ driver' = driver) ∨ driver' ∈ s.index ref' := by
  by_cases h : ref' = ref
  · subst h
    simp [saddIndex]
  · simp [saddIndex, h]

theorem mem_sremIndex : driver' ∈ (s.sremIndex ref driver).index ref' ↔
    driver' ∈ s.index ref' ∧ ¬ (ref' = ref ∧ driver' = driver) := by
  by_cases h : ref' = ref
  · subst h
    simp [sremIndex, and_comm]
  · simp [sremIndex, h]

theorem kept_sremDriver (hmem : ref' ∈ s.driverOffers driver') :
    ref' ∈ (s.sremDriver driver {ref}).driverOffers driver' ∨ (ref = ref' ∧ driver = driver') := by
  by_cases hkey : ref = ref' ∧ driver = driver'
  · exact .inr hkey
  · exact .inl (mem_sremDriver.mpr ⟨hmem, fun h =>
      hkey ⟨(Finset.mem_singleton.mp h.2).symm, h.1.symm⟩⟩)

theorem kept_sremIndex (hmem : driver' ∈ s.index ref') :
    driver' ∈ (s.sremIndex ref driver).index ref' ∨ (ref = ref' ∧ driver = driver') := by
  by_cases hkey : ref = ref' ∧ driver = driver'
  · exact .inr hkey
  · exact .inl (mem_sremIndex.mpr ⟨hmem, fun h => hkey ⟨h.1.symm, h.2.symm⟩⟩)

theorem mem_deleteIndex : driver' ∈ (s.deleteIndex ref).index ref' ↔
    driver' ∈ s.index ref' ∧ ref' ≠ ref := by
  by_cases h : ref' = ref
  · subst h
    simp [deleteIndex]
  · simp [deleteIndex, h]

end OfferStore

/-! ## Intentions -/

namespace OfferCall

variable (ref : String) (driver : ℕ)

/-- The call has written the hash and still has to reference it from the driver. -/
def addsDriver : OfferCall → Bool
  | .createExpire offer _ | .createDriverRef offer _ =>
    decide (offer.bookingReference = ref ∧ offer.driverId = driver)
  | _ => false

/-- The call has written the hash and still has to reference it from the booking. -/
def addsIndex : OfferCall → Bool
  | .createExpire offer _ | .createDriverRef offer _ | .createIndexRef offer _ =>
    decide (offer.bookingReference = ref ∧ offer.driverId = driver)
  | _ => false

/-- The call saw the offer gone, or deleted it, and still has to take the reference out of
the driver's set. -/
def dropsDriver : OfferCall → Bool
  | .listRead d _ _ _ stale | .listPrune d _ stale | .sweepDriverRead _ d _ _ stale _
  | .sweepDriverPrune _ d stale _ => decide (d = driver ∧ ref ∈ stale)
  | .cleanupIndex r d | .cleanupDriver r d | .cleanupMemberDriver r d _ =>
    decide (r = ref ∧ d = driver)
  | _ => false

/-- The same for the set of the booking. A booking-wide call takes out the whole set. -/
def dropsIndex : OfferCall → Bool
  | .cleanupIndex r d => decide (r = ref ∧ d = driver)
  | .cleanupMemberHash r d rest => decide (r = ref ∧ driver ∉ d :: rest)
  | .cleanupMemberDriver r _ rest => decide (r = ref ∧ driver ∉ rest)
  | .cleanupLegacy r | .cleanupIndexKey r | .sweepIndexPrune _ r _ => decide (r = ref)
  | _ => false

/-- The call means to write no reference. -/
structure Idle (call : OfferCall) : Prop where
  addsDriver (ref : String) (driver : ℕ) : call.addsDriver ref driver = false
  addsIndex (ref : String) (driver : ℕ) : call.addsIndex ref driver = false
  dropsDriver (ref : String) (driver : ℕ) : call.dropsDriver ref driver = false
  dropsIndex (ref : String) (driver : ℕ) : call.dropsIndex ref driver = false

variable {ref driver} {page : SweepPage} {d : ℕ} {r : String} {reader : BookingReader}

/-! What a call means to do that has entered one of the loops. -/

theorem idle_sweepFinish (page : SweepPage) : (sweepFinish page).Idle := by
  unfold sweepFinish
  dsimp only
  generalize (if page.driverCursor = 0 then -1 else page.driverCursor) = driverCursor
  generalize (if page.indexCursor = 0 then -1 else page.indexCursor) = indexCursor
  split <;> exact ⟨fun _ _ => rfl, fun _ _ => rfl, fun _ _ => rfl, fun _ _ => rfl⟩

theorem idle_sweepBookings (page : SweepPage) (refs : List String) :
    (sweepBookings page refs).Idle := by
  induction refs with
  | nil => exact idle_sweepFinish page
  | cons ref rest ih =>
    unfold sweepBookings
    split
    · exact ih
    · exact ⟨fun _ _ => rfl, fun _ _ => rfl, fun _ _ => rfl, fun _ _ => rfl⟩

theorem idle_sweepDrivers (page : SweepPage) (drivers : List ℕ) :
    (sweepDrivers page drivers).Idle := by
  unfold sweepDrivers
  split
  · split
    · exact ⟨fun _ _ => rfl, fun _ _ => rfl, fun _ _ => rfl, fun _ _ => rfl⟩
    · exact idle_sweepBookings _ []
  · exact ⟨fun _ _ => rfl, fun _ _ => rfl, fun _ _ => rfl, fun _ _ => rfl⟩

theorem idle_sweepLocked (page : SweepPage) : (sweepLocked page).Idle := by
  unfold sweepLocked
  split
  · exact ⟨fun _ _ => rfl, fun _ _ => rfl, fun _ _ => rfl, fun _ _ => rfl⟩
  · exact idle_sweepDrivers _ []

theorem idle_bookingEach (ref : String) (reader : BookingReader) (drivers : List ℕ) :
    (bookingEach ref reader drivers).Idle := by
  unfold bookingEach
  split <;> exact ⟨fun _ _ => rfl, fun _ _ => rfl, fun _ _ => rfl, fun _ _ => rfl⟩

/-- An answer is idle unless it tells the sweep that nothing is offered. -/
theorem idle_bookingAnswered (ref : String) (found : Bool) (reader : BookingReader)
    (h : found = true ∨ reader = .accepting) : (bookingAnswered ref found reader).Idle := by
  cases reader with
  | accepting =>
    cases found <;>
      exact ⟨fun _ _ => rfl, fun _ _ => rfl, fun _ _ => rfl, fun _ _ => rfl⟩
  | sweeping page rest =>
    have hfound : found = true := h.resolve_right (by simp)
    subst hfound
    exact idle_sweepBookings page rest

/-- A loop that collects stale references drops those and no more. -/
structure Pruning (call : OfferCall) (d : ℕ) (stale : List String) : Prop where
  addsDriver (ref : String) (driver : ℕ) : call.addsDriver ref driver = false
  addsIndex (ref : String) (driver : ℕ) : call.addsIndex ref driver = false
  dropsDriver (ref : String) (driver : ℕ) :
    call.dropsDriver ref driver = decide (d = driver ∧ ref ∈ stale)
  dropsIndex (ref : String) (driver : ℕ) : call.dropsIndex ref driver = false

theorem Idle.pruning {call : OfferCall} (h : call.Idle) (d : ℕ) : call.Pruning d [] :=
  ⟨h.addsDriver, h.addsIndex, fun ref driver => by simp [h.dropsDriver ref driver], h.dropsIndex⟩

theorem pruning_listRefs (d : ℕ) (offers : List DriverOffer) (stale refs : List String) :
    (listRefs d offers stale refs).Pruning d stale := by
  unfold listRefs
  split
  · split
    · rename_i hnil
      subst hnil
      exact Idle.pruning ⟨fun _ _ => rfl, fun _ _ => rfl, fun _ _ => rfl, fun _ _ => rfl⟩ d
    · exact ⟨fun _ _ => rfl, fun _ _ => rfl, fun _ _ => rfl, fun _ _ => rfl⟩
  · exact ⟨fun _ _ => rfl, fun _ _ => rfl, fun _ _ => rfl, fun _ _ => rfl⟩

theorem pruning_sweepMembers (page : SweepPage) (d : ℕ) (stale : List String) (rest : List ℕ)
    (refs : List String) : (sweepMembers page d stale rest refs).Pruning d stale := by
  unfold sweepMembers
  split
  · split
    · rename_i hnil
      subst hnil
      exact (idle_sweepDrivers page rest).pruning d
    · exact ⟨fun _ _ => rfl, fun _ _ => rfl, fun _ _ => rfl, fun _ _ => rfl⟩
  · exact ⟨fun _ _ => rfl, fun _ _ => rfl, fun _ _ => rfl, fun _ _ => rfl⟩

/-- A booking-wide cleanup drops the index, except for the drivers it has still to clean. -/
theorem cleanupEach_spec (ref : String) (drivers : List ℕ) (r : String) (d : ℕ) :
    (cleanupEach ref drivers).addsDriver r d = false ∧
    (cleanupEach ref drivers).addsIndex r d = false ∧
    (cleanupEach ref drivers).dropsDriver r d = false ∧
    (cleanupEach ref drivers).dropsIndex r d = decide (ref = r ∧ d ∉ drivers) := by
  unfold cleanupEach
  split
  · exact ⟨rfl, rfl, rfl, by simp [OfferCall.dropsIndex]⟩
  · exact ⟨rfl, rfl, rfl, rfl⟩

end OfferCall

namespace OfferStore

open OfferCall

variable {s s' : OfferStore} {call call' : OfferCall} {reply : RedisReply} {ref : String}
variable {driver : ℕ}

/-- The owner named in a hash is the driver of its key. -/
def Owned (s : OfferStore) : Prop :=
  ∀ (ref : String) (driver : ℕ) (hash : OfferHash), s.offers (ref, driver) = some hash →
    hash.offer.bookingReference = ref ∧ hash.offer.driverId = driver

theorem Owned.hgetall (owned : s.Owned) {offer : Offer} (h : s.hgetall ref driver = some offer) :
    offer.bookingReference = ref ∧ offer.driverId = driver := by
  obtain ⟨hash, hhash, rfl⟩ := Option.map_eq_some_iff.mp h
  exact owned ref driver hash (Option.filter_eq_some_iff.mp hhash).1

theorem Owned.readOffer (owned : s.Owned) (h : s.live ref driver = true) :
    ∃ offer, s.readOffer ref driver = some offer ∧ offer.bookingReference = ref ∧
      offer.status = .offered := by
  obtain ⟨offer, hget, hstatus⟩ := live_iff.mp h
  obtain ⟨href, howner⟩ := owned.hgetall hget
  exact ⟨offer, by simp [OfferStore.readOffer, hget, howner], href, hstatus⟩

theorem live_hset {offer : Offer}
    (h : (s.hset offer.bookingReference offer.driverId offer).live ref driver = true) :
    s.live ref driver = true ∨ (offer.bookingReference = ref ∧ offer.driverId = driver) := by
  by_cases hkey : (ref, driver) = (offer.bookingReference, offer.driverId)
  · obtain ⟨href, hdriver⟩ := Prod.mk.inj hkey
    exact .inr ⟨href.symm, hdriver.symm⟩
  · exact .inl (by simpa only [live, hgetall_hset_ne hkey] using h)

/-- What a command does to one offer and its two references. -/
structure Moves (s s' : OfferStore) (call call' : OfferCall) (ref : String) (driver : ℕ) :
    Prop where
  onDriver : Touches (fun c => c.addsDriver ref driver = true)
    (fun c => c.dropsDriver ref driver = true) call call' (s.live ref driver = true)
    (ref ∈ s.driverOffers driver) (s'.live ref driver = true) (ref ∈ s'.driverOffers driver)
  onIndex : Touches (fun c => c.addsIndex ref driver = true)
    (fun c => c.dropsIndex ref driver = true) call call' (s.live ref driver = true)
    (driver ∈ s.index ref) (s'.live ref driver = true) (driver ∈ s'.index ref)

namespace Moves

/-- A call that adds nothing reads. -/
theorem of_read (hdriver : call.addsDriver ref driver = false)
    (hindex : call.addsIndex ref driver = false)
    (drops : s.live ref driver = true → ref ∈ s.driverOffers driver →
      call'.dropsDriver ref driver = true → call.dropsDriver ref driver = true)
    (drops' : s.live ref driver = true → driver ∈ s.index ref →
      call'.dropsIndex ref driver = true → call.dropsIndex ref driver = true) :
        Moves s s call call' ref driver where
  onDriver := .of_read (by simp [hdriver]) drops
  onIndex := .of_read (by simp [hindex]) drops'

theorem of_idle (hdriver : call.addsDriver ref driver = false)
    (hindex : call.addsIndex ref driver = false) (idle : call'.Idle) :
    Moves s s call call' ref driver :=
  .of_read hdriver hindex (fun _ _ h => by simp [idle.dropsDriver] at h)
    (fun _ _ h => by simp [idle.dropsIndex] at h)

/-- A call that ends here. A reference that it was to add is there already. -/
theorem of_end (idle : call'.Idle)
    (there : call.addsDriver ref driver = true → s.live ref driver = true →
      ref ∈ s.driverOffers driver)
    (there' : call.addsIndex ref driver = true → s.live ref driver = true →
      driver ∈ s.index ref) : Moves s s call call' ref driver where
  onDriver := {
    revived := .inl
    added := fun hlive hadds => .inr ⟨there hadds hlive, by simp [idle.dropsDriver]⟩
    removed := fun _ => .inl
    marked := fun _ _ h => by simp [idle.dropsDriver] at h }
  onIndex := {
    revived := .inl
    added := fun hlive hadds => .inr ⟨there' hadds hlive, by simp [idle.dropsIndex]⟩
    removed := fun _ => .inl
    marked := fun _ _ h => by simp [idle.dropsIndex] at h }

/-- The loops that collect stale references: what they mark as stale is not live. -/
theorem of_pruning {d : ℕ} {stale stale' : List String} (hcall : call.Pruning d stale)
    (hcall' : call'.Pruning d stale')
    (gone : s.live ref driver = true → d = driver → ref ∈ stale' → ref ∈ stale) :
    Moves s s call call' ref driver := by
  refine .of_read (hcall.addsDriver _ _) (hcall.addsIndex _ _) (fun hlive _ h => ?_)
    (fun _ _ h => ?_)
  · rw [hcall'.dropsDriver] at h
    rw [hcall.dropsDriver]
    obtain ⟨hd, hmem⟩ := of_decide_eq_true h
    exact decide_eq_true ⟨hd, gone hlive hd hmem⟩
  · rw [hcall'.dropsIndex] at h
    cases h

end Moves

/-- A script that ends one live offer and takes out the two references to it. -/
theorem moves_ended {ref' : String} {driver' : ℕ} (hdriver : call.addsDriver ref driver = false)
    (hindex : call.addsIndex ref driver = false) (idle : call'.Idle)
    (ended : s'.live ref driver = true →
      s.live ref driver = true ∧ (ref, driver) ≠ (ref', driver'))
    (hdrivers : s'.driverOffers = (s.sremDriver driver' {ref'}).driverOffers)
    (hdrivers' : s'.index = (s.sremIndex ref' driver').index) :
    Moves s s' call call' ref driver where
  onDriver := by
    refine .of_not_adds (by simp [hdriver]) (fun hlive => (ended hlive).1)
      (fun hlive hmem => ?_) (by simp [idle.dropsDriver])
    rw [hdrivers]
    exact .inl ((kept_sremDriver hmem).resolve_right fun hkey =>
      (ended hlive).2 (by rw [hkey.1, hkey.2]))
  onIndex := by
    refine .of_not_adds (by simp [hindex]) (fun hlive => (ended hlive).1)
      (fun hlive hmem => ?_) (by simp [idle.dropsIndex])
    rw [hdrivers']
    exact .inl ((kept_sremIndex hmem).resolve_right fun hkey =>
      (ended hlive).2 (by rw [hkey.1, hkey.2]))

theorem moves_accept (ref' : String) (driver' : ℕ)
    (h : s.advance (.accept ref' driver') .ok = some (s', call')) :
    Moves s s' (.accept ref' driver') call' ref driver := by
  rcases acceptScript_cases s ref' driver' with hscript | ⟨offer, _, _, _, hscript⟩ <;>
    simp only [advance_accept, hscript, Option.some.injEq, Prod.mk.injEq] at h <;>
    obtain ⟨rfl, rfl⟩ := h
  · exact .of_idle rfl rfl ⟨fun _ _ => rfl, fun _ _ => rfl, fun _ _ => rfl, fun _ _ => rfl⟩
  · exact moves_ended rfl rfl ⟨fun _ _ => rfl, fun _ _ => rfl, fun _ _ => rfl, fun _ _ => rfl⟩
      live_withAccepted rfl rfl

theorem moves_decline (ref' : String) (driver' : ℕ)
    (h : s.advance (.decline ref' driver') .ok = some (s', call')) :
    Moves s s' (.decline ref' driver') call' ref driver := by
  rcases declineScript_cases s ref' driver' with hscript | hscript <;>
    simp only [advance_decline, hscript, Option.some.injEq, Prod.mk.injEq] at h <;>
    obtain ⟨rfl, rfl⟩ := h
  · exact .of_idle rfl rfl ⟨fun _ _ => rfl, fun _ _ => rfl, fun _ _ => rfl, fun _ _ => rfl⟩
  · exact moves_ended rfl rfl ⟨fun _ _ => rfl, fun _ _ => rfl, fun _ _ => rfl, fun _ _ => rfl⟩
      live_withDeclined rfl rfl

/-- The sweep is told "nothing" only where no member of the index is offered. -/
def answersRight (s : OfferStore) (ref : String) (found : Bool) : Bool :=
  found || decide (∀ driver ∈ s.index ref, s.live ref driver = false)

theorem moves_answered (ref' : String) (found : Bool) (reader : BookingReader)
    (hadds : call.addsDriver ref driver = false) (hadds' : call.addsIndex ref driver = false)
    (right : (∃ page rest, reader = .sweeping page rest) → s.answersRight ref' found = true) :
    Moves s s call (bookingAnswered ref' found reader) ref driver := by
  by_cases hidle : found = true ∨ reader = .accepting
  · exact .of_idle hadds hadds' (idle_bookingAnswered _ _ _ hidle)
  · cases reader with
    | accepting => exact absurd (.inr rfl) hidle
    | sweeping page rest =>
      have hfound : found = false := by simpa using hidle
      subst hfound
      have hgone : ∀ driver ∈ s.index ref', s.live ref' driver = false := by
        simpa [answersRight] using right ⟨page, rest, rfl⟩
      refine .of_read hadds hadds' nofun (fun hlive hmem hdrops => ?_)
      obtain rfl : ref' = ref := of_decide_eq_true hdrops
      rw [hgone driver hmem] at hlive
      cases hlive

theorem moves_create (offer : Offer) (ttl : ℤ)
    (hcall : call = .createHash offer ttl ∨ call = .createExpire offer ttl ∨
      call = .createDriverRef offer ttl ∨ call = .createIndexRef offer ttl)
    (h : s.advance call .ok = some (s', call')) : Moves s s' call call' ref driver := by
  rcases hcall with rfl | rfl | rfl | rfl <;>
    simp only [advance, Option.some.injEq, Prod.mk.injEq] at h <;> obtain ⟨rfl, rfl⟩ := h
  · have revived : (s.hset offer.bookingReference offer.driverId offer).live ref driver = true →
        s.live ref driver = true ∨
          decide (offer.bookingReference = ref ∧ offer.driverId = driver) = true :=
      fun hlive => (live_hset hlive).imp_right fun hkey => decide_eq_true hkey
    exact ⟨⟨revived, nofun, fun _ => .inl, nofun⟩, ⟨revived, nofun, fun _ => .inl, nofun⟩⟩
  · exact ⟨⟨fun hlive => .inl (live_expire hlive), fun _ hadds => .inl hadds, fun _ => .inl, nofun⟩,
      ⟨fun hlive => .inl (live_expire hlive), fun _ hadds => .inl hadds, fun _ => .inl, nofun⟩⟩
  · refine ⟨⟨fun hlive => .inl hlive, fun _ hadds => .inr ⟨?_, nofun⟩,
      fun _ hmem => .inl (mem_saddDriver.mpr (.inr hmem)), nofun⟩,
      ⟨fun hlive => .inl hlive, fun _ hadds => .inl hadds, fun _ => .inl, nofun⟩⟩
    obtain ⟨href, hdriver⟩ := of_decide_eq_true hadds
    exact mem_saddDriver.mpr (.inl ⟨hdriver.symm, href.symm⟩)
  · refine ⟨.of_not_adds nofun id (fun _ => .inl) nofun,
      ⟨fun hlive => .inl hlive, fun _ hadds => .inr ⟨?_, nofun⟩,
      fun _ hmem => .inl (mem_saddIndex.mpr (.inr hmem)), nofun⟩⟩
    obtain ⟨href, hdriver⟩ := of_decide_eq_true hadds
    exact mem_saddIndex.mpr (.inl ⟨href.symm, hdriver.symm⟩)

/-- The hash of an offer is deleted. References that are to be dropped from now on are those of
this offer, which is no longer live. -/
theorem moves_deleteOffer {ref' : String} {driver' : ℕ}
    (hdriver : call.addsDriver ref driver = false) (hindex : call.addsIndex ref driver = false)
    (drops : call'.dropsDriver ref driver = true → ref' = ref ∧ driver' = driver)
    (drops' : call'.dropsIndex ref driver = true →
      (ref' = ref ∧ driver' = driver) ∨ call.dropsIndex ref driver = true) :
    Moves s (s.deleteOffer ref' driver') call call' ref driver := by
  have gone : (s.deleteOffer ref' driver').live ref driver = true →
      ¬ (ref' = ref ∧ driver' = driver) := fun hlive hkey =>
    (live_deleteOffer hlive).2 (by rw [hkey.1, hkey.2])
  exact ⟨.of_not_adds (by simp [hdriver]) (fun hlive => (live_deleteOffer hlive).1) (fun _ => .inl)
      (fun hlive _ hdrops => absurd (drops hdrops) (gone hlive)),
    .of_not_adds (by simp [hindex]) (fun hlive => (live_deleteOffer hlive).1) (fun _ => .inl)
      (fun hlive _ hdrops => (drops' hdrops).resolve_left (gone hlive))⟩

theorem moves_cleanup (ref' : String) (driver' : ℕ)
    (hcall : call = .cleanupHash ref' driver' ∨ call = .cleanupIndex ref' driver' ∨
      call = .cleanupDriver ref' driver')
    (h : s.advance call .ok = some (s', call')) : Moves s s' call call' ref driver := by
  rcases hcall with rfl | rfl | rfl <;>
    simp only [advance, Option.some.injEq, Prod.mk.injEq] at h <;> obtain ⟨rfl, rfl⟩ := h
  · exact moves_deleteOffer rfl rfl of_decide_eq_true (fun h => .inl (of_decide_eq_true h))
  · exact ⟨.of_not_adds nofun id (fun _ => .inl) (fun _ _ => id),
      .of_not_adds nofun id (fun _ hmem => (kept_sremIndex hmem).imp_right decide_eq_true) nofun⟩
  · exact ⟨.of_not_adds nofun id (fun _ hmem => (kept_sremDriver hmem).imp_right decide_eq_true)
      nofun, .of_not_adds nofun id (fun _ => .inl) nofun⟩

theorem moves_cleanupMember (ref' : String) (driver' : ℕ) (rest : List ℕ)
    (hcall : call = .cleanupMemberHash ref' driver' rest ∨
      call = .cleanupMemberDriver ref' driver' rest)
    (h : s.advance call .ok = some (s', call')) : Moves s s' call call' ref driver := by
  rcases hcall with rfl | rfl <;>
    simp only [advance, Option.some.injEq, Prod.mk.injEq] at h <;> obtain ⟨rfl, rfl⟩ := h
  · refine moves_deleteOffer rfl rfl of_decide_eq_true (fun hdrops => ?_)
    obtain ⟨href, hrest⟩ := of_decide_eq_true hdrops
    by_cases hdriver : driver' = driver
    · exact .inl ⟨href, hdriver⟩
    · exact .inr (decide_eq_true ⟨href, by simp [Ne.symm hdriver, hrest]⟩)
  · obtain ⟨-, -, hnone, hindex⟩ := cleanupEach_spec ref' rest ref driver
    refine ⟨.of_not_adds nofun id (fun _ hmem => (kept_sremDriver hmem).imp_right decide_eq_true)
        (fun _ _ hdrops => ?_),
      .of_not_adds nofun id (fun _ => .inl) (fun _ _ hdrops => ?_)⟩
    · rw [hnone] at hdrops
      cases hdrops
    · rw [hindex] at hdrops
      exact hdrops

/-- A command that takes the collected stale references out of a driver's set. -/
theorem moves_prune {d : ℕ} {stale : List String} (hcall : call.Pruning d stale)
    (idle : call'.Idle) : Moves s (s.sremDriver d stale.toFinset) call call' ref driver := by
  refine ⟨.of_not_adds (by simp [hcall.addsDriver]) id (fun _ hmem => ?_)
      (fun _ _ h => by simp [idle.dropsDriver] at h),
    .of_not_adds (by simp [hcall.addsIndex]) id (fun _ => .inl)
      (fun _ _ h => by simp [idle.dropsIndex] at h)⟩
  by_cases hkey : d = driver ∧ ref ∈ stale
  · exact .inr (by rw [hcall.dropsDriver]; exact decide_eq_true hkey)
  · exact .inl (mem_sremDriver.mpr ⟨hmem, fun h => hkey ⟨h.1.symm, List.mem_toFinset.mp h.2⟩⟩)

theorem moves_deleteIndex {ref' : String} (hadds : ∀ ref driver, call.addsDriver ref driver = false)
    (hadds' : ∀ ref driver, call.addsIndex ref driver = false)
    (hdrops : ∀ ref driver, call.dropsIndex ref driver = decide (ref' = ref)) (idle : call'.Idle) :
    Moves s (s.deleteIndex ref') call call' ref driver := by
  refine ⟨.of_not_adds (by simp [hadds]) id (fun _ => .inl)
      (fun _ _ h => by simp [idle.dropsDriver] at h),
    .of_not_adds (by simp [hadds']) id (fun _ hmem => ?_)
      (fun _ _ h => by simp [idle.dropsIndex] at h)⟩
  by_cases hkey : ref' = ref
  · exact .inr (by rw [hdrops]; exact decide_eq_true hkey)
  · exact .inl (mem_deleteIndex.mpr ⟨hmem, Ne.symm hkey⟩)

/-- A stale reference that is added to the collection is not that of a live offer. -/
theorem not_stale (owned : s.Owned) {ref' : String} {d : ℕ} {stale : List String}
    (hread : s.readOffer ref' d = none) (hlive : s.live ref driver = true) (hd : d = driver)
    (hmem : ref ∈ stale ++ [ref']) : ref ∈ stale := by
  obtain hold | hnew := List.mem_append.mp hmem
  · exact hold
  · obtain ⟨offer, hget, -⟩ := owned.readOffer hlive
    rw [List.mem_singleton.mp hnew, ← hd, hread] at hget
    cases hget

/-- What any command does to one offer and its references. -/
theorem advance_moves (owned : s.Owned) (h : s.advance call reply = some (s', call'))
    (right : ∀ ref' page rest, call = .bookingLegacy ref' (.sweeping page rest) →
      s.answersRight ref' ((s.hgetallLegacy ref').any (·.status = .offered)) = true) :
    Moves s s' call call' ref driver := by
  cases call with
  | createHash offer ttl | createExpire offer ttl | createDriverRef offer ttl
  | createIndexRef offer ttl =>
    cases reply <;> try cases h
    exact moves_create offer ttl (by simp) rfl
  | accept ref' driver' =>
    cases reply <;> try cases h
    exact moves_accept ref' driver' rfl
  | decline ref' driver' =>
    cases reply <;> try cases h
    exact moves_decline ref' driver' rfl
  | cleanupHash ref' driver' | cleanupIndex ref' driver' | cleanupDriver ref' driver' =>
    cases reply <;> try cases h
    exact moves_cleanup ref' driver' (by simp) rfl
  | cleanupMemberHash ref' driver' rest | cleanupMemberDriver ref' driver' rest =>
    cases reply <;> try cases h
    exact moves_cleanupMember ref' driver' rest (by simp) rfl
  | acceptStatus ref' driver' =>
    cases reply <;> try cases h
    refine .of_idle rfl rfl ?_
    split <;> exact ⟨fun _ _ => rfl, fun _ _ => rfl, fun _ _ => rfl, fun _ _ => rfl⟩
  | bookingMembers ref' reader =>
    cases reply <;> try cases h
    simp only [advance, Option.ite_none_right_eq_some, Option.some.injEq, Prod.mk.injEq] at h
    obtain ⟨-, rfl, rfl⟩ := h
    exact .of_idle rfl rfl (idle_bookingEach _ _ _)
  | bookingRead ref' driver' rest reader =>
    cases reply <;> try cases h
    simp only [advance] at h
    split at h <;> simp only [Option.some.injEq, Prod.mk.injEq] at h <;> obtain ⟨rfl, rfl⟩ := h
    · exact .of_idle rfl rfl (idle_bookingAnswered _ _ _ (.inl rfl))
    · exact .of_idle rfl rfl (idle_bookingEach _ _ _)
  | bookingLegacy ref' reader =>
    cases reply <;> try cases h
    refine moves_answered ref' _ reader rfl rfl ?_
    rintro ⟨page, rest, rfl⟩
    exact right ref' page rest rfl
  | list d =>
    cases reply <;> try cases h
    simp only [advance, Option.ite_none_right_eq_some, Option.some.injEq, Prod.mk.injEq] at h
    obtain ⟨-, rfl, rfl⟩ := h
    have hlist : (OfferCall.list d).Pruning d [] := Idle.pruning
      ⟨fun _ _ => rfl, fun _ _ => rfl, fun _ _ => rfl, fun _ _ => rfl⟩ d
    exact .of_pruning hlist (pruning_listRefs _ _ _ _) (fun _ _ => id)
  | listRead d ref' rest offers stale =>
    cases reply <;> try cases h
    have hcall : (OfferCall.listRead d ref' rest offers stale).Pruning d stale :=
      ⟨fun _ _ => rfl, fun _ _ => rfl, fun _ _ => rfl, fun _ _ => rfl⟩
    simp only [advance] at h
    split at h
    · rename_i hread
      simp only [Option.some.injEq, Prod.mk.injEq] at h
      obtain ⟨rfl, rfl⟩ := h
      exact .of_pruning hcall (pruning_listRefs _ _ _ _) (not_stale owned hread)
    · split at h <;> simp only [Option.some.injEq, Prod.mk.injEq] at h <;>
        obtain ⟨rfl, rfl⟩ := h
      · exact .of_pruning hcall (pruning_listRefs _ _ _ _) (fun _ _ => id)
      · exact .of_pruning hcall (pruning_listRefs _ _ _ _) (fun _ _ => id)
  | listPrune d offers stale =>
    cases reply <;> try cases h
    exact moves_prune ⟨fun _ _ => rfl, fun _ _ => rfl, fun _ _ => rfl, fun _ _ => rfl⟩
      ⟨fun _ _ => rfl, fun _ _ => rfl, fun _ _ => rfl, fun _ _ => rfl⟩
  | cleanupMembers ref' =>
    cases reply <;> try cases h
    rename_i members
    simp only [advance, Option.ite_none_right_eq_some, Option.some.injEq, Prod.mk.injEq] at h
    obtain ⟨⟨-, hmembers⟩, rfl, rfl⟩ := h
    obtain ⟨-, -, hnone, hindex⟩ := cleanupEach_spec ref' members ref driver
    refine .of_read rfl rfl (fun _ _ hdrops => ?_) (fun _ hmem hdrops => ?_)
    · rw [hnone] at hdrops
      cases hdrops
    · rw [hindex] at hdrops
      obtain ⟨rfl, hnot⟩ := of_decide_eq_true hdrops
      rw [← hmembers] at hmem
      exact absurd (List.mem_toFinset.mp hmem) hnot
  | cleanupLegacy ref' =>
    cases reply <;> try cases h
    exact ⟨.of_not_adds nofun id (fun _ => .inl) nofun,
      .of_not_adds nofun id (fun _ => .inl) (fun _ _ => id)⟩
  | cleanupIndexKey ref' =>
    cases reply <;> try cases h
    exact moves_deleteIndex (fun _ _ => rfl) (fun _ _ => rfl) (fun _ _ => rfl)
      ⟨fun _ _ => rfl, fun _ _ => rfl, fun _ _ => rfl, fun _ _ => rfl⟩
  | sweepLock chainStart page =>
    have idle_returned : (sweepReturned page).Idle :=
      ⟨fun _ _ => rfl, fun _ _ => rfl, fun _ _ => rfl, fun _ _ => rfl⟩
    cases chainStart <;> cases reply <;> try cases h
    · refine .of_idle rfl rfl ?_
      split
      · exact idle_sweepLocked page
      · exact idle_returned
    · simp only [advance] at h
      split at h <;> simp only [Option.some.injEq, Prod.mk.injEq] at h <;> obtain ⟨rfl, rfl⟩ := h
      · exact .of_idle rfl rfl idle_returned
      · have hidle := idle_sweepLocked page
        exact ⟨.of_not_adds nofun id (fun _ => .inl)
            (fun _ _ hdrops => by simp [hidle.dropsDriver] at hdrops),
          .of_not_adds nofun id (fun _ => .inl)
            (fun _ _ hdrops => by simp [hidle.dropsIndex] at hdrops)⟩
  | sweepDriverScan page =>
    cases reply <;> try cases h
    simp only [advance, Option.ite_none_right_eq_some, Option.some.injEq, Prod.mk.injEq] at h
    obtain ⟨-, rfl, rfl⟩ := h
    exact .of_idle rfl rfl (idle_sweepDrivers _ _)
  | sweepIndexScan page =>
    cases reply <;> try cases h
    simp only [advance, Option.ite_none_right_eq_some, Option.some.injEq, Prod.mk.injEq] at h
    obtain ⟨-, rfl, rfl⟩ := h
    exact .of_idle rfl rfl (idle_sweepBookings _ _)
  | sweepDriverMembers page d rest =>
    cases reply <;> try cases h
    simp only [advance, Option.ite_none_right_eq_some, Option.some.injEq, Prod.mk.injEq] at h
    obtain ⟨-, rfl, rfl⟩ := h
    have hcall : (OfferCall.sweepDriverMembers page d rest).Pruning d [] := Idle.pruning
      ⟨fun _ _ => rfl, fun _ _ => rfl, fun _ _ => rfl, fun _ _ => rfl⟩ d
    exact .of_pruning hcall (pruning_sweepMembers _ _ _ _ _) (fun _ _ => id)
  | sweepDriverRead page d ref' members stale rest =>
    cases reply <;> try cases h
    have hcall : (OfferCall.sweepDriverRead page d ref' members stale rest).Pruning d stale :=
      ⟨fun _ _ => rfl, fun _ _ => rfl, fun _ _ => rfl, fun _ _ => rfl⟩
    refine .of_pruning hcall (pruning_sweepMembers _ _ _ _ _) ?_
    split
    · rename_i hread
      exact not_stale owned (Option.isNone_iff_eq_none.mp hread)
    · exact fun _ _ => id
  | sweepDriverPrune page d stale rest =>
    cases reply <;> try cases h
    exact moves_prune ⟨fun _ _ => rfl, fun _ _ => rfl, fun _ _ => rfl, fun _ _ => rfl⟩
      (idle_sweepDrivers _ _)
  | sweepIndexPrune page ref' rest =>
    cases reply <;> try cases h
    exact moves_deleteIndex (fun _ _ => rfl) (fun _ _ => rfl) (fun _ _ => rfl)
      (idle_sweepBookings _ _)
  | sweepUnlock result =>
    cases reply <;> try cases h
    exact ⟨.of_not_adds nofun id (fun _ => .inl) nofun,
      .of_not_adds nofun id (fun _ => .inl) nofun⟩
  | created | accepted | offerExpired | offerConflict | declined | listed | cleaned | swept
  | offerUnavailable | raised | stopped =>
    cases reply <;> cases h

end OfferStore

end Afcon360.Transport
