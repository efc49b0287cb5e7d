import Afcon360.Transport.OfferRuns

/-!
# What a reference is for

A live offer that its driver's set names is shown when the driver lists the offers; one
that the booking's index names is gone after a cleanup of the booking. Both are said of the
call that takes its commands alone.
-/

namespace Afcon360.Transport

open Foundation OfferCall

namespace OfferStore

variable {s t : OfferStore} {ref : String} {driver : ℕ} {replies : List RedisReply}

/-- One call takes its next command while nobody else moves. -/
def Alone (state : OfferStore × OfferCall) (reply : RedisReply) (next : OfferStore × OfferCall) :
    Prop :=
  state.1.advance state.2 reply = some next

/-- Listing comes to an end, and whatever it answers contains the offer. -/
def Shows (s : OfferStore) (ref : String) (driver : ℕ) : Prop :=
  (∃ replies t offers, Run Alone (s, .list driver) replies (t, .listed offers)) ∧
  ∀ replies t offers, Run Alone (s, .list driver) replies (t, .listed offers) →
    ∃ offer ∈ offers, offer.bookingReference = ref ∧ offer.status = .offered

/-- A booking-wide cleanup comes to an end, and the hash is gone then. -/
def Clears (s : OfferStore) (ref : String) (driver : ℕ) : Prop :=
  (∃ replies t, Run Alone (s, .cleanupMembers ref) replies (t, .cleaned)) ∧
  ∀ replies t, Run Alone (s, .cleanupMembers ref) replies (t, .cleaned) →
    t.hgetall ref driver = none

/-! ## Listing -/

/-- The calls of one listing that have shown the offer or are still to read it. -/
def Showing (offer : Offer) (ref : String) (driver : ℕ) (s : OfferStore) : OfferCall → Prop
  | .list d => d = driver ∧ ref ∈ s.driverOffers driver
  | .listRead d r rest offers _ => d = driver ∧
      (ref ∈ r :: rest ∨ offer.enrichOffer s.now ∈ offers)
  | .listPrune _ offers _ | .listed offers => offer.enrichOffer s.now ∈ offers
  | _ => False

theorem showing_listRefs {offer : Offer} {refs : List String} {offers : List DriverOffer}
    {stale : List String} (h : ref ∈ refs ∨ offer.enrichOffer s.now ∈ offers) :
    Showing offer ref driver s (listRefs driver offers stale refs) := by
  unfold listRefs
  split
  · have hoffers := h.resolve_left (by simp)
    split
    · exact hoffers
    · exact hoffers
  · exact ⟨rfl, h⟩

theorem showing_advance {offer : Offer} {call call' : OfferCall} {reply : RedisReply}
    (hread : s.readOffer ref driver = some offer) (hstatus : offer.status = .offered)
    (showing : Showing offer ref driver s call) (h : s.advance call reply = some (t, call')) :
    t.readOffer ref driver = some offer ∧ Showing offer ref driver t call' := by
  cases call with
  | list d =>
    cases reply <;> try cases h
    obtain ⟨rfl, hmem⟩ := showing
    simp only [advance, Option.ite_none_right_eq_some, Option.some.injEq, Prod.mk.injEq] at h
    obtain ⟨⟨-, hmembers⟩, rfl, rfl⟩ := h
    rw [← hmembers] at hmem
    exact ⟨hread, showing_listRefs (.inl (List.mem_toFinset.mp hmem))⟩
  | listRead d r rest offers stale =>
    cases reply <;> try cases h
    obtain ⟨rfl, hshown⟩ := showing
    have later : r ≠ ref → ref ∈ rest ∨ offer.enrichOffer s.now ∈ offers := fun hne =>
      hshown.imp_left fun hmem => (List.mem_cons.mp hmem).resolve_left (Ne.symm hne)
    simp only [advance] at h
    split at h
    · rename_i hnone
      simp only [Option.some.injEq, Prod.mk.injEq] at h
      obtain ⟨rfl, rfl⟩ := h
      refine ⟨hread, showing_listRefs (later ?_)⟩
      rintro rfl
      rw [hread] at hnone
      cases hnone
    · rename_i other hother
      split at h <;> simp only [Option.some.injEq, Prod.mk.injEq] at h <;>
        obtain ⟨rfl, rfl⟩ := h
      · refine ⟨hread, showing_listRefs ?_⟩
        by_cases hr : r = ref
        · subst hr
          cases hother.symm.trans hread
          exact .inr (by simp)
        · exact (later hr).imp_right fun hmem => List.mem_append_left _ hmem
      · rename_i hnot
        refine ⟨hread, showing_listRefs (later ?_)⟩
        rintro rfl
        cases hother.symm.trans hread
        exact hnot hstatus
  | listPrune d offers stale =>
    cases reply <;> try cases h
    exact ⟨hread, showing⟩
  | listed offers => cases reply <;> cases h
  | _ => cases showing

/-- The loop of a listing comes to an end. -/
theorem listRefs_ends (s : OfferStore) (driver : ℕ) (offers : List DriverOffer)
    (stale refs : List String) :
    ∃ replies t shown, Run Alone (s, listRefs driver offers stale refs) replies
      (t, .listed shown) := by
  induction refs generalizing offers stale with
  | nil =>
    by_cases hnil : stale = []
    · exact ⟨[], s, offers, by simpa [listRefs, hnil] using Run.nil _⟩
    · refine ⟨[.ok], s.sremDriver driver stale.toFinset, offers, ?_⟩
      simp only [listRefs, hnil, if_false]
      exact Run.single rfl
  | cons ref rest ih =>
    have hadvance : ∃ offers' stale', s.advance (.listRead driver ref rest offers stale) .ok =
        some (s, listRefs driver offers' stale' rest) := by
      simp only [advance]
      split
      · exact ⟨_, _, rfl⟩
      · split
        · exact ⟨_, _, rfl⟩
        · exact ⟨_, _, rfl⟩
    obtain ⟨offers', stale', hadvance⟩ := hadvance
    obtain ⟨replies, t, shown, run⟩ := ih offers' stale'
    exact ⟨.ok :: replies, t, shown, .cons hadvance run⟩

theorem shows_of_mem (owned : s.Owned) (hlive : s.live ref driver = true)
    (hmem : ref ∈ s.driverOffers driver) : s.Shows ref driver := by
  refine ⟨?_, fun replies t offers run => ?_⟩
  · obtain ⟨replies, t, shown, run⟩ :=
      listRefs_ends s driver [] [] (s.driverOffers driver).toList
    exact ⟨.refs (s.driverOffers driver).toList :: replies, t, shown,
      .cons (by simp [Alone, advance, Finset.nodup_toList]) run⟩
  · obtain ⟨offer, hread, href, hstatus⟩ := owned.readOffer hlive
    have hstart : Showing offer ref driver s (.list driver) := ⟨rfl, hmem⟩
    have hend := run.invariant
      (fun state : OfferStore × OfferCall => state.1.readOffer ref driver = some offer ∧
        Showing offer ref driver state.1 state.2)
      (fun state reply next hstate hstep =>
        showing_advance hstate.1 hstatus hstate.2 hstep)
      ⟨hread, hstart⟩
    exact ⟨offer.enrichOffer t.now, hend.2, href, hstatus⟩

/-! ## Cleaning up a booking -/

/-- The calls of one cleanup that have removed the hash or are still to do so. -/
def Clearing (ref : String) (driver : ℕ) (s : OfferStore) : OfferCall → Prop
  | .cleanupMembers r => r = ref ∧ driver ∈ s.index ref
  | .cleanupMemberHash r d rest => r = ref ∧ (driver ∈ d :: rest ∨ s.hgetall ref driver = none)
  | .cleanupMemberDriver r _ rest => r = ref ∧ (driver ∈ rest ∨ s.hgetall ref driver = none)
  | .cleanupLegacy _ | .cleanupIndexKey _ | .cleaned => s.hgetall ref driver = none
  | _ => False

theorem clearing_cleanupEach {drivers : List ℕ}
    (h : driver ∈ drivers ∨ s.hgetall ref driver = none) :
    Clearing ref driver s (cleanupEach ref drivers) := by
  unfold cleanupEach
  split
  · exact h.resolve_left (by simp)
  · exact ⟨rfl, h⟩

theorem clearing_advance {call call' : OfferCall} {reply : RedisReply}
    (clearing : Clearing ref driver s call) (h : s.advance call reply = some (t, call')) :
    Clearing ref driver t call' := by
  cases call with
  | cleanupMembers r =>
    cases reply <;> try cases h
    obtain ⟨rfl, hmem⟩ := clearing
    simp only [advance, Option.ite_none_right_eq_some, Option.some.injEq, Prod.mk.injEq] at h
    obtain ⟨⟨-, hmembers⟩, rfl, rfl⟩ := h
    rw [← hmembers] at hmem
    exact clearing_cleanupEach (.inl (List.mem_toFinset.mp hmem))
  | cleanupMemberHash r d rest =>
    cases reply <;> try cases h
    obtain ⟨rfl, hclear⟩ := clearing
    refine ⟨rfl, ?_⟩
    by_cases hd : driver = d
    · subst hd
      exact .inr hgetall_deleteOffer_self
    · have hkey : (r, driver) ≠ (r, d) := fun heq => hd (Prod.mk.inj heq).2
      rw [hgetall_deleteOffer_ne hkey]
      exact hclear.imp_left fun hmem => (List.mem_cons.mp hmem).resolve_left hd
  | cleanupMemberDriver r d rest =>
    cases reply <;> try cases h
    obtain ⟨rfl, hclear⟩ := clearing
    exact clearing_cleanupEach hclear
  | cleanupLegacy r | cleanupIndexKey r =>
    cases reply <;> try cases h
    exact clearing
  | cleaned => cases reply <;> cases h
  | _ => cases clearing

theorem cleanupEach_ends (s : OfferStore) (ref : String) (drivers : List ℕ) :
    ∃ replies t, Run Alone (s, cleanupEach ref drivers) replies (t, .cleaned) := by
  induction drivers generalizing s with
  | nil => exact ⟨[.ok, .ok], _, .cons rfl (.single rfl)⟩
  | cons d rest ih =>
    obtain ⟨replies, t, run⟩ := ih ((s.deleteOffer ref d).sremDriver d {ref})
    exact ⟨.ok :: .ok :: replies, t, .cons rfl (.cons rfl run)⟩

theorem clears_of_mem (hmem : driver ∈ s.index ref) : s.Clears ref driver := by
  refine ⟨?_, fun replies t run => ?_⟩
  · obtain ⟨replies, t, run⟩ := cleanupEach_ends s ref (s.index ref).toList
    exact ⟨.drivers (s.index ref).toList :: replies, t,
      .cons (by simp [Alone, advance, Finset.nodup_toList]) run⟩
  · have hstart : Clearing ref driver s (.cleanupMembers ref) := ⟨rfl, hmem⟩
    exact run.invariant
      (fun state : OfferStore × OfferCall => Clearing ref driver state.1 state.2)
      (fun state reply next hstate hstep => clearing_advance hstate hstep) hstart

end OfferStore

namespace OfferSystem

/-- No offer has been made and no call is under way. The sets may name anything. -/
structure Begins (s : OfferSystem) : Prop where
  offers : ∀ key, s.store.offers key = none
  calls : s.calls = []
  log : s.log = []

variable {s t : OfferSystem} {acts : List OfferAct}

theorem Begins.logged (begins : s.Begins) : s.Logged where
  owned ref driver hash h := by simp [begins.offers] at h
  fresh ref driver hash h := by simp [begins.offers] at h
  once ref driver i j offer offer' _ hi := by simp [begins.log] at hi
  byDriver ref driver offer hmem := by simp [begins.log] at hmem

theorem Begins.referenced (begins : s.Begins) : s.Referenced := by
  have dead : ∀ ref driver, ¬ s.store.live ref driver = true := fun ref driver hlive => by
    simp [OfferStore.live, OfferStore.hgetall, OfferStore.stored, begins.offers] at hlive
  exact ⟨fun ref driver hlive => absurd hlive (dead ref driver),
    fun ref driver hlive => absurd hlive (dead ref driver)⟩

/-- In a run of orderly steps every live offer that no call is still creating is
referenced from both sides. -/
theorem referenced_of_orderly (defaultTtl : ℤ) (begins : s.Begins)
    (run : Run (Guarded (fun s a => s.orderly a = true) (Step defaultTtl)) s acts t) :
    t.Logged ∧ t.Referenced :=
  run.invariant (fun s => s.Logged ∧ s.Referenced)
    (fun _ _ _ inv h => ⟨inv.1.step h.2, inv.2.step inv.1.owned h.1 h.2⟩)
    ⟨begins.logged, begins.referenced⟩

/-- A live offer is referenced from its driver and its booking, shown and cleaned up. -/
structure Visible (s : OfferSystem) (ref : String) (driver : ℕ) : Prop where
  byDriver : ref ∈ s.store.driverOffers driver
  byBooking : driver ∈ s.store.index ref
  shown : s.store.Shows ref driver
  cleared : s.store.Clears ref driver

theorem Referenced.visible (referenced : s.Referenced) (owned : s.store.Owned) {ref : String}
    {driver : ℕ} (hlive : s.store.live ref driver = true)
    (hdone : ∀ call ∈ s.calls, call.addsIndex ref driver = false) : s.Visible ref driver := by
  have hdriver : ref ∈ s.store.driverOffers driver := by
    obtain ⟨call, hcall, hadds⟩ | ⟨hmem, -⟩ := referenced.byDriver ref driver hlive
    · have := addsIndex_of_addsDriver hadds
      simp [hdone call hcall] at this
    · exact hmem
  have hbooking : driver ∈ s.store.index ref := by
    obtain ⟨call, hcall, hadds⟩ | ⟨hmem, -⟩ := referenced.byBooking ref driver hlive
    · simp [hdone call hcall] at hadds
    · exact hmem
  exact ⟨hdriver, hbooking, OfferStore.shows_of_mem owned hlive hdriver,
    OfferStore.clears_of_mem hbooking⟩

/-- The offers in any interleaving: a driver's answer leaves the offers of other drivers
alone, an offer is accepted once for each time it was created and by its driver, and where
every step is orderly a live offer that has been created is visible. -/
theorem offer_store (defaultTtl : ℤ) (begins : s.Begins)
    (run : Run (Step defaultTtl) s acts t) :
    (∀ place reply u call driver, Step defaultTtl t (.advance place reply) u →
      t.calls[place]? = some call →
      ((∃ ref, call = .accept ref driver) ∨ ∃ ref, call = .decline ref driver) →
      ∀ ref other, other ≠ driver →
        u.store.offers (ref, other) = t.store.offers (ref, other)) ∧
    AcceptedOnce t.log ∧ AcceptedByDriver t.log ∧
    (Run (Guarded (fun s a => s.orderly a = true) (Step defaultTtl)) s acts t →
      ∀ ref driver, t.store.live ref driver = true →
        (∀ call ∈ t.calls, call.addsIndex ref driver = false) → t.Visible ref driver) := by
  have logged : t.Logged :=
    run.invariant Logged (fun _ _ _ logged h => logged.step h) begins.logged
  refine ⟨?_, logged.once, logged.byDriver, ?_⟩
  · intro place reply u call driver h hcall hanswer ref other hne
    obtain ⟨call', store, after, hcall', hadvance, rfl⟩ := step_advance h
    obtain rfl : call' = call := Option.some.inj (hcall'.symm.trans hcall)
    exact offers_of_other hanswer hadvance ref hne
  · intro orderly ref driver hlive hdone
    obtain ⟨-, referenced⟩ := referenced_of_orderly defaultTtl begins orderly
    exact referenced.visible logged.owned hlive hdone

/-- No keys at all. -/
def noOffers : OfferSystem where
  store := ⟨0, fun _ => none, fun _ => none, fun _ => ∅, fun _ => ∅, none⟩
  calls := []
  log := []

theorem noOffers_begins : noOffers.Begins := ⟨fun _ => rfl, rfl, rfl⟩

/-- One offer is created. -/
def oneOffer : List OfferAct :=
  [.start (.createOffer "BK-1" 7 3 none), .advance 0 .ok, .advance 0 .ok, .advance 0 .ok,
    .advance 0 .ok]

/-- A created offer is shown to its driver. -/
theorem offer_store_created : ∃ t, Run (Step 300) noOffers oneOffer t ∧
    AcceptedOnce t.log ∧ t.Visible "BK-1" 7 := by
  have hexec : (exec (fun s a => if s.orderly a then next 300 s a else none) noOffers
      oneOffer).any (fun t => t.store.live "BK-1" 7 && t.calls.all (!·.addsIndex "BK-1" 7)) =
        true := by decide +kernel
  obtain ⟨t, hrun, ht⟩ := (Option.any_eq_true _ _).mp hexec
  have orderly : Run (Guarded (fun s a => s.orderly a = true) (Step 300)) noOffers oneOffer t :=
    by
    refine Run.of_exec (fun _ _ _ h => ?_) hrun
    exact Option.ite_none_right_eq_some.mp h
  simp only [Bool.and_eq_true, List.all_eq_true, Bool.not_eq_true'] at ht
  obtain ⟨hlive, hdone⟩ := ht
  obtain ⟨-, honce, -, hvisible⟩ := offer_store 300 noOffers_begins orderly.of_guarded
  exact ⟨t, orderly.of_guarded, honce, hvisible orderly "BK-1" 7 hlive hdone⟩

/-- The offer expires, the driver lists the offers, and the booking is offered again before
the listing takes out the reference it found stale. -/
def offeredAgain : List OfferAct :=
  oneOffer ++ [.tick 301, .start (.listDriverOffers 7), .advance 1 (.refs ["BK-1"]),
    .advance 1 .ok, .start (.createOffer "BK-1" 7 3 none), .advance 2 .ok, .advance 2 .ok,
    .advance 2 .ok, .advance 2 .ok, .advance 1 .ok]

/-- After these commands the live offer is in no set of its driver, with no call left. -/
theorem listing_hides_offer :
    ¬ ∀ (s t : OfferSystem) (acts : List OfferAct), s.Begins → Run (Step 300) s acts t →
      ∀ ref driver, t.store.live ref driver = true →
        (∀ call ∈ t.calls, call.addsIndex ref driver = false) →
        ref ∈ t.store.driverOffers driver ∧ driver ∈ t.store.index ref := by
  intro claim
  have hexec : (exec (next 300) noOffers offeredAgain).any
      (fun t => t.store.live "BK-1" 7 && t.calls.all (!·.addsIndex "BK-1" 7) &&
        decide ("BK-1" ∉ t.store.driverOffers 7)) = true := by decide +kernel
  obtain ⟨t, hrun, ht⟩ := (Option.any_eq_true _ _).mp hexec
  simp only [Bool.and_eq_true, List.all_eq_true, Bool.not_eq_true', decide_eq_true_eq] at ht
  obtain ⟨⟨hlive, hdone⟩, hhidden⟩ := ht
  exact hhidden (claim noOffers t offeredAgain noOffers_begins
    (Run.of_exec (fun _ _ _ h => h) hrun) "BK-1" 7 hlive hdone).1

end OfferSystem

end Afcon360.Transport
