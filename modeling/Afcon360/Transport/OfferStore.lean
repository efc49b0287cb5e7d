import Afcon360.Foundation.Run
import Afcon360.Foundation.Reference
import Mathlib.Data.Finset.Basic

/-!
# The transient offers

An offer advertises a driver and a vehicle for a booking. It is a hash of its own for each
booking and driver, with a time to live, and it is referenced from two sets: the bookings
offered to the driver and the drivers offered on the booking. Each Redis command is atomic;
the operations are several commands, so calls take turns between them. Only accepting and
declining are scripts that run as one command.

A reply is what a command left open: the order in which the members of a set come, and the
page and cursor of a scan.
-/

namespace Afcon360.Transport

open Foundation

inductive OfferStatus
  | offered
  | accepted
deriving DecidableEq, Repr

/-- The fields of an offer hash. -/
structure Offer where
  bookingReference : String
  driverId : ℕ
  vehicleId : ℕ
  status : OfferStatus
  expiresAt : ℤ
deriving DecidableEq, Repr

/-- A hash and the time at which its key expires, if it has been given one. -/
structure OfferHash where
  offer : Offer
  expiry : Option ℤ
deriving DecidableEq, Repr

def OfferHash.alive (now : ℤ) (hash : OfferHash) : Bool :=
  hash.expiry.all (now < ·)

/-- The keys of the offers, with the clock of the server. -/
structure OfferStore where
  now : ℤ
  /-- `transport:offer:{booking_ref}:{driver_id}` -/
  offers : String × ℕ → Option OfferHash
  /-- `transport:offer:{booking_ref}`, read but never written -/
  legacy : String → Option OfferHash
  /-- `transport:driver:{driver_id}:offers` -/
  driverOffers : ℕ → Finset String
  /-- `transport:offer:index:booking:{booking_ref}` -/
  index : String → Finset ℕ
  /-- `transport:offer:sweep:lock`, by the time it expires -/
  sweepLock : Option ℤ

namespace OfferStore

/-! ## Commands -/

def stored (s : OfferStore) (ref : String) (driver : ℕ) : Option OfferHash :=
  (s.offers (ref, driver)).filter (OfferHash.alive s.now)

def hgetall (s : OfferStore) (ref : String) (driver : ℕ) : Option Offer :=
  (s.stored ref driver).map OfferHash.offer

def hgetallLegacy (s : OfferStore) (ref : String) : Option Offer :=
  ((s.legacy ref).filter (OfferHash.alive s.now)).map OfferHash.offer

/-- Writing the fields of a hash leaves the expiry of its key as it was. -/
def hset (s : OfferStore) (ref : String) (driver : ℕ) (offer : Offer) : OfferStore :=
  { s with
    offers := Function.update s.offers (ref, driver)
      (some ⟨offer, (s.stored ref driver).bind OfferHash.expiry⟩) }

def expire (s : OfferStore) (ref : String) (driver : ℕ) (ttl : ℤ) : OfferStore :=
  { s with
    offers := Function.update s.offers (ref, driver)
      ((s.stored ref driver).map fun hash => { hash with expiry := some (s.now + ttl) }) }

def deleteOffer (s : OfferStore) (ref : String) (driver : ℕ) : OfferStore :=
  { s with offers := Function.update s.offers (ref, driver) none }

def deleteLegacy (s : OfferStore) (ref : String) : OfferStore :=
  { s with legacy := Function.update s.legacy ref none }

def saddDriver (s : OfferStore) (driver : ℕ) (ref : String) : OfferStore :=
  { s with
    driverOffers := Function.update s.driverOffers driver (insert ref (s.driverOffers driver)) }

def sremDriver (s : OfferStore) (driver : ℕ) (refs : Finset String) : OfferStore :=
  { s with
    driverOffers := Function.update s.driverOffers driver (s.driverOffers driver \ refs) }

def saddIndex (s : OfferStore) (ref : String) (driver : ℕ) : OfferStore :=
  { s with index := Function.update s.index ref (insert driver (s.index ref)) }

def sremIndex (s : OfferStore) (ref : String) (driver : ℕ) : OfferStore :=
  { s with index := Function.update s.index ref ((s.index ref).erase driver) }

def deleteIndex (s : OfferStore) (ref : String) : OfferStore :=
  { s with index := Function.update s.index ref ∅ }

def lockHeld (s : OfferStore) : Bool :=
  s.sweepLock.any (s.now < ·)

/-! ## Scripts -/

/-- `_ACCEPT_SCRIPT` -/
def acceptScript (s : OfferStore) (ref : String) (driver : ℕ) : OfferStore × Bool :=
  match s.hgetall ref driver with
  | none => (s, false)
  | some offer =>
    if offer.status ≠ .offered then (s, false)
    else if offer.driverId ≠ driver then (s, false)
    else
      (((s.hset ref driver { offer with status := .accepted }).sremDriver driver
        {ref}).sremIndex ref driver, true)

/-- `_DECLINE_SCRIPT` -/
def declineScript (s : OfferStore) (ref : String) (driver : ℕ) : OfferStore × Bool :=
  match s.hgetall ref driver with
  | none => (s, false)
  | some offer =>
    if offer.driverId ≠ driver then (s, false)
    else (((s.sremDriver driver {ref}).sremIndex ref driver).deleteOffer ref driver, true)

/-! ## Reads -/

/-- `_read_offer`: a hash that names another driver is not read. -/
def readOffer (s : OfferStore) (ref : String) (driver : ℕ) : Option Offer :=
  (s.hgetall ref driver).filter (·.driverId = driver)

end OfferStore

/-- What `enrich_offer` shows of an offer before it looks at the booking. -/
structure DriverOffer where
  bookingReference : String
  status : OfferStatus
  expiresAt : ℤ
  ttlRemaining : ℤ
deriving DecidableEq, Repr

def Offer.enrichOffer (now : ℤ) (offer : Offer) : DriverOffer where
  bookingReference := offer.bookingReference
  status := offer.status
  expiresAt := offer.expiresAt
  ttlRemaining := if offer.expiresAt = 0 then 0 else max 0 (offer.expiresAt - now)

/-! ## Calls -/

inductive OfferRequest
  | createOffer (ref : String) (driver vehicle : ℕ) (ttl : Option ℤ)
  | acceptOffer (ref : String) (driver : ℕ)
  | declineOffer (ref : String) (driver : ℕ)
  | listDriverOffers (driver : ℕ)
  | cleanupOffer (ref : String) (driver : Option ℕ)
  | sweepExpiredPage (batchSize driverCursor indexCursor : ℤ)
deriving Repr

/-- The locals of `sweep_expired_page`. -/
structure SweepPage where
  batchSize : ℤ
  given : ℤ × ℤ
  driverCursor : ℤ
  indexCursor : ℤ
  cleared : ℕ
deriving Repr

structure SweepResult where
  cleared : ℕ
  driverCursor : ℤ
  indexCursor : ℤ
  hasMore : Bool
  batchSize : ℤ
  error : Bool
deriving DecidableEq, Repr

/-- Who reads the offer of a booking as a whole. -/
inductive BookingReader
  | accepting
  | sweeping (page : SweepPage) (rest : List String)
deriving Repr

/-- A call by the command it issues next, or by its result. -/
inductive OfferCall
  | createHash (offer : Offer) (ttl : ℤ)
  | createExpire (offer : Offer) (ttl : ℤ)
  | createDriverRef (offer : Offer) (ttl : ℤ)
  | createIndexRef (offer : Offer) (ttl : ℤ)
  | created (offer : Offer) (ttl : ℤ)
  | accept (ref : String) (driver : ℕ)
  | acceptStatus (ref : String) (driver : ℕ)
  | accepted (ref : String) (driver : ℕ)
  | offerExpired (ref : String)
  | offerConflict (ref : String)
  | decline (ref : String) (driver : ℕ)
  | declined (result : Bool)
  | bookingMembers (ref : String) (reader : BookingReader)
  | bookingRead (ref : String) (driver : ℕ) (rest : List ℕ) (reader : BookingReader)
  | bookingLegacy (ref : String) (reader : BookingReader)
  | list (driver : ℕ)
  | listRead (driver : ℕ) (ref : String) (rest : List String) (offers : List DriverOffer)
      (stale : List String)
  | listPrune (driver : ℕ) (offers : List DriverOffer) (stale : List String)
  | listed (offers : List DriverOffer)
  | cleanupHash (ref : String) (driver : ℕ)
  | cleanupIndex (ref : String) (driver : ℕ)
  | cleanupDriver (ref : String) (driver : ℕ)
  | cleanupMembers (ref : String)
  | cleanupMemberHash (ref : String) (driver : ℕ) (rest : List ℕ)
  | cleanupMemberDriver (ref : String) (driver : ℕ) (rest : List ℕ)
  | cleanupLegacy (ref : String)
  | cleanupIndexKey (ref : String)
  | cleaned
  | sweepLock (chainStart : Bool) (page : SweepPage)
  | sweepDriverScan (page : SweepPage)
  | sweepDriverMembers (page : SweepPage) (driver : ℕ) (rest : List ℕ)
  | sweepDriverRead (page : SweepPage) (driver : ℕ) (ref : String) (members stale : List String)
      (rest : List ℕ)
  | sweepDriverPrune (page : SweepPage) (driver : ℕ) (stale : List String) (rest : List ℕ)
  | sweepIndexScan (page : SweepPage)
  | sweepIndexPrune (page : SweepPage) (ref : String) (rest : List String)
  | sweepUnlock (result : SweepResult)
  | swept (result : SweepResult)
  | offerUnavailable
  | raised
  | stopped
deriving Repr

namespace OfferCall

/-- The sweep is through with both patterns: a cursor that came back to zero is passed on
as `-1`. -/
def sweepFinish (page : SweepPage) : OfferCall :=
  let driverCursor := if page.driverCursor = 0 then -1 else page.driverCursor
  let indexCursor := if page.indexCursor = 0 then -1 else page.indexCursor
  let hasMore := decide (0 ≤ driverCursor) || decide (0 ≤ indexCursor)
  let result : SweepResult :=
    ⟨page.cleared, driverCursor, indexCursor, hasMore, page.batchSize, false⟩
  if hasMore then .swept result else .sweepUnlock result

/-- The loop over the index keys of the page. -/
def sweepBookings (page : SweepPage) : List String → OfferCall
  | [] => sweepFinish page
  | ref :: rest =>
    if ref = "" then sweepBookings page rest else .bookingMembers ref (.sweeping page rest)

/-- The loop over the driver keys of the page. -/
def sweepDrivers (page : SweepPage) : List ℕ → OfferCall
  | [] =>
    if 0 ≤ page.indexCursor then .sweepIndexScan page
    else sweepBookings { page with indexCursor := -1 } []
  | driver :: rest => .sweepDriverMembers page driver rest

/-- The loop over the members of a driver key. -/
def sweepMembers (page : SweepPage) (driver : ℕ) (stale : List String) (rest : List ℕ) :
    List String → OfferCall
  | [] => if stale = [] then sweepDrivers page rest else .sweepDriverPrune page driver stale rest
  | ref :: members => .sweepDriverRead page driver ref members stale rest

/-- Past the lock of the chain. -/
def sweepLocked (page : SweepPage) : OfferCall :=
  if 0 ≤ page.driverCursor then .sweepDriverScan page
  else sweepDrivers { page with driverCursor := -1 } []

/-- Another chain is running, or this one has lost its lock. -/
def sweepReturned (page : SweepPage) : OfferCall :=
  .swept ⟨0, -1, -1, false, page.batchSize, false⟩

/-- A scan raised: the lock is given up and the error returned. -/
def sweepFailed (page : SweepPage) : OfferCall :=
  .sweepUnlock ⟨page.cleared, page.given.1, page.given.2, false, page.batchSize, true⟩

/-- The loop over the references of `list_driver_offers`. -/
def listRefs (driver : ℕ) (offers : List DriverOffer) (stale : List String) :
    List String → OfferCall
  | [] => if stale = [] then .listed offers else .listPrune driver offers stale
  | ref :: rest => .listRead driver ref rest offers stale

/-- The loop over the drivers of a booking-wide cleanup. -/
def cleanupEach (ref : String) : List ℕ → OfferCall
  | [] => .cleanupLegacy ref
  | driver :: rest => .cleanupMemberHash ref driver rest

/-- The loop over the drivers of `_booking_offer`. -/
def bookingEach (ref : String) (reader : BookingReader) : List ℕ → OfferCall
  | [] => .bookingLegacy ref reader
  | driver :: rest => .bookingRead ref driver rest reader

/-- What the reader of a booking does with the answer. -/
def bookingAnswered (ref : String) (found : Bool) : BookingReader → OfferCall
  | .accepting => if found then .offerConflict ref else .offerExpired ref
  | .sweeping page rest => if found then sweepBookings page rest else .sweepIndexPrune page ref rest

/-- The first command of a call; `defaultTtl` is the configured time to live. -/
def begin (defaultTtl now : ℤ) : OfferRequest → OfferCall
  | .createOffer ref driver vehicle ttl =>
    let ttl := (ttl.filter (· ≠ 0)).getD defaultTtl
    .createHash ⟨ref, driver, vehicle, .offered, now + ttl⟩ ttl
  | .acceptOffer ref driver => .accept ref driver
  | .declineOffer ref driver => .decline ref driver
  | .listDriverOffers driver => .list driver
  | .cleanupOffer ref (some driver) => .cleanupHash ref driver
  | .cleanupOffer ref none => .cleanupMembers ref
  | .sweepExpiredPage batchSize driverCursor indexCursor =>
    .sweepLock (decide (driverCursor ≤ 0) && decide (indexCursor ≤ 0))
      ⟨max 1 (min batchSize 200), (driverCursor, indexCursor), driverCursor, indexCursor, 0⟩

end OfferCall

/-- What a command left open and Redis answered. -/
inductive RedisReply
  | ok
  | refs (members : List String)
  | drivers (members : List ℕ)
  | driverKeys (cursor : ℕ) (keys : List ℕ)
  | indexKeys (cursor : ℕ) (keys : List String)
deriving Repr

namespace OfferStore

open OfferCall

/-- The command a call issues next. A set is read in any order, and a scan returns any
keys that exist; a call that has its result issues nothing. -/
def advance (s : OfferStore) : OfferCall → RedisReply → Option (OfferStore × OfferCall)
  | .createHash offer ttl, .ok =>
    some (s.hset offer.bookingReference offer.driverId offer, .createExpire offer ttl)
  | .createExpire offer ttl, .ok =>
    some (s.expire offer.bookingReference offer.driverId ttl, .createDriverRef offer ttl)
  | .createDriverRef offer ttl, .ok =>
    some (s.saddDriver offer.driverId offer.bookingReference, .createIndexRef offer ttl)
  | .createIndexRef offer ttl, .ok =>
    some (s.saddIndex offer.bookingReference offer.driverId, .created offer ttl)
  | .accept ref driver, .ok =>
    let (after, done) := s.acceptScript ref driver
    some (after, if done then .accepted ref driver else .acceptStatus ref driver)
  | .acceptStatus ref driver, .ok =>
    some (s, if (s.hgetall ref driver).isSome then .offerConflict ref
      else .bookingMembers ref .accepting)
  | .decline ref driver, .ok =>
    let (after, done) := s.declineScript ref driver
    some (after, .declined done)
  | .bookingMembers ref reader, .drivers members =>
    if members.Nodup ∧ members.toFinset = s.index ref then
      some (s, bookingEach ref reader members)
    else none
  | .bookingRead ref driver rest reader, .ok =>
    match s.readOffer ref driver with
    | some ⟨_, _, _, .offered, _⟩ => some (s, bookingAnswered ref true reader)
    | _ => some (s, bookingEach ref reader rest)
  | .bookingLegacy ref reader, .ok =>
    some (s, bookingAnswered ref ((s.hgetallLegacy ref).any (·.status = .offered)) reader)
  | .list driver, .refs members =>
    if members.Nodup ∧ members.toFinset = s.driverOffers driver then
      some (s, listRefs driver [] [] members)
    else none
  | .listRead driver ref rest offers stale, .ok =>
    match s.readOffer ref driver with
    | none => some (s, listRefs driver offers (stale ++ [ref]) rest)
    | some offer =>
      if offer.status = .offered then
        some (s, listRefs driver (offers ++ [offer.enrichOffer s.now]) stale rest)
      else some (s, listRefs driver offers stale rest)
  | .listPrune driver offers stale, .ok =>
    some (s.sremDriver driver stale.toFinset, .listed offers)
  | .cleanupHash ref driver, .ok => some (s.deleteOffer ref driver, .cleanupIndex ref driver)
  | .cleanupIndex ref driver, .ok => some (s.sremIndex ref driver, .cleanupDriver ref driver)
  | .cleanupDriver ref driver, .ok => some (s.sremDriver driver {ref}, .cleaned)
  | .cleanupMembers ref, .drivers members =>
    if members.Nodup ∧ members.toFinset = s.index ref then some (s, cleanupEach ref members)
    else none
  | .cleanupMemberHash ref driver rest, .ok =>
    some (s.deleteOffer ref driver, .cleanupMemberDriver ref driver rest)
  | .cleanupMemberDriver ref driver rest, .ok =>
    some (s.sremDriver driver {ref}, cleanupEach ref rest)
  | .cleanupLegacy ref, .ok => some (s.deleteLegacy ref, .cleanupIndexKey ref)
  | .cleanupIndexKey ref, .ok => some (s.deleteIndex ref, .cleaned)
  | .sweepLock true page, .ok =>
    if s.lockHeld then some (s, sweepReturned page)
    else some ({ s with sweepLock := some (s.now + 300) }, sweepLocked page)
  | .sweepLock false page, .ok =>
    some (s, if s.lockHeld then sweepLocked page else sweepReturned page)
  | .sweepDriverScan page, .driverKeys cursor keys =>
    if ∀ driver ∈ keys, s.driverOffers driver ≠ ∅ then
      some (s, sweepDrivers { page with driverCursor := cursor } keys)
    else none
  | .sweepDriverMembers page driver rest, .refs members =>
    if members.Nodup ∧ members.toFinset = s.driverOffers driver then
      some (s, sweepMembers page driver [] rest members)
    else none
  | .sweepDriverRead page driver ref members stale rest, .ok =>
    some (s, sweepMembers page driver
      (if (s.readOffer ref driver).isNone then stale ++ [ref] else stale) rest members)
  | .sweepDriverPrune page driver stale rest, .ok =>
    some (s.sremDriver driver stale.toFinset,
      sweepDrivers { page with cleared := page.cleared + stale.length } rest)
  | .sweepIndexScan page, .indexKeys cursor keys =>
    if ∀ ref ∈ keys, s.index ref ≠ ∅ then
      some (s, sweepBookings { page with indexCursor := cursor } keys)
    else none
  | .sweepIndexPrune page ref rest, .ok =>
    some (s.deleteIndex ref, sweepBookings { page with cleared := page.cleared + 1 } rest)
  | .sweepUnlock result, .ok => some ({ s with sweepLock := none }, .swept result)
  | _, _ => none

end OfferStore

namespace OfferCall

/-- The command a call issues next raises, and the store is as it was. -/
def failed : OfferCall → Option OfferCall
  | .createHash _ _ | .createExpire _ _ | .createDriverRef _ _ | .createIndexRef _ _ =>
    some .offerUnavailable
  | .accept _ _ => some .offerUnavailable
  | .acceptStatus ref _ => some (.bookingMembers ref .accepting)
  | .decline _ _ => some (.declined false)
  | .bookingMembers ref reader => some (.bookingLegacy ref reader)
  | .bookingRead ref _ rest reader => some (bookingEach ref reader rest)
  | .bookingLegacy ref reader => some (bookingAnswered ref false reader)
  | .list _ => some (.listed [])
  -- a read that raised is a read that found nothing
  | .listRead driver ref rest offers stale =>
    some (listRefs driver offers (stale ++ [ref]) rest)
  | .listPrune _ offers _ => some (.listed offers)
  | .cleanupMembers ref => some (.cleanupLegacy ref)
  | .cleanupHash _ _ | .cleanupIndex _ _ | .cleanupDriver _ _ | .cleanupMemberHash _ _ _
  | .cleanupMemberDriver _ _ _ | .cleanupLegacy _ | .cleanupIndexKey _ => some .cleaned
  | .sweepLock _ _ => some .raised
  | .sweepDriverScan page | .sweepIndexScan page => some (sweepFailed page)
  | .sweepDriverMembers page _ rest => some (sweepDrivers page rest)
  | .sweepDriverRead page driver ref members stale rest =>
    some (sweepMembers page driver (stale ++ [ref]) rest members)
  | .sweepDriverPrune page _ _ rest => some (sweepDrivers page rest)
  | .sweepIndexPrune page _ rest => some (sweepBookings page rest)
  | .sweepUnlock result => some (.swept result)
  | _ => none

end OfferCall

/-! ## The system -/

/-- What the claims about acceptance are about: a hash was written, an offer was accepted. -/
inductive OfferEvent
  | created (ref : String) (driver : ℕ)
  | accepted (ref : String) (driver : ℕ) (offer : Offer)
deriving DecidableEq, Repr

structure OfferSystem where
  store : OfferStore
  calls : List OfferCall
  log : List OfferEvent

inductive OfferAct
  | start (request : OfferRequest)
  | advance (place : ℕ) (reply : RedisReply)
  | fail (place : ℕ)
  | stop (place : ℕ)
  | tick (seconds : ℕ)
deriving Repr

/-- What the next command of a call adds to the log. -/
def OfferStore.events (s : OfferStore) : OfferCall → List OfferEvent
  | .createHash offer _ => [.created offer.bookingReference offer.driverId]
  | .accept ref driver =>
    if (s.acceptScript ref driver).2 then
      ((s.hgetall ref driver).map (OfferEvent.accepted ref driver)).toList
    else []
  | _ => []

namespace OfferSystem

def setCall (s : OfferSystem) (place : ℕ) (call : OfferCall) : OfferSystem :=
  { s with calls := s.calls.set place call }

def next (defaultTtl : ℤ) (s : OfferSystem) : OfferAct → Option OfferSystem
  | .start request =>
    some { s with calls := s.calls ++ [OfferCall.begin defaultTtl s.store.now request] }
  | .advance place reply =>
    s.calls[place]?.bind fun call =>
      (s.store.advance call reply).map fun (store, call') =>
        ⟨store, s.calls.set place call', s.log ++ s.store.events call⟩
  | .fail place => s.calls[place]?.bind fun call => call.failed.map (s.setCall place)
  | .stop place => s.calls[place]?.map fun _ => s.setCall place .stopped
  | .tick seconds => some { s with store := { s.store with now := s.store.now + seconds } }

def Step (defaultTtl : ℤ) (s : OfferSystem) (a : OfferAct) (t : OfferSystem) : Prop :=
  s.next defaultTtl a = some t

end OfferSystem

end Afcon360.Transport
