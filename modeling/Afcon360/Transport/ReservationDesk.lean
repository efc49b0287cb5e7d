import Afcon360.Foundation.Load
import Afcon360.Foundation.Run
import Afcon360.Transport.ReservationPolicy

/-!
# Reservation calls side by side

`create_reservation`, `cancel_reservation`, `apply_obligation_event`, `register_supply` and
the expiry service are transactions of several statements at the isolation level read
committed: each statement reads what is committed when it begins. A call goes on statement by
statement and takes effect at its commit; a row that it has locked or written stays locked
until it ends.

A reservation is created under two kinds of locks: on the vehicles of a specific request,
before the overlap check, and on all supply rows that meet the window, before the slices are
counted. The supply statement fixes its rows when it begins and may then wait for them. The
callback takes no lock; `register_supply` looks for overlapping slices and inserts.

Reservations, lines and slices are named by their positions in the tables.
-/

namespace Afcon360.Transport

open Foundation

/-- A declared slice of supply. -/
structure ProviderOfferingSupply where
  pool : Pool
  windowStart : ℤ
  windowEnd : ℤ
  totalUnits : ℤ
  isDeleted : Bool := false
deriving DecidableEq, Repr

structure ReservationTables where
  supplies : List ProviderOfferingSupply := []
  reservations : List TransportReservation := []
  lines : List TransportReservationLine := []
deriving DecidableEq, Repr

/-- A slice with its position. -/
abbrev SupplyRow := ProviderOfferingSupply × ℕ

namespace ReservationTables

variable (tables : ReservationTables)

/-- The header of a line is there and not deleted and meets a condition. -/
def headerOf (line : TransportReservationLine) (cond : TransportReservation → Bool) : Bool :=
  tables.reservations[line.reservationId]?.any (fun row => !row.isDeleted && cond row)

/-- An active line of a reservation that is not deleted. -/
def live (line : TransportReservationLine) : Bool :=
  line.state.active && !line.isDeleted && tables.headerOf line (fun _ => true)

/-- An active line that draws on the pool. -/
def drawsOn (pool : Pool) (line : TransportReservationLine) : Bool :=
  line.state.active && !line.isDeleted && tables.headerOf line (fun row => row.pool = pool)

/-- `_lock_overlapping_supply_rows`: the slices of the pool that meet the window. -/
def overlappingSupplies (pool : Pool) (windowStart windowEnd : ℤ) : List SupplyRow :=
  (tables.supplies.zipIdx.filter (fun entry => entry.1.pool = pool && !entry.1.isDeleted &&
      overlaps entry.1.windowStart entry.1.windowEnd windowStart windowEnd)).insertionSort
    (fun first second => first.1.windowStart ≤ second.1.windowStart)

/-- `_count_committed_in_slice`. -/
def countCommitted (pool : Pool) (sliceStart sliceEnd : ℤ) : ℕ :=
  tables.lines.countP (fun line => tables.drawsOn pool line &&
    overlaps line.windowStart line.windowEnd sliceStart sliceEnd)

/-- `_check_vehicle_overlap`: an active line of one of the vehicles meets the window. -/
def vehicleTaken (ids : List ℤ) (windowStart windowEnd : ℤ) : Bool :=
  tables.lines.any (fun line => tables.live line && line.vehicleId.any (· ∈ ids) &&
    overlaps line.windowStart line.windowEnd windowStart windowEnd)

/-- `_active_specific_vehicle_ids`. -/
def activeVehicleIds (reservationId : ℕ) : List ℤ :=
  (tables.lines.filter (fun line => line.reservationId = reservationId && line.state.active &&
    !line.isDeleted)).filterMap (fun line => line.vehicleId)

/-- `_lookup_idempotent`. -/
def lookupIdempotent (user : ℕ) (key : String) : Option ℕ :=
  tables.reservations.findIdx? (fun row => row.reservingUserId = user &&
    row.idempotencyKey = key && !row.isDeleted)

/-- The unique constraint on the user and the key has a row. -/
def keyUsed (user : ℕ) (key : String) : Bool :=
  tables.reservations.any (fun row => row.reservingUserId = user && row.idempotencyKey = key)

/-- Another reservation has the reference. -/
def referenceTaken (reservationId : ℕ) (reference : Option String) : Bool :=
  tables.reservations.zipIdx.any (fun entry => entry.2 ≠ reservationId &&
    entry.1.walletTransactionReference.isSome && entry.1.walletTransactionReference = reference)

/-- The expiry candidates, the earliest deadline first. -/
def expiryCandidates (now : ℤ) (limit : Option ℕ) : List ℕ :=
  let due := (tables.reservations.zipIdx.filter (fun entry => entry.1.expirable now)).insertionSort
    (fun first second => first.1.depositDueAt.getD 0 ≤ second.1.depositDueAt.getD 0)
  match limit with
  | none | some 0 => due.map Prod.snd
  | some limit => (due.take limit).map Prod.snd

/-- The row of a new reservation and its lines. -/
def insertReservation (row : TransportReservation) (request : ReservationRequest) :
    ReservationTables :=
  { tables with
    reservations := tables.reservations ++ [row]
    lines := tables.lines ++ request.materialiseLines tables.reservations.length }

/-- The two updates of a cancellation or an expiry: the header and its active lines. -/
def release (target : ReservationState) (reservationId : ℕ) : ReservationTables :=
  { tables with
    reservations := tables.reservations.modify reservationId
      (fun row => { row with state := target })
    lines := tables.lines.map (fun line =>
      if line.reservationId = reservationId ∧ line.state.active then
        { line with state := .cancelled }
      else line) }

def putReservation (reservationId : ℕ) (row : TransportReservation) : ReservationTables :=
  { tables with reservations := tables.reservations.set reservationId row }

end ReservationTables

/-- `_assert_continuous_coverage` from the cursor on. -/
def assertContinuousCoverage (windowEnd : ℤ) : ℤ → List SupplyRow → Except ReservationError Unit
  | cursor, [] => if cursor < windowEnd then .error (.supplyEnds cursor windowEnd) else .ok ()
  | cursor, (slice, _) :: rest =>
    if slice.windowEnd ≤ cursor then assertContinuousCoverage windowEnd cursor rest
    else if cursor < slice.windowStart then .error (.supplyGap cursor slice.windowStart)
    else if windowEnd ≤ max cursor slice.windowEnd then .ok ()
    else assertContinuousCoverage windowEnd (max cursor slice.windowEnd) rest

/-- How far the creation of a reservation is. -/
inductive CreateStage
  | called
  | decided (decision : PolicyDecision)
  | vehiclesLocked (decision : PolicyDecision)
  | vehiclesChecked (decision : PolicyDecision)
  | supplyRead (decision : PolicyDecision) (rows : List SupplyRow)
  | counting (decision : PolicyDecision) (rows remaining : List SupplyRow)
  | inserted (rows : List SupplyRow) (row : TransportReservation)
  | created (reservationId : ℕ)
  | returned (reservationId : ℕ)
  | failed (error : ReservationError)
  | rolledBack
deriving DecidableEq, Repr

/-- How far a cancellation is. -/
inductive CancelStage
  | called
  | read
  | listed (vehicles : List ℤ)
  | locked (vehicles : List ℤ)
  | updated (vehicles : List ℤ)
  | returned
  | failed (error : ReservationError)
  | rolledBack
deriving DecidableEq, Repr

/-- How far the expiry of several reservations is: those it has still to visit, the vehicles
it has locked and the reservations it has updated. -/
inductive ExpiryStage
  | called
  | visiting (remaining : List ℕ) (vehicles : List ℤ) (expired : List ℕ)
  | listed (reservationId : ℕ) (found : List ℤ) (remaining : List ℕ) (vehicles : List ℤ)
      (expired : List ℕ)
  | locked (reservationId : ℕ) (remaining : List ℕ) (vehicles : List ℤ) (expired : List ℕ)
  | returned
  | rolledBack
deriving DecidableEq, Repr

/-- How far a callback is: the row it has read and what it will write. -/
inductive EventStage
  | called
  | read (seen : TransportReservation) (change : ObligationChange)
  | returned
  | failed (error : ReservationError)
  | rolledBack
deriving DecidableEq, Repr

inductive RegisterStage
  | called
  | checked
  | returned
  | failed (error : ReservationError)
  | rolledBack
deriving DecidableEq, Repr

def CreateStage.underWay : CreateStage → Bool
  | .created _ | .returned _ | .failed _ | .rolledBack => false
  | _ => true

def CancelStage.underWay : CancelStage → Bool
  | .returned | .failed _ | .rolledBack => false
  | _ => true

def ExpiryStage.underWay : ExpiryStage → Bool
  | .returned | .rolledBack => false
  | _ => true

def EventStage.underWay : EventStage → Bool
  | .returned | .failed _ | .rolledBack => false
  | _ => true

def RegisterStage.underWay : RegisterStage → Bool
  | .returned | .failed _ | .rolledBack => false
  | _ => true

inductive ReservationCall
  | create (request : ReservationRequest) (user : ℕ) (offering : TransportOffering)
      (stage : CreateStage)
  | refused (request : ReservationRequest) (error : ReservationError)
  | cancel (reservationId : ℕ) (actor : Option ℕ) (stage : CancelStage)
  | expire (now : ℤ) (limit : Option ℕ) (stage : ExpiryStage)
  | event (reservationId : ℕ) (event : ObligationEvent) (stage : EventStage)
  | register (supply : ProviderOfferingSupply) (stage : RegisterStage)
deriving DecidableEq, Repr

inductive ReservationRow
  | vehicle (id : ℤ)
  | supply (id : ℕ)
  | header (id : ℕ)
  | key (user : ℕ) (idempotencyKey : String)
deriving DecidableEq, Repr

/-- The rows a creation has locked. -/
def CreateStage.holds (request : ReservationRequest) (user : ℕ) (row : ReservationRow) :
    CreateStage → Bool
  | .vehiclesLocked _ | .vehiclesChecked _ | .supplyRead _ _ =>
    request.isSpecific && request.vehicleIds.any (fun id => row = .vehicle id)
  | .counting _ rows _ =>
    (request.isSpecific && request.vehicleIds.any (fun id => row = .vehicle id)) ||
      rows.any (fun entry => row = .supply entry.2)
  | .inserted rows _ =>
    (request.isSpecific && request.vehicleIds.any (fun id => row = .vehicle id)) ||
      rows.any (fun entry => row = .supply entry.2) || row = .key user request.idempotencyKey
  | _ => false

def CancelStage.holds (reservationId : ℕ) (row : ReservationRow) : CancelStage → Bool
  | .locked vehicles => vehicles.any (fun id => row = .vehicle id)
  | .updated vehicles => vehicles.any (fun id => row = .vehicle id) || row = .header reservationId
  | _ => false

def ExpiryStage.holds (row : ReservationRow) : ExpiryStage → Bool
  | .visiting _ vehicles expired | .listed _ _ _ vehicles expired | .locked _ _ vehicles expired =>
    vehicles.any (fun id => row = .vehicle id) || expired.any (fun id => row = .header id)
  | _ => false

def ReservationCall.holds : ReservationCall → ReservationRow → Bool
  | .create request user _ stage, row => stage.holds request user row
  | .cancel reservationId _ stage, row => stage.holds reservationId row
  | .expire _ _ stage, row => stage.holds row
  | _, _ => false

/-- The committed tables and the calls. -/
structure ReservationDesk where
  tables : ReservationTables
  calls : List ReservationCall := []
deriving DecidableEq, Repr

namespace ReservationDesk

inductive Move
  | create (request : ReservationRequest)
  | cancel (reservationId : ℕ) (actor : Option ℕ)
  | expire (now : ℤ) (limit : Option ℕ)
  | event (reservationId : ℕ) (event : ObligationEvent)
  | register (supply : ProviderOfferingSupply)
  | next (place : ℕ)
  | commit (place : ℕ)
  | abort (place : ℕ)
deriving DecidableEq, Repr

variable (context : ReservationContext) (digest : CanonicalRequest → String)

def free (s : ReservationDesk) (place : ℕ) (row : ReservationRow) : Bool :=
  rowFree ReservationCall.holds s.calls place row

/-- The vehicles that `_lock_vehicles_for_reservation` finds. -/
def lockable (ids : List ℤ) : List ℤ :=
  ids.filter (fun id => (context.vehicle id).any (fun vehicle => !vehicle.isDeleted))

def vehiclesFree (s : ReservationDesk) (place : ℕ) (ids : List ℤ) : Bool :=
  ids.all (fun id => s.free place (.vehicle id))

/-- The next statement of a creation. -/
def createNext (s : ReservationDesk) (place : ℕ) (request : ReservationRequest) (user : ℕ)
    (offering : TransportOffering) (stage : CreateStage) : CreateStage :=
  match stage with
  -- the fast path of the key, then the policy
  | .called =>
    match s.tables.lookupIdempotent user request.idempotencyKey with
    | some found =>
      if s.tables.reservations[found]?.any (fun row =>
          row.requestFingerprint = digest request.canonical) then .returned found
      else .failed (.conflict
        "Idempotency key has already been used with a different material request")
    | none =>
      match request.evaluate context user with
      | .error reason => .failed (.permission reason)
      | .ok decision => .decided decision
  | .decided decision =>
    if request.isSpecific then
      if s.vehiclesFree place (lockable context request.vehicleIds) then
        match request.proveVehicles context offering request.vehicleIds with
        | .error error => .failed error
        | .ok () => .vehiclesLocked decision
      else stage
    else .vehiclesChecked decision
  | .vehiclesLocked decision =>
    if s.tables.vehicleTaken request.vehicleIds request.windowStart.instant
        request.windowEnd.instant then
      .failed (.conflict "Vehicle(s) already reserved for an overlapping window")
    else .vehiclesChecked decision
  | .vehiclesChecked decision =>
    match s.tables.overlappingSupplies request.pool request.windowStart.instant
        request.windowEnd.instant with
    | [] => .failed .supplyUndeclared
    | rows => .supplyRead decision rows
  | .supplyRead decision rows =>
    if rows.all (fun entry => s.free place (.supply entry.2)) then
      match assertContinuousCoverage request.windowEnd.instant request.windowStart.instant rows with
      | .error error => .failed error
      | .ok () => .counting decision rows rows
    else stage
  | .counting decision rows ((slice, _) :: remaining) =>
    let sliceStart := max slice.windowStart request.windowStart.instant
    let sliceEnd := min slice.windowEnd request.windowEnd.instant
    if sliceEnd ≤ sliceStart then .counting decision rows remaining
    else
      let available := slice.totalUnits - s.tables.countCommitted request.pool sliceStart sliceEnd
      if available < request.requiredQuantity then
        .failed (.insufficientSupply sliceStart sliceEnd request.requiredQuantity available)
      else .counting decision rows remaining
  -- the header is inserted; a key in use ends in the recovery path, whose lookup raises
  | .counting decision rows [] =>
    match request.created digest user decision with
    | .error error => .failed error
    | .ok row =>
      if s.tables.keyUsed user request.idempotencyKey then .failed .typeError
      else if s.free place (.key user request.idempotencyKey) then .inserted rows row
      else stage
  | _ => stage

/-- The next statement of a cancellation. -/
def cancelNext (s : ReservationDesk) (place : ℕ) (reservationId : ℕ) (actor : Option ℕ)
    (stage : CancelStage) : CancelStage :=
  match stage with
  | .called =>
    match s.tables.reservations[reservationId]?.filter (fun row => !row.isDeleted) with
    | none => .failed (.notFound "Reservation not found")
    | some row =>
      if ¬ actor.any (fun user => context.canAccess user row) then
        .failed (.permission "Not authorised to cancel this reservation")
      else if row.state.isTerminal then .returned
      else .read
  | .read => .listed (lockable context (s.tables.activeVehicleIds reservationId))
  | .listed vehicles => if s.vehiclesFree place vehicles then .locked vehicles else stage
  | .locked vehicles =>
    match s.tables.reservations[reservationId]?.filter TransportReservation.cancellable with
    | none => .failed (.conflict "Reservation is not in a cancellable state")
    | some _ => if s.free place (.header reservationId) then .updated vehicles else stage
  | _ => stage

/-- The next statement of the expiry service. -/
def expireNext (s : ReservationDesk) (place : ℕ) (now : ℤ) (limit : Option ℕ)
    (stage : ExpiryStage) : ExpiryStage :=
  match stage with
  | .called => .visiting (s.tables.expiryCandidates now limit) [] []
  | .visiting (reservationId :: remaining) vehicles expired =>
    .listed reservationId (lockable context (s.tables.activeVehicleIds reservationId)) remaining
      vehicles expired
  | .listed reservationId found remaining vehicles expired =>
    if s.vehiclesFree place found then
      .locked reservationId remaining (vehicles ++ found) expired
    else stage
  | .locked reservationId remaining vehicles expired =>
    match s.tables.reservations[reservationId]?.filter (TransportReservation.expirable now) with
    | none => .visiting remaining vehicles expired
    | some _ =>
      if s.free place (.header reservationId) then
        .visiting remaining vehicles (reservationId :: expired)
      else stage
  | _ => stage

/-- A callback reads the row and computes what it will write. -/
def eventNext (s : ReservationDesk) (reservationId : ℕ) (event : ObligationEvent)
    (stage : EventStage) : EventStage :=
  match stage with
  | .called =>
    match s.tables.reservations[reservationId]? with
    | none => .failed (.notFound "Reservation not found")
    | some row =>
      match row.applyObligationEvent event with
      | .error error => .failed error
      | .ok none => .returned
      | .ok (some change) => .read row change
  | _ => stage

/-- `register_supply` looks for an overlapping slice. -/
def registerNext (s : ReservationDesk) (supply : ProviderOfferingSupply) (stage : RegisterStage) :
    RegisterStage :=
  match stage with
  | .called =>
    if (s.tables.overlappingSupplies supply.pool supply.windowStart supply.windowEnd).isEmpty then
      .checked
    else .failed (.conflict "Overlapping supply declaration exists for this provider/offering")
  | _ => stage

def nextCall (s : ReservationDesk) (place : ℕ) : ReservationCall → ReservationCall
  | .create request user offering stage =>
    .create request user offering
      (s.createNext context digest place request user offering stage)
  | .refused request error => .refused request error
  | .cancel reservationId actor stage =>
    .cancel reservationId actor (s.cancelNext context place reservationId actor stage)
  | .expire now limit stage => .expire now limit (s.expireNext context place now limit stage)
  | .event reservationId event stage =>
    .event reservationId event (s.eventNext reservationId event stage)
  | .register supply stage => .register supply (s.registerNext supply stage)

/-- The tables and the call after a commit; `none` when the call has not run all its
statements or its last update waits for the row. -/
def commitCall (s : ReservationDesk) (place : ℕ) :
    ReservationCall → Option (ReservationTables × ReservationCall)
  | .create request user offering (.inserted _ row) =>
    some (s.tables.insertReservation row request,
      .create request user offering (.created s.tables.reservations.length))
  | .cancel reservationId actor (.updated _) =>
    some (s.tables.release .cancelled reservationId, .cancel reservationId actor .returned)
  | .expire now limit (.visiting [] _ expired) =>
    some (expired.foldl (fun tables id => tables.release .expired id) s.tables,
      .expire now limit .returned)
  | .event reservationId event (.read _ change) =>
    if s.free place (.header reservationId) then
      match s.tables.reservations[reservationId]? with
      | none => none
      | some row =>
        match row.record (s.tables.referenceTaken reservationId
            change.walletTransactionReference) change with
        | .error error => some (s.tables, .event reservationId event (.failed error))
        | .ok result =>
          some (s.tables.putReservation reservationId result,
            .event reservationId event .returned)
    else none
  | .register supply .checked =>
    some ({ s.tables with supplies := s.tables.supplies ++ [supply] }, .register supply .returned)
  | _ => none

/-- A call that is still under way is rolled back: a deadlock or a time-out. -/
def abortCall : ReservationCall → ReservationCall
  | .create request user offering stage =>
    .create request user offering (if stage.underWay then .rolledBack else stage)
  | .refused request error => .refused request error
  | .cancel reservationId actor stage =>
    .cancel reservationId actor (if stage.underWay then .rolledBack else stage)
  | .expire now limit stage => .expire now limit (if stage.underWay then .rolledBack else stage)
  | .event reservationId event stage =>
    .event reservationId event (if stage.underWay then .rolledBack else stage)
  | .register supply stage => .register supply (if stage.underWay then .rolledBack else stage)

/-- The call a move begins. -/
def beginCall : Move → Option ReservationCall
  | .create request =>
    match request.check context with
    | .error error => some (.refused request error)
    | .ok (user, offering) => some (.create request user offering .called)
  | .cancel reservationId actor => some (.cancel reservationId actor .called)
  | .expire now limit => some (.expire now limit .called)
  | .event reservationId event => some (.event reservationId event .called)
  | .register supply =>
    if supply.windowEnd ≤ supply.windowStart then
      some (.register supply (.failed (.validation "window_end must be > window_start")))
    else if supply.totalUnits ≤ 0 then
      some (.register supply (.failed (.validation "total_units must be > 0")))
    else some (.register { supply with isDeleted := false } .called)
  | _ => none

def after (s : ReservationDesk) (move : Move) : ReservationDesk :=
  match move with
  | .next place =>
    match s.calls[place]? with
    | none => s
    | some call => { s with calls := s.calls.set place (s.nextCall context digest place call) }
  | .commit place =>
    match s.calls[place]?.bind (s.commitCall place) with
    | none => s
    | some (tables, call) => { tables, calls := s.calls.set place call }
  | .abort place => { s with calls := s.calls.modify place abortCall }
  | move => { s with calls := s.calls ++ (beginCall context move).toList }

def step (s : ReservationDesk) (move : Move) (t : ReservationDesk) : Prop :=
  s.after context digest move = t

end ReservationDesk

end Afcon360.Transport
