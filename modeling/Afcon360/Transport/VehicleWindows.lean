import Afcon360.Transport.ReservationRows

/-!
# One vehicle, one reservation at a time

A specific request locks its vehicles before it looks for overlapping lines and keeps the
locks to its commit, so between the check and the commit no other request can add a line for
one of them. Within a request nothing compares the vehicles of the list with each other: the
lines stay apart when no list names a vehicle twice.
-/

namespace Afcon360.Transport

open Foundation

theorem overlaps_comm {start stop start' stop' : ℤ} :
    overlaps start stop start' stop' = overlaps start' stop' start stop := by
  simp [overlaps, and_comm]

/-- No two live lines of one vehicle meet. -/
def ReservationTables.Apart (tables : ReservationTables) : Prop :=
  ∀ (i j : ℕ) (first second : TransportReservationLine) (vehicle : ℤ),
    tables.lines[i]? = some first → tables.lines[j]? = some second → i ≠ j →
    tables.live first = true → tables.live second = true →
    first.vehicleId = some vehicle → second.vehicleId = some vehicle →
    overlaps first.windowStart first.windowEnd second.windowStart second.windowEnd = false

/-- Tables to start from: lines have headers and the lines of a vehicle are apart. -/
structure ReservationTables.Exclusive (tables : ReservationTables) : Prop where
  linked : tables.Linked
  apart : tables.Apart

/-- No live line of a requested vehicle meets the window. -/
def ReservationTables.VehiclesClear (tables : ReservationTables) (request : ReservationRequest) :
    Prop :=
  ∀ line ∈ tables.lines, tables.live line = true →
    ∀ vehicle ∈ request.vehicleIds, line.vehicleId = some vehicle →
      overlaps line.windowStart line.windowEnd request.windowStart.instant
        request.windowEnd.instant = false

/-- The stages after the overlap check. -/
def CreateStage.vehiclesDone : CreateStage → Bool
  | .vehiclesChecked _ | .supplyRead _ _ | .counting _ _ _ | .inserted _ _ => true
  | _ => false

/-- No vehicle twice in the list of a specific request. -/
abbrev ReservationRequest.distinctVehicles (request : ReservationRequest) : Prop :=
  request.isSpecific = true → request.vehicleIds.Nodup

/-- What a call has to be in order for the vehicles. -/
def ReservationCall.VehiclesFit (tables : ReservationTables) : ReservationCall → Prop
  | .create request _ _ stage => request.distinctVehicles ∧
      (stage.vehiclesDone = true → request.isSpecific = true → tables.VehiclesClear request)
  | _ => True

namespace ReservationDesk

/-- The requests that are made have distinct vehicles. -/
def distinctLists (_ : ReservationDesk) : Move → Prop
  | .create request => request.distinctVehicles
  | _ => True

variable {context : ReservationContext} {digest : CanonicalRequest → String}
variable {s t : ReservationDesk} {place : ℕ} {tables : ReservationTables}
variable {request : ReservationRequest}

variable {offering : TransportOffering} {user : ℕ}

theorem vehiclesClear_of_not_taken (h : tables.vehicleTaken request.vehicleIds
    request.windowStart.instant request.windowEnd.instant = false) :
      tables.VehiclesClear request := by
  intro line hline hlive vehicle hvehicle hid
  unfold ReservationTables.vehicleTaken at h
  have hnot := List.any_eq_false.mp h line hline
  simpa [hlive, hid, hvehicle] using hnot

/-- A creation that goes on keeps what its overlap check has found. -/
theorem vehiclesFit_createStep {stage stage' : CreateStage}
    (step : CreateStep context digest s place request user offering stage stage')
    (fit : (ReservationCall.create request user offering stage).VehiclesFit s.tables) :
    (ReservationCall.create request user offering stage').VehiclesFit s.tables := by
  obtain ⟨distinct, clear⟩ := fit
  refine ⟨distinct, ?_⟩
  intro hdone hspecific
  cases step with
  | wait => exact clear hdone hspecific
  | capacityMode decision hmode => simp [hmode] at hspecific
  | checkVehicles decision htaken => exact vehiclesClear_of_not_taken htaken
  | fail => cases hdone
  | replay => cases hdone
  | decide => cases hdone
  | lockVehicles => cases hdone
  | readSupply => exact clear rfl hspecific
  | lockSupply => exact clear rfl hspecific
  | count => exact clear rfl hspecific
  | insert => exact clear rfl hspecific

theorem holds_vehicle {stage : CreateStage} {vehicle : ℤ}
    (hdone : stage.vehiclesDone = true) (hspecific : request.isSpecific = true)
    (hvehicle : vehicle ∈ request.vehicleIds) :
    (ReservationCall.create request user offering stage).holds (.vehicle vehicle) = true := by
  have hany : request.vehicleIds.any (fun id => ReservationRow.vehicle vehicle = .vehicle id) =
      true := List.any_eq_true.mpr ⟨vehicle, hvehicle, by simp⟩
  cases stage <;> simp_all [CreateStage.vehiclesDone, ReservationCall.holds, CreateStage.holds]

/-- The vehicle of a new line is one of the list of a specific request. -/
theorem vehicle_of_lineVehicles {vehicle : ℤ} (h : some vehicle ∈ request.lineVehicles) :
    request.isSpecific = true ∧ vehicle ∈ request.vehicleIds := by
  unfold ReservationRequest.lineVehicles at h
  cases hspecific : request.isSpecific with
  | true => simpa [hspecific] using h
  | false => simp [hspecific] at h

theorem vehiclesClear_shrink {new : ReservationTables} (shrinks : Shrinks tables new)
    (clear : tables.VehiclesClear request) : new.VehiclesClear request := by
  obtain ⟨f, hf, kept⟩ := shrinks.lines
  intro line hline hlive vehicle hvehicle hid
  rw [hf] at hline
  obtain ⟨old, hold, rfl⟩ := List.mem_map.mp hline
  rw [(kept old).windowStart, (kept old).windowEnd]
  exact clear old hold (shrinks.live (kept old) hlive) vehicle hvehicle
    ((kept old).vehicleId.symm.trans hid)

theorem apart_shrink {new : ReservationTables} (shrinks : Shrinks tables new)
    (apart : tables.Apart) : new.Apart := by
  obtain ⟨f, hf, kept⟩ := shrinks.lines
  intro i j first second vehicle hfirst hsecond hne hlive hlive' hid hid'
  rw [hf, List.getElem?_map] at hfirst hsecond
  obtain ⟨old, hold, rfl⟩ := Option.map_eq_some_iff.mp hfirst
  obtain ⟨old', hold', rfl⟩ := Option.map_eq_some_iff.mp hsecond
  rw [(kept old).windowStart, (kept old).windowEnd, (kept old').windowStart, (kept old').windowEnd]
  exact apart i j old old' vehicle hold hold' hne (shrinks.live (kept old) hlive)
    (shrinks.live (kept old') hlive') ((kept old).vehicleId.symm.trans hid)
    ((kept old').vehicleId.symm.trans hid')

/-- A new line of a specific request meets no other line of its vehicle. -/
theorem exclusive_insert {row : TransportReservation} (whole : tables.Exclusive)
    (distinct : request.distinctVehicles)
    (clear : request.isSpecific = true → tables.VehiclesClear request) :
    (tables.insertReservation row request).Exclusive where
  linked := whole.linked.insert
  apart := by
    -- a line of the new tables is an old one with its liveness, or a new one at its place
    have found : ∀ (i : ℕ) (line : TransportReservationLine),
        (tables.insertReservation row request).lines[i]? = some line →
        (tables.insertReservation row request).live line = true →
        (i < tables.lines.length ∧ tables.lines[i]? = some line ∧ tables.live line = true) ∨
        (tables.lines.length ≤ i ∧
          (request.materialiseLines tables.reservations.length)[i - tables.lines.length]? =
            some line) := by
      intro i line hline hlive
      simp only [ReservationTables.insertReservation, List.getElem?_append] at hline
      split at hline
      · rename_i hlt
        rw [ReservationTables.live_insert_old
          (whole.linked line (List.mem_of_getElem? hline))] at hlive
        exact .inl ⟨hlt, hline, hlive⟩
      · rename_i hle
        exact .inr ⟨by omega, hline⟩
    have mixed : ∀ (first second : TransportReservationLine) (vehicle : ℤ),
        first ∈ tables.lines → tables.live first = true → first.vehicleId = some vehicle →
        second ∈ request.materialiseLines tables.reservations.length →
        second.vehicleId = some vehicle →
        overlaps first.windowStart first.windowEnd second.windowStart second.windowEnd =
          false := by
      intro first second vehicle hfirst hlive hid hsecond hid'
      obtain ⟨-, hstart, hend, hvehicle⟩ := ReservationTables.mem_materialiseLines hsecond
      rw [hid'] at hvehicle
      obtain ⟨hspecific, hmem⟩ := vehicle_of_lineVehicles hvehicle
      rw [hstart, hend]
      exact clear hspecific first hfirst hlive vehicle hmem hid
    intro i j first second vehicle hfirst hsecond hne hlive hlive' hid hid'
    rcases found i first hfirst hlive with ⟨-, hold, hlive⟩ | ⟨hle, hnew⟩ <;>
      obtain ⟨-, hold', hlive'⟩ | ⟨hle', hnew'⟩ := found j second hsecond hlive'
    · exact whole.apart i j first second vehicle hold hold' hne hlive hlive' hid hid'
    · exact mixed first second vehicle (List.mem_of_getElem? hold) hlive hid
        (List.mem_of_getElem? hnew') hid'
    · rw [overlaps_comm]
      exact mixed second first vehicle (List.mem_of_getElem? hold') hlive' hid'
        (List.mem_of_getElem? hnew) hid
    · -- two new lines of one vehicle would stand at one place of the list
      exfalso
      simp only [ReservationRequest.materialiseLines, List.getElem?_map,
        Option.map_eq_some_iff] at hnew hnew'
      obtain ⟨found, hfound, rfl⟩ := hnew
      obtain ⟨found', hfound', rfl⟩ := hnew'
      simp only at hid hid'
      subst hid
      subst hid'
      obtain ⟨hspecific, -⟩ := vehicle_of_lineVehicles (List.mem_of_getElem? hfound)
      have hnodup : request.lineVehicles.Nodup := by
        unfold ReservationRequest.lineVehicles
        rw [if_pos hspecific]
        exact (distinct hspecific).map (Option.some_injective _)
      have := (List.getElem?_inj (List.getElem?_eq_some_iff.mp hfound).1 hnodup).mp
        (hfound.trans hfound'.symm)
      omega

theorem keeps_vehicles :
    Keeps context digest distinctLists ReservationTables.Exclusive ReservationCall.VehiclesFit where
  begin := by
    intro s move call hguard hbegin
    cases begins_of_beginCall hbegin with
    | create => exact ⟨hguard, fun hdone => by cases hdone⟩
    | _ => trivial
  next := by
    intro s place call _ fit
    cases call with
    | create request user offering stage =>
      exact vehiclesFit_createStep (createNext_step s place request user offering stage) fit
    | _ => trivial
  abort := by
    intro tables call fit
    cases call with
    | create request user offering stage =>
      refine ⟨fit.1, ?_⟩
      intro hdone
      cases hstage : stage.underWay with
      | true => simp [hstage, CreateStage.vehiclesDone] at hdone
      | false =>
        rw [if_neg (by simp [hstage])] at hdone
        exact fit.2 hdone
    | _ => trivial
  commit := by
    intro s place call call' tables _ locked order hcall hcommit
    rcases commit_cases hcommit with ⟨request, user, offering, rows, row, rfl, rfl, rfl⟩ |
        ⟨supply, rfl, rfl, rfl⟩ | ⟨shrinks, hcreate, -⟩
    · obtain ⟨distinct, clear⟩ := order.each place _ hcall
      refine ⟨exclusive_insert order.whole distinct (clear rfl),
        ⟨distinct, fun hdone => by cases hdone⟩, ?_⟩
      intro q other hother hne fit
      cases other with
      | create request' user' offering' stage' =>
        refine ⟨fit.1, ?_⟩
        intro hdone hspecific line hline hlive vehicle hvehicle hid
        simp only [ReservationTables.insertReservation, List.mem_append] at hline
        rcases hline with hold | hnew
        · rw [ReservationTables.live_insert_old (order.whole.linked line hold)] at hlive
          exact fit.2 hdone hspecific line hold hlive vehicle hvehicle hid
        · -- both calls would hold the vehicle
          obtain ⟨-, -, -, hmem⟩ := ReservationTables.mem_materialiseLines hnew
          rw [hid] at hmem
          obtain ⟨hspecific', hvehicle'⟩ := vehicle_of_lineVehicles hmem
          exact (hne (locked q place _ _ _ hother hcall (holds_vehicle hdone hspecific hvehicle)
            (holds_vehicle rfl hspecific' hvehicle'))).elim
      | _ => trivial
    · exact ⟨⟨order.whole.linked, order.whole.apart⟩, trivial, fun _ other _ _ fit => by
        cases other <;> exact fit⟩
    · refine ⟨⟨order.whole.linked.shrink shrinks, apart_shrink shrinks order.whole.apart⟩, ?_, ?_⟩
      · cases call' with
        | create request user offering stage => exact (hcreate _ _ _ _ rfl).elim
        | _ => trivial
      · intro q other _ _ fit
        cases other with
        | create request user offering stage =>
          exact ⟨fit.1, fun hdone hspecific => vehiclesClear_shrink shrinks (fit.2 hdone hspecific)⟩
        | _ => trivial

/-- A specific request passes the overlap check when its window at most touches those of
the live lines of its vehicles. -/
theorem createNext_adjacent {decision : PolicyDecision}
    (h : ∀ line ∈ s.tables.lines, s.tables.live line = true →
      ∀ vehicle ∈ request.vehicleIds, line.vehicleId = some vehicle →
        line.windowEnd ≤ request.windowStart.instant ∨
          request.windowEnd.instant ≤ line.windowStart) :
    s.createNext context digest place request user offering (.vehiclesLocked decision) =
      .vehiclesChecked decision := by
  have hnot : s.tables.vehicleTaken request.vehicleIds request.windowStart.instant
      request.windowEnd.instant = false := by
    refine List.any_eq_false.mpr ?_
    intro line hline
    simp only [Bool.and_eq_true, not_and]
    rintro ⟨hlive, hvehicle⟩ hmeets
    obtain ⟨vehicle, hid, hmem⟩ := (Option.any_eq_true _ _).mp hvehicle
    simp only [overlaps, decide_eq_true_eq] at hmeets hmem
    have := h line hline hlive vehicle hmem hid
    omega
  simp [createNext, hnot]

/-- In every interleaving of calls whose specific requests name no vehicle twice, no vehicle
has two live lines that meet, and a window next to the others passes the overlap check. -/
theorem vehicle_exclusive (context : ReservationContext) (digest : CanonicalRequest → String)
    (start t : ReservationDesk) (moves : List Move) (whole : start.tables.Exclusive)
    (idle : start.calls = [])
      (run : Run (Guarded distinctLists (step context digest)) start moves t) :
    t.tables.Apart ∧
      ∀ (place : ℕ) (request : ReservationRequest) (user : ℕ) (offering : TransportOffering)
        (decision : PolicyDecision),
        (∀ line ∈ t.tables.lines, t.tables.live line = true →
          ∀ vehicle ∈ request.vehicleIds, line.vehicleId = some vehicle →
            line.windowEnd ≤ request.windowStart.instant ∨
              request.windowEnd.instant ≤ line.windowStart) →
        t.createNext context digest place request user offering (.vehiclesLocked decision) =
          .vehiclesChecked decision :=
  ⟨(keeps_vehicles.run_idle run idle whole).2.whole.apart, fun _ _ _ _ _ => createNext_adjacent⟩

/-! ## One request with a vehicle twice -/

/-- An operator with the vehicles 7 and 8 and an offering for them. -/
def operatorContext : ReservationContext where
  offering := fun code => if code = "van" then some ⟨"van", 1, 10, []⟩ else none
  vehicle := fun id =>
    if id = 7 ∨ id = 8 then
      some { isAvailable := true, ownerType := "organisation", ownerId := 3
             passengerCapacity := 6, vehicleClass := none }
    else none
  enabledPaymentMethods := canonicalPaymentMethods
  depositLeadHours := 72
  depositPercent := 20
  commercialPolicy := fun _ => none
  authorityDenied := fun _ _ => none
  canAccess := fun user row => row.reservingUserId = user

def vanPool : Pool := ⟨"organisation", 3, "van"⟩

/-- A request of a user for the given vehicles. -/
def vehicleRequest (user : ℕ) (key : String) (vehicles : List ℤ) (start stop : ℤ) :
    ReservationRequest where
  actor := some user
  offeringCode := "van"
  providerType := "organisation"
  providerId := 3
  windowStart := ⟨start, some 0⟩
  windowEnd := ⟨stop, some 0⟩
  requiredQuantity := vehicles.length
  mode := "specific"
  idempotencyKey := key
  paymentTiming := some "INVOICE"
  specificVehicleIds := some vehicles

/-- Supply is declared and a request for the vehicles is made and carried through. -/
def reserveMoves (request : ReservationRequest) (units : ℤ) : List Move :=
  [.register ⟨vanPool, 0, 1000, units, false⟩, .next 0, .commit 0,
   .create request, .next 1, .next 1, .next 1, .next 1, .next 1, .next 1, .next 1, .commit 1]

instance : (s : ReservationDesk) → (move : Move) → Decidable (distinctLists s move)
  | _, .create request => inferInstanceAs (Decidable request.distinctVehicles)
  | _, .cancel _ _ => isTrue trivial
  | _, .expire _ _ => isTrue trivial
  | _, .event _ _ => isTrue trivial
  | _, .register _ => isTrue trivial
  | _, .next _ => isTrue trivial
  | _, .commit _ => isTrue trivial
  | _, .abort _ => isTrue trivial

theorem vehicle_exclusive_pair :
    let moves := reserveMoves (vehicleRequest 1 "a" [7, 8] 100 200) 2
    let t := moves.foldl (after operatorContext fun _ => "") ⟨{}, []⟩
    t.tables.lines.length = 2 ∧ t.tables.Apart :=
  ⟨by decide +kernel, (vehicle_exclusive operatorContext (fun _ => "") ⟨{}, []⟩ _
    (reserveMoves (vehicleRequest 1 "a" [7, 8] 100 200) 2)
    ⟨by simp [ReservationTables.Linked], by simp [ReservationTables.Apart]⟩ rfl
    (Run.guarded_foldl (by decide +kernel))).1⟩

/-- A list that names the vehicle 7 twice gives it two lines with the same window. -/
theorem vehicle_reserved_twice :
    ¬ ((reserveMoves (vehicleRequest 1 "a" [7, 7] 100 200) 2).foldl
      (after operatorContext fun _ => "") ⟨{}, []⟩).tables.Apart := by
  intro apart
  have hmeet := apart 0 1 ⟨0, some 7, 100, 200, .held, false⟩ ⟨0, some 7, 100, 200, .held, false⟩ 7
    (by decide +kernel) (by decide +kernel) (by decide) (by decide +kernel) (by decide +kernel)
    rfl rfl
  simp [overlaps] at hmeet

end ReservationDesk

end Afcon360.Transport
