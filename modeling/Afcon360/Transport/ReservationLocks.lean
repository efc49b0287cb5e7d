import Afcon360.Transport.ReservationDesk

/-!
# The locks of the reservation calls

No row has two holders at any time. What the calls keep in order under these locks differs
from one property to the next; the induction over the moves does not, so it is stated once:
a condition on the tables and a condition on each call hold throughout when every call
begins in order, its statements keep it in order, and its commit keeps the tables and the
other calls in order.
-/

namespace Afcon360.Transport

open Foundation

namespace ReservationDesk

variable {context : ReservationContext} {digest : CanonicalRequest → String}
variable {s t : ReservationDesk} {place : ℕ}

theorem lockable_of_proveVehicles {request : ReservationRequest} {offering : TransportOffering}
    {ids : List ℤ} (h : request.proveVehicles context offering ids = .ok ()) :
    ∀ id ∈ ids, id ∈ lockable context ids := by
  induction ids with
  | nil => simp
  | cons id rest ih =>
    rw [ReservationRequest.proveVehicles, check_bind_eq_ok] at h
    intro other hother
    obtain rfl | hrest := List.mem_cons.mp hother
    · unfold lockable
      refine List.mem_filter.mpr ⟨List.mem_cons_self, ?_⟩
      have hvehicle := h.1
      unfold ReservationRequest.proveVehicle at hvehicle
      cases hfound : (context.vehicle other).filter (fun vehicle => !vehicle.isDeleted) with
      | none => simp [hfound] at hvehicle
      | some vehicle =>
        obtain ⟨hget, hlive⟩ := Option.filter_eq_some_iff.mp hfound
        simpa [hget] using hlive
    · have := ih h.2 other hrest
      unfold lockable at this ⊢
      exact List.mem_filter.mpr ⟨hother, (List.mem_filter.mp this).2⟩

/-- What the next statement of a creation can do. -/
inductive CreateStep (context : ReservationContext) (digest : CanonicalRequest → String)
    (s : ReservationDesk) (place : ℕ) (request : ReservationRequest) (user : ℕ)
    (offering : TransportOffering) : CreateStage → CreateStage → Prop
  | wait (stage : CreateStage) : CreateStep context digest s place request user offering stage stage
  | fail (stage : CreateStage) (error : ReservationError) :
      CreateStep context digest s place request user offering stage (.failed error)
  | replay (found : ℕ) (row : TransportReservation) :
      s.tables.lookupIdempotent user request.idempotencyKey = some found →
      s.tables.reservations[found]? = some row →
      row.requestFingerprint = digest request.canonical →
      CreateStep context digest s place request user offering .called (.returned found)
  | decide (decision : PolicyDecision) :
      request.evaluate context user = .ok decision →
      CreateStep context digest s place request user offering .called (.decided decision)
  | lockVehicles (decision : PolicyDecision) :
      request.isSpecific = true →
      (∀ id ∈ request.vehicleIds, s.free place (.vehicle id) = true) →
      CreateStep context digest s place request user offering (.decided decision)
        (.vehiclesLocked decision)
  | capacityMode (decision : PolicyDecision) :
      request.isSpecific = false →
      CreateStep context digest s place request user offering (.decided decision)
        (.vehiclesChecked decision)
  | checkVehicles (decision : PolicyDecision) :
      s.tables.vehicleTaken request.vehicleIds request.windowStart.instant
        request.windowEnd.instant = false →
      CreateStep context digest s place request user offering (.vehiclesLocked decision)
        (.vehiclesChecked decision)
  | readSupply (decision : PolicyDecision) :
      CreateStep context digest s place request user offering (.vehiclesChecked decision)
        (.supplyRead decision (s.tables.overlappingSupplies request.pool
          request.windowStart.instant request.windowEnd.instant))
  | lockSupply (decision : PolicyDecision) (rows : List SupplyRow) :
      (∀ entry ∈ rows, s.free place (.supply entry.2) = true) →
      assertContinuousCoverage request.windowEnd.instant request.windowStart.instant rows =
        .ok () →
      CreateStep context digest s place request user offering (.supplyRead decision rows)
        (.counting decision rows rows)
  | count (decision : PolicyDecision) (rows remaining : List SupplyRow) (entry : SupplyRow) :
      (min entry.1.windowEnd request.windowEnd.instant ≤
          max entry.1.windowStart request.windowStart.instant ∨
        s.tables.countCommitted request.pool
            (max entry.1.windowStart request.windowStart.instant)
            (min entry.1.windowEnd request.windowEnd.instant) + request.requiredQuantity ≤
          entry.1.totalUnits) →
      CreateStep context digest s place request user offering
        (.counting decision rows (entry :: remaining)) (.counting decision rows remaining)
  | insert (decision : PolicyDecision) (rows : List SupplyRow) (row : TransportReservation) :
      request.created digest user decision = .ok row →
      s.tables.keyUsed user request.idempotencyKey = false →
      s.free place (.key user request.idempotencyKey) = true →
      CreateStep context digest s place request user offering (.counting decision rows [])
        (.inserted rows row)

theorem createNext_step (s : ReservationDesk) (place : ℕ) (request : ReservationRequest)
    (user : ℕ) (offering : TransportOffering) (stage : CreateStage) :
    CreateStep context digest s place request user offering stage
      (s.createNext context digest place request user offering stage) := by
  cases stage with
  | called =>
    simp only [createNext]
    cases hfound : s.tables.lookupIdempotent user request.idempotencyKey with
    | some found =>
      simp only
      cases hrow : s.tables.reservations[found]? with
      | none => exact .fail _ _
      | some row =>
        by_cases hsame : row.requestFingerprint = digest request.canonical
        · rw [if_pos (by simp [hsame])]
          exact .replay found row hfound hrow hsame
        · rw [if_neg (by simp [hsame])]
          exact .fail _ _
    | none =>
      simp only
      cases hdecision : request.evaluate context user with
      | error reason => exact .fail _ _
      | ok decision => exact .decide decision hdecision
  | decided decision =>
    simp only [createNext]
    cases hmode : request.isSpecific with
    | false => exact .capacityMode decision hmode
    | true =>
      simp only [if_true]
      by_cases hfree : s.vehiclesFree place (lockable context request.vehicleIds) = true
      · rw [if_pos hfree]
        cases hprove : request.proveVehicles context offering request.vehicleIds with
        | error error => exact .fail _ _
        | ok _ =>
          refine .lockVehicles decision hmode ?_
          intro id hid
          exact List.all_eq_true.mp hfree id (lockable_of_proveVehicles hprove id hid)
      · rw [if_neg hfree]
        exact .wait _
  | vehiclesLocked decision =>
    simp only [createNext]
    by_cases htaken : s.tables.vehicleTaken request.vehicleIds request.windowStart.instant
        request.windowEnd.instant = true
    · rw [if_pos htaken]
      exact .fail _ _
    · rw [if_neg htaken]
      exact .checkVehicles decision (by simpa using htaken)
  | vehiclesChecked decision =>
    have hread : CreateStep context digest s place request user offering
        (.vehiclesChecked decision) (.supplyRead decision (s.tables.overlappingSupplies
          request.pool request.windowStart.instant request.windowEnd.instant)) :=
      .readSupply decision
    simp only [createNext]
    cases hrows : s.tables.overlappingSupplies request.pool request.windowStart.instant
        request.windowEnd.instant with
    | nil => exact .fail _ _
    | cons entry rest =>
      rw [hrows] at hread
      exact hread
  | supplyRead decision rows =>
    simp only [createNext]
    by_cases hfree : rows.all (fun entry => s.free place (.supply entry.2)) = true
    · rw [if_pos hfree]
      cases hcover : assertContinuousCoverage request.windowEnd.instant
          request.windowStart.instant rows with
      | error error => exact .fail _ _
      | ok _ => exact .lockSupply decision rows (List.all_eq_true.mp hfree) hcover
    · rw [if_neg hfree]
      exact .wait _
  | counting decision rows remaining =>
    cases remaining with
    | cons entry remaining =>
      simp only [createNext]
      by_cases hempty : min entry.1.windowEnd request.windowEnd.instant ≤
          max entry.1.windowStart request.windowStart.instant
      · rw [if_pos hempty]
        exact .count decision rows remaining entry (.inl hempty)
      · rw [if_neg hempty]
        split
        · exact .fail _ _
        · refine .count decision rows remaining entry (.inr ?_)
          omega
    | nil =>
      simp only [createNext]
      cases hcreated : request.created digest user decision with
      | error error => exact .fail _ _
      | ok row =>
        simp only
        by_cases hused : s.tables.keyUsed user request.idempotencyKey = true
        · rw [if_pos hused]
          exact .fail _ _
        · rw [if_neg hused]
          by_cases hfree : s.free place (.key user request.idempotencyKey) = true
          · rw [if_pos hfree]
            exact .insert decision rows row hcreated (by simpa using hused) hfree
          · rw [if_neg hfree]
            exact .wait _
  | inserted rows row => exact .wait _
  | created reservationId => exact .wait _
  | returned reservationId => exact .wait _
  | failed error => exact .wait _
  | rolledBack => exact .wait _

variable {row : ReservationRow}

theorem holds_createNext {s : ReservationDesk} {request : ReservationRequest} {user : ℕ}
    {offering : TransportOffering} {stage stage' : CreateStage}
    (step : CreateStep context digest s place request user offering stage stage')
    (h : stage'.holds request user row = true) :
    stage.holds request user row = true ∨ s.free place row = true := by
  cases step with
  | wait => exact .inl h
  | lockVehicles decision hmode hfree =>
    simp only [CreateStage.holds, Bool.and_eq_true, List.any_eq_true, decide_eq_true_eq] at h
    obtain ⟨-, id, hid, rfl⟩ := h
    exact .inr (hfree id hid)
  | lockSupply decision rows hfree =>
    simp only [CreateStage.holds, Bool.or_eq_true] at h
    obtain hvehicle | hsupply := h
    · exact .inl hvehicle
    · obtain ⟨entry, hentry, hrow⟩ := List.any_eq_true.mp hsupply
      rw [decide_eq_true_eq] at hrow
      exact .inr (hrow ▸ hfree entry hentry)
  | insert decision rows header hcreated hused hfree =>
    simp only [CreateStage.holds, Bool.or_eq_true, decide_eq_true_eq] at h
    obtain hold | rfl := h
    · exact .inl (by simpa only [CreateStage.holds, Bool.or_eq_true] using hold)
    · exact .inr hfree
  | capacityMode decision hmode => simp [CreateStage.holds, hmode] at h
  | fail => cases h
  | replay => cases h
  | decide => cases h
  | checkVehicles => exact .inl h
  | readSupply => exact .inl h
  | count => exact .inl h

theorem mem_of_holds_vehicles {ids : List ℤ} (hfree : s.vehiclesFree place ids = true)
    (h : ids.any (fun id => row = .vehicle id) = true) : s.free place row = true := by
  obtain ⟨id, hid, hrow⟩ := List.any_eq_true.mp h
  rw [decide_eq_true_eq] at hrow
  exact hrow ▸ List.all_eq_true.mp hfree id hid

theorem holds_cancelNext {reservationId : ℕ} {actor : Option ℕ} {stage : CancelStage}
    (h : (s.cancelNext context place reservationId actor stage).holds reservationId row = true) :
    stage.holds reservationId row = true ∨ s.free place row = true := by
  cases stage with
  | called =>
    simp only [cancelNext] at h
    split at h
    · cases h
    · split at h
      · cases h
      · split at h <;> cases h
  | read => cases h
  | listed vehicles =>
    simp only [cancelNext] at h
    split at h
    · rename_i hfree
      exact .inr (mem_of_holds_vehicles hfree h)
    · exact .inl h
  | locked vehicles =>
    simp only [cancelNext] at h
    split at h
    · cases h
    · split at h
      · rename_i hfree
        simp only [CancelStage.holds, Bool.or_eq_true, decide_eq_true_eq] at h
        obtain hvehicle | rfl := h
        · exact .inl hvehicle
        · exact .inr hfree
      · exact .inl h
  | updated vehicles => exact .inl h
  | returned => exact .inl h
  | failed error => exact .inl h
  | rolledBack => exact .inl h

theorem holds_expireNext {now : ℤ} {limit : Option ℕ} {stage : ExpiryStage}
    (h : (s.expireNext context place now limit stage).holds row = true) :
    stage.holds row = true ∨ s.free place row = true := by
  cases stage with
  | called => simp [expireNext, ExpiryStage.holds] at h
  | visiting remaining vehicles expired =>
    cases remaining with
    | nil => exact .inl h
    | cons reservationId remaining => exact .inl h
  | listed reservationId found remaining vehicles expired =>
    simp only [expireNext] at h
    split at h
    · rename_i hfree
      simp only [ExpiryStage.holds, List.any_append, Bool.or_eq_true] at h ⊢
      obtain (hvehicle | hvehicle) | hheader := h
      · exact .inl (.inl hvehicle)
      · exact .inr (mem_of_holds_vehicles hfree hvehicle)
      · exact .inl (.inr hheader)
    · exact .inl h
  | locked reservationId remaining vehicles expired =>
    simp only [expireNext] at h
    split at h
    · exact .inl h
    · split at h
      · rename_i hfree
        simp only [ExpiryStage.holds, List.any_cons, Bool.or_eq_true, decide_eq_true_eq] at h ⊢
        obtain hvehicle | rfl | hheader := h
        · exact .inl (.inl hvehicle)
        · exact .inr hfree
        · exact .inl (.inr hheader)
      · exact .inl h
  | returned => exact .inl h
  | rolledBack => exact .inl h

theorem holds_nextCall (s : ReservationDesk) (place : ℕ) (call : ReservationCall)
    (row : ReservationRow) (h : (s.nextCall context digest place call).holds row = true) :
    call.holds row = true ∨ s.free place row = true := by
  cases call with
  | create request user offering stage =>
    exact holds_createNext (createNext_step s place request user offering stage) h
  | refused request error => exact .inl h
  | cancel reservationId actor stage => exact holds_cancelNext h
  | expire now limit stage => exact holds_expireNext h
  | event reservationId event stage => cases h
  | register supply stage => cases h

theorem not_holds_abortCall (call : ReservationCall) (row : ReservationRow)
    (h : (abortCall call).holds row = true) : call.holds row = true := by
  cases call with
  | create request user offering stage =>
    cases hstage : stage.underWay <;>
      simp_all [abortCall, ReservationCall.holds, CreateStage.holds]
  | refused request error => exact h
  | cancel reservationId actor stage =>
    cases hstage : stage.underWay <;>
      simp_all [abortCall, ReservationCall.holds, CancelStage.holds]
  | expire now limit stage =>
    cases hstage : stage.underWay <;>
      simp_all [abortCall, ReservationCall.holds, ExpiryStage.holds]
  | event reservationId event stage => simp [abortCall, ReservationCall.holds] at h
  | register supply stage => simp [abortCall, ReservationCall.holds] at h

/-- The call that a move begins. -/
inductive Begins (context : ReservationContext) : Move → ReservationCall → Prop
  | refused {request : ReservationRequest} {error : ReservationError} :
      Begins context (.create request) (.refused request error)
  | create {request : ReservationRequest} {user : ℕ} {offering : TransportOffering} :
      request.check context = .ok (user, offering) →
      Begins context (.create request) (.create request user offering .called)
  | cancel {reservationId : ℕ} {actor : Option ℕ} :
      Begins context (.cancel reservationId actor) (.cancel reservationId actor .called)
  | expire {now : ℤ} {limit : Option ℕ} : Begins context (.expire now limit)
      (.expire now limit .called)
  | event {reservationId : ℕ} {event : ObligationEvent} :
      Begins context (.event reservationId event) (.event reservationId event .called)
  | unregistered {supply : ProviderOfferingSupply} {error : ReservationError} :
      Begins context (.register supply) (.register supply (.failed error))
  | register {supply : ProviderOfferingSupply} : supply.windowStart < supply.windowEnd →
      0 < supply.totalUnits →
      Begins context (.register supply) (.register { supply with isDeleted := false } .called)

theorem begins_of_beginCall {move : Move} {call : ReservationCall}
    (h : beginCall context move = some call) : Begins context move call := by
  cases move with
  | create request =>
    simp only [beginCall] at h
    split at h
    · cases h
      exact .refused
    · rename_i hcheck
      cases h
      exact .create hcheck
  | register supply =>
    simp only [beginCall] at h
    split at h
    · cases h
      exact .unregistered
    · rename_i hwindow
      split at h
      · cases h
        exact .unregistered
      · rename_i hunits
        cases h
        exact .register (not_le.mp hwindow) (not_le.mp hunits)
  | cancel reservationId actor =>
    cases h
    exact .cancel
  | expire now limit =>
    cases h
    exact .expire
  | event reservationId event =>
    cases h
    exact .event
  | next place => cases h
  | commit place => cases h
  | abort place => cases h

theorem not_holds_beginCall {move : Move} {call : ReservationCall}
    (h : beginCall context move = some call) (row : ReservationRow) : call.holds row = false := by
  cases begins_of_beginCall h <;> rfl

/-- What a commit can do. -/
inductive CommitStep (s : ReservationDesk) (place : ℕ) :
    ReservationCall → ReservationTables → ReservationCall → Prop
  | create (request : ReservationRequest) (user : ℕ) (offering : TransportOffering)
      (rows : List SupplyRow) (row : TransportReservation) :
      CommitStep s place (.create request user offering (.inserted rows row))
        (s.tables.insertReservation row request)
        (.create request user offering (.created s.tables.reservations.length))
  | cancel (reservationId : ℕ) (actor : Option ℕ) (vehicles : List ℤ) :
      CommitStep s place (.cancel reservationId actor (.updated vehicles))
        (s.tables.release .cancelled reservationId) (.cancel reservationId actor .returned)
  | expire (now : ℤ) (limit : Option ℕ) (vehicles : List ℤ) (expired : List ℕ) :
      CommitStep s place (.expire now limit (.visiting [] vehicles expired))
        (expired.foldl (fun tables id => tables.release .expired id) s.tables)
        (.expire now limit .returned)
  | event (reservationId : ℕ) (event : ObligationEvent) (seen row result : TransportReservation)
      (change : ObligationChange) :
      s.free place (.header reservationId) = true →
      s.tables.reservations[reservationId]? = some row →
      row.record (s.tables.referenceTaken reservationId change.walletTransactionReference) change =
        .ok result →
      CommitStep s place (.event reservationId event (.read seen change))
        (s.tables.putReservation reservationId result) (.event reservationId event .returned)
  | eventFailed (reservationId : ℕ) (event : ObligationEvent) (seen : TransportReservation)
      (change : ObligationChange) (error : ReservationError) :
      CommitStep s place (.event reservationId event (.read seen change)) s.tables
        (.event reservationId event (.failed error))
  | register (supply : ProviderOfferingSupply) :
      CommitStep s place (.register supply .checked)
        { s.tables with supplies := s.tables.supplies ++ [supply] } (.register supply .returned)

theorem commitCall_step {call call' : ReservationCall} {tables : ReservationTables}
    (h : s.commitCall place call = some (tables, call')) :
      CommitStep s place call tables call' := by
  cases call with
  | create request user offering stage =>
    cases stage <;> simp only [commitCall, reduceCtorEq, Option.some.injEq, Prod.mk.injEq] at h
    obtain ⟨rfl, rfl⟩ := h
    exact .create ..
  | refused request error => cases h
  | cancel reservationId actor stage =>
    cases stage <;> simp only [commitCall, reduceCtorEq, Option.some.injEq, Prod.mk.injEq] at h
    obtain ⟨rfl, rfl⟩ := h
    exact .cancel ..
  | expire now limit stage =>
    cases stage with
    | visiting remaining vehicles expired =>
      cases remaining <;>
        simp only [commitCall, reduceCtorEq, Option.some.injEq, Prod.mk.injEq] at h
      obtain ⟨rfl, rfl⟩ := h
      exact .expire ..
    | _ => cases h
  | event reservationId event stage =>
    cases stage with
    | read seen change =>
      simp only [commitCall] at h
      cases hfree : s.free place (.header reservationId) with
      | false => simp [hfree] at h
      | true =>
        simp only [hfree, if_true] at h
        cases hrow : s.tables.reservations[reservationId]? with
        | none => simp [hrow] at h
        | some row =>
          simp only [hrow] at h
          split at h
          · cases h
            exact .eventFailed ..
          · rename_i result hrecord
            cases h
            exact .event reservationId event seen row result change hfree hrow hrecord
    | _ => cases h
  | register supply stage =>
    cases stage <;> simp only [commitCall, reduceCtorEq, Option.some.injEq, Prod.mk.injEq] at h
    obtain ⟨rfl, rfl⟩ := h
    exact .register ..

theorem not_holds_commitCall {call call' : ReservationCall} {tables : ReservationTables}
    (h : s.commitCall place call = some (tables, call')) (row : ReservationRow) :
    call'.holds row = false := by
  cases commitCall_step h <;> rfl

/-- No row has two holders. -/
def Locked (s : ReservationDesk) : Prop := OneHolder ReservationCall.holds s.calls

theorem locked_after (locked : s.Locked) (move : Move) : (s.after context digest move).Locked := by
  have append : ∀ move, ({ s with calls := s.calls ++ (beginCall context move).toList } :
      ReservationDesk).Locked := by
    intro move
    cases hbegin : beginCall context move with
    | none => simpa [Locked] using locked
    | some call => exact locked.append (not_holds_beginCall hbegin)
  cases move with
  | next place =>
    simp only [after]
    cases hcall : s.calls[place]? with
    | none => exact locked
    | some call => exact locked.set hcall (fun row => holds_nextCall s place call row)
  | commit place =>
    simp only [after]
    cases hcall : s.calls[place]? with
    | none => exact locked
    | some call =>
      cases hcommit : s.commitCall place call with
      | none => simpa [hcommit] using locked
      | some found =>
        obtain ⟨tables, call'⟩ := found
        simp only [Option.bind_some, hcommit]
        refine OneHolder.set locked hcall ?_
        intro row hrow
        simp [not_holds_commitCall hcommit row] at hrow
  | abort place =>
    simp only [after]
    cases hcall : s.calls[place]? with
    | none =>
      rw [List.modify_eq_self (by simpa using hcall)]
      exact locked
    | some call =>
      rw [List.modify_eq_set_getElem? , hcall]
      exact locked.set hcall (fun row hrow => .inl (not_holds_abortCall call row hrow))
  | create request => exact append (.create request)
  | cancel reservationId actor => exact append (.cancel reservationId actor)
  | expire now limit => exact append (.expire now limit)
  | event reservationId event => exact append (.event reservationId event)
  | register supply => exact append (.register supply)

/-- What has to be shown of a condition on the tables and one on the calls, where the moves
meet a guard. -/
structure Keeps (context : ReservationContext) (digest : CanonicalRequest → String)
    (guard : ReservationDesk → Move → Prop) (P : ReservationTables → Prop)
    (Q : ReservationTables → ReservationCall → Prop) : Prop where
  begin : ∀ (s : ReservationDesk) (move : Move) (call : ReservationCall), guard s move →
    beginCall context move = some call → Q s.tables call
  next : ∀ (s : ReservationDesk) (place : ℕ) (call : ReservationCall), P s.tables →
    Q s.tables call → Q s.tables (s.nextCall context digest place call)
  abort : ∀ (tables : ReservationTables) (call : ReservationCall), Q tables call →
    Q tables (abortCall call)
  commit : ∀ (s : ReservationDesk) (place : ℕ) (call call' : ReservationCall)
    (tables : ReservationTables), guard s (.commit place) → s.Locked →
    InOrder P Q s.tables s.calls → s.calls[place]? = some call →
    s.commitCall place call = some (tables, call') →
    P tables ∧ Q tables call' ∧ ∀ q other, s.calls[q]? = some other → q ≠ place →
      Q s.tables other → Q tables other

section

variable {guard : ReservationDesk → Move → Prop} {P : ReservationTables → Prop}
variable {Q : ReservationTables → ReservationCall → Prop} {move : Move}

theorem Keeps.after (keeps : Keeps context digest guard P Q) (hguard : guard s move)
    (locked : s.Locked) (order : InOrder P Q s.tables s.calls) :
    InOrder P Q (s.after context digest move).tables (s.after context digest move).calls := by
  have append : guard s move → InOrder P Q s.tables
      (s.calls ++ (beginCall context move).toList) := by
    intro hguard
    cases hbegin : beginCall context move with
    | none => simpa using order
    | some call => exact order.append (keeps.begin s move call hguard hbegin)
  cases move with
  | next place =>
    simp only [ReservationDesk.after]
    cases hcall : s.calls[place]? with
    | none => exact order
    | some call =>
      exact order.set (keeps.next s place call order.whole (order.each place call hcall))
  | commit place =>
    simp only [ReservationDesk.after]
    cases hcall : s.calls[place]? with
    | none => exact order
    | some call =>
      cases hcommit : s.commitCall place call with
      | none => simpa [hcommit] using order
      | some found =>
        obtain ⟨tables, call'⟩ := found
        simp only [Option.bind_some, hcommit]
        obtain ⟨whole, own, others⟩ :=
          keeps.commit s place call call' tables hguard locked order hcall hcommit
        exact order.commit whole own others
  | abort place =>
    simp only [ReservationDesk.after]
    cases hcall : s.calls[place]? with
    | none =>
      rw [List.modify_eq_self (by simpa using hcall)]
      exact order
    | some call =>
      rw [List.modify_eq_set_getElem?, hcall]
      exact order.set (keeps.abort _ _ (order.each place call hcall))
  | create request => exact append hguard
  | cancel reservationId actor => exact append hguard
  | expire now limit => exact append hguard
  | event reservationId event => exact append hguard
  | register supply => exact append hguard

theorem Keeps.run (keeps : Keeps context digest guard P Q) {moves : List Move}
    (run : Run (Guarded guard (step context digest)) s moves t) (locked : s.Locked)
    (order : InOrder P Q s.tables s.calls) : t.Locked ∧ InOrder P Q t.tables t.calls := by
  refine Run.invariant (fun s => s.Locked ∧ InOrder P Q s.tables s.calls) ?_ run ⟨locked, order⟩
  rintro s move _ ⟨locked, order⟩ ⟨hguard, rfl⟩
  exact ⟨locked_after locked move, keeps.after hguard locked order⟩

theorem order_of_idle (idle : s.calls = []) (whole : P s.tables) :
    s.Locked ∧ InOrder P Q s.tables s.calls := by
  unfold Locked
  rw [idle]
  exact ⟨oneHolder_nil, .nil whole⟩

theorem Keeps.run_idle (keeps : Keeps context digest guard P Q) {moves : List Move}
    (run : Run (Guarded guard (step context digest)) s moves t) (idle : s.calls = [])
    (whole : P s.tables) : t.Locked ∧ InOrder P Q t.tables t.calls :=
  have start := order_of_idle (Q := Q) idle whole
  keeps.run run start.1 start.2

end

end ReservationDesk

end Afcon360.Transport
