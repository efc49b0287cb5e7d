import Afcon360.Transport.Obligation
import Afcon360.Transport.SupplyCapacity

/-!
# Headers, lines and money agree

A reservation that takes capacity has as many active lines as it was asked for, one that has
ended has none, and its state agrees with what has been paid. Cancellation and expiry change
header and lines in one transaction under the lock of the header row, and their conditions
are checked again after any wait.

The callback computes its change from a row it has read without a lock and writes whatever
columns differ. As long as nothing else has been committed on the row between its read and
its commit it is the transition of the state machine; otherwise it can take a reservation out
of a terminal state or promote it on an obligation that is no longer there.
-/

namespace Afcon360.Transport

open Foundation

/-- A requirement that moving the obligation forward keeps. -/
def ForwardClosed (required : List ReservationObligationState) : Prop :=
  ∀ current target : ReservationObligationState, current ∈ required →
    current.rank ≤ target.rank → target ∈ required

namespace TransportReservation

/-- State, obligation and amounts of a header agree. -/
structure MoneyAgrees (row : TransportReservation) : Prop where
  reserved : row.state = .reserved → row.satisfiesReserved row.obligationState = true
  paid : row.obligationState = .paid →
    ∃ total, row.requiredTotalAmount = some total ∧ total ≤ row.amountReceived
  deposited : row.obligationState = .deposited →
    ∃ deposit, row.depositAmount = some deposit ∧ deposit ≤ row.amountReceived
  forward : ForwardClosed row.requiredObligationForReserved

/-- The lines agree with the state of a header. -/
structure LinesAgree (row : TransportReservation) (active : ℕ) : Prop where
  takes : row.state.consumesCapacity = true → active = row.requiredQuantity
  ended : row.state.isTerminal = true → active = 0

end TransportReservation

namespace ReservationTables

variable (tables : ReservationTables)

/-- The active lines of a reservation. -/
def activeLines (reservationId : ℕ) : ℕ :=
  tables.lines.countP (fun line => line.reservationId = reservationId && line.state.active &&
    !line.isDeleted)

/-- Headers, lines and money agree for every reservation that is not deleted. -/
def Agree : Prop :=
  ∀ (i : ℕ) (row : TransportReservation), tables.reservations[i]? = some row →
    row.isDeleted = false → row.MoneyAgrees ∧ row.LinesAgree (tables.activeLines i)

/-- Ended reservations of the earlier tables have kept their state. -/
def EndedSince (earlier : ReservationTables) : Prop :=
  ∀ (i : ℕ) (row : TransportReservation), earlier.reservations[i]? = some row →
    row.state.isTerminal = true →
    ∃ row', tables.reservations[i]? = some row' ∧ row'.state = row.state

/-- Tables to start from. -/
structure Coherent : Prop where
  linked : tables.Linked
  agree : tables.Agree

end ReservationTables

/-- The header of a creation under way. -/
structure TransportReservation.Fresh (row : TransportReservation) (request : ReservationRequest) :
    Prop where
  state : row.state.consumesCapacity = true
  quantity : request.lineVehicles.length = row.requiredQuantity
  money : row.MoneyAgrees

def CreateStage.MoneyFit (request : ReservationRequest) : CreateStage → Prop
  | .decided decision | .vehiclesLocked decision | .vehiclesChecked decision
  | .supplyRead decision _ | .counting decision _ _ =>
    ForwardClosed decision.requiredObligationForReserved
  | .inserted _ row => row.Fresh request
  | _ => True

/-- The reservations an expiry has updated. -/
def ExpiryStage.updated : ExpiryStage → List ℕ
  | .visiting _ _ expired | .listed _ _ _ _ expired | .locked _ _ _ expired => expired
  | _ => []

/-- What a call has to be in order for the headers. -/
def ReservationCall.HeaderFit (tables : ReservationTables) : ReservationCall → Prop
  | .create request _ _ stage => request.Checked ∧ stage.MoneyFit request
  | .cancel reservationId _ (.updated _) =>
    ∃ row, tables.reservations[reservationId]? = some row ∧ row.cancellable = true
  | .expire now _ stage => ∀ id ∈ stage.updated,
      ∃ row, tables.reservations[id]? = some row ∧ row.expirable now = true
  | .event _ callback (.read seen change) =>
    seen.applyObligationEvent callback = .ok (some change)
  | _ => True

namespace ReservationDesk

variable {context : ReservationContext} {digest : CanonicalRequest → String}
variable {s t : ReservationDesk} {place : ℕ} {tables earlier : ReservationTables}
variable {request : ReservationRequest} {row : TransportReservation}

variable {event : ObligationEvent} {reservationId : ℕ} {user : ℕ}

/-- What an allowed request requires for the state reserved is closed. -/
theorem forwardClosed_of_evaluate {decision : PolicyDecision}
    (h : request.evaluate context user = .ok decision) :
    ForwardClosed decision.requiredObligationForReserved := by
  unfold ReservationRequest.evaluate at h
  obtain ⟨timing, -, h⟩ := bind_eq_ok.mp h
  obtain ⟨-, h⟩ := check_bind_eq_ok.mp h
  obtain ⟨-, h⟩ := check_bind_eq_ok.mp h
  cases h
  intro current target hcurrent hle
  exact PaymentTiming.requiredObligation_forward hcurrent hle

theorem fresh_of_created {decision : PolicyDecision} (checked : request.Checked)
    (forward : ForwardClosed decision.requiredObligationForReserved)
    (h : request.created digest user decision = .ok row) : row.Fresh request := by
  obtain ⟨-, rfl⟩ := ReservationRequest.created_eq_ok h
  refine ⟨?_, ?_, ?_, ?_, ?_, forward⟩
  · by_cases hmem : ReservationObligationState.unpaid ∈ decision.requiredObligationForReserved <;>
      simp [hmem, ReservationState.consumesCapacity]
  · have := checked.lines
    simp only [ReservationRequest.draft]
    omega
  · intro hreserved
    by_cases hmem : ReservationObligationState.unpaid ∈ decision.requiredObligationForReserved
    · exact decide_eq_true hmem
    · simp [hmem] at hreserved
  · intro hpaid
    cases hpaid
  · intro hdeposited
    cases hdeposited

/-- The amount checks of a callback are met by what is stored. -/
theorem received_of_checkTarget {proposed : ℚ}
    {target : ReservationObligationState} (htarget : event.target = some target)
    (h : row.checkTarget event proposed = .ok ()) :
    (target = .paid → ∃ total, row.requiredTotalAmount = some total ∧
      total ≤ storedAmount proposed) ∧
    (target = .deposited → ∃ deposit, row.depositAmount = some deposit ∧
      deposit ≤ storedAmount proposed) := by
  unfold TransportReservation.checkTarget at h
  constructor
  · rintro rfl
    simp only [htarget] at h
    cases htotal : row.requiredTotalAmount with
    | none => simp [htotal] at h
    | some total =>
      refine ⟨total, rfl, le_storedAmount ?_⟩
      by_contra hlt
      simp [htotal, not_le.mp hlt] at h
  · rintro rfl
    simp only [htarget] at h
    cases hdeposit : row.depositAmount with
    | none => simp [hdeposit] at h
    | some deposit =>
      refine ⟨deposit, rfl, le_storedAmount ?_⟩
      by_contra hlt
      simp [hdeposit, not_le.mp hlt] at h

/-- A callback that finds the row as it has read it is a transition of the state machine. -/
theorem agrees_of_event {change : ObligationChange} {taken : Bool}
    {result : TransportReservation} (money : row.MoneyAgrees)
    (hevent : row.applyObligationEvent event = .ok (some change))
    (hrecord : row.record taken change = .ok result) :
    result.MoneyAgrees ∧ (row.state.isTerminal = true → result.state = row.state) ∧
      ∀ active, row.LinesAgree active → result.LinesAgree active := by
  unfold TransportReservation.record at hrecord
  split at hrecord
  · cases hrecord
  split at hrecord
  · cases hrecord
    exact ⟨money, fun _ => rfl, fun _ h => h⟩
  cases hrecord
  obtain ⟨proposed, passes, -, ⟨-, hnone⟩ | ⟨target, -, htarget, reach, hchange⟩⟩ :=
    TransportReservation.applyObligationEvent_eq_ok hevent
  · cases hnone
  cases hchange
  obtain ⟨hpaid, hdeposited⟩ := received_of_checkTarget htarget passes.target
  have hrank : row.obligationState.rank ≤ target.rank := by
    obtain rfl | hlt := reach
    · exact le_refl _
    · exact hlt.le
  have hstate : ((row.obligationChange event target proposed).apply row).state = row.state ∨
      (row.state = .held ∧ row.satisfiesReserved target = true ∧
        ((row.obligationChange event target proposed).apply row).state = .reserved) := by
    simp only [TransportReservation.obligationChange, ObligationChange.apply]
    by_cases hpromote : row.state = .held ∧ row.satisfiesReserved target = true
    · rw [if_pos hpromote]
      exact .inr ⟨hpromote.1, hpromote.2, rfl⟩
    · rw [if_neg hpromote]
      exact .inl rfl
  refine ⟨⟨?_, ?_, ?_, money.forward⟩, ?_, ?_⟩
  · rw [TransportReservation.apply_obligationState]
    intro hreserved
    obtain hsame | ⟨-, hsat, -⟩ := hstate
    · have hbefore := money.reserved (hsame.symm.trans hreserved)
      exact decide_eq_true (money.forward _ target (of_decide_eq_true hbefore) hrank)
    · exact hsat
  · rw [TransportReservation.apply_obligationState, TransportReservation.apply_amountReceived]
    exact hpaid
  · rw [TransportReservation.apply_obligationState, TransportReservation.apply_amountReceived]
    exact hdeposited
  · intro hterm
    obtain hsame | ⟨hheld, -, -⟩ := hstate
    · exact hsame
    · simp [hheld, ReservationState.isTerminal] at hterm
  · intro active lines
    obtain hsame | ⟨hheld, -, hreserved⟩ := hstate
    · refine ⟨?_, ?_⟩ <;> rw [hsame]
      · exact lines.takes
      · exact lines.ended
    · refine ⟨fun _ => lines.takes (by rw [hheld]; rfl), ?_⟩
      rw [hreserved]
      intro hterm
      cases hterm

/-! ## Releases -/

theorem foldl_release_eq (target : ReservationState) (ids : List ℕ) (tables : ReservationTables) :
    (∀ i : ℕ, (ids.foldl (fun tables id => tables.release target id) tables).reservations[i]? =
      if i ∈ ids then (tables.reservations[i]?).map (fun row => { row with state := target })
      else tables.reservations[i]?) ∧
    ∀ i : ℕ, (ids.foldl (fun tables id => tables.release target id) tables).activeLines i =
      if i ∈ ids then 0 else tables.activeLines i := by
  induction ids generalizing tables with
  | nil => exact ⟨fun i => by simp, fun i => by simp⟩
  | cons id rest ih =>
    obtain ⟨hrows, hlines⟩ := ih (tables.release target id)
    have hrow : ∀ i : ℕ, (tables.release target id).reservations[i]? =
        if i = id then (tables.reservations[i]?).map (fun row => { row with state := target })
        else tables.reservations[i]? := by
      intro i
      simp only [ReservationTables.release, List.getElem?_modify]
      by_cases hi : i = id
      · simp [hi]
      · simp [hi, Ne.symm hi]
    have hactive : ∀ i : ℕ, (tables.release target id).activeLines i =
        if i = id then 0 else tables.activeLines i := by
      intro i
      simp only [ReservationTables.activeLines, ReservationTables.release, List.countP_map]
      by_cases hi : i = id
      · rw [if_pos hi]
        refine List.countP_eq_zero.mpr ?_
        intro line _ htrue
        simp only [Function.comp_apply, hi] at htrue
        split at htrue
        · simp [LineState.active] at htrue
        · rename_i hnot
          simp only [Bool.and_eq_true, decide_eq_true_eq] at htrue
          exact hnot htrue.1
      · rw [if_neg hi]
        refine List.countP_congr ?_
        intro line _
        simp only [Function.comp_apply]
        split
        · rename_i hline
          simp [hline.1, Ne.symm hi]
        · rfl
    refine ⟨?_, ?_⟩
    · intro i
      rw [List.foldl_cons, hrows, hrow]
      by_cases hi : i = id <;> by_cases hrest : i ∈ rest <;> simp [hi, hrest, Function.comp_def]
    · intro i
      rw [List.foldl_cons, hlines, hactive]
      by_cases hi : i = id <;> by_cases hrest : i ∈ rest <;> simp [hi, hrest]

/-- Reservations that have not ended end with their lines. -/
theorem coherent_release {target : ReservationState} (ids : List ℕ)
    (hterm : target.isTerminal = true) (whole : tables.Coherent) (since : tables.EndedSince earlier)
    (live : ∀ id ∈ ids, ∃ row, tables.reservations[id]? = some row ∧ row.state.isTerminal = false) :
    (ids.foldl (fun tables id => tables.release target id) tables).Coherent ∧
      (ids.foldl (fun tables id => tables.release target id) tables).EndedSince earlier := by
  obtain ⟨hrows, hlines⟩ := foldl_release_eq target ids tables
  refine ⟨⟨whole.linked.shrink (.foldl_release tables target ids), ?_⟩, ?_⟩
  · intro i row hrow hdel
    rw [hrows] at hrow
    rw [hlines]
    by_cases hi : i ∈ ids
    · rw [if_pos hi] at hrow ⊢
      obtain ⟨old, hold, rfl⟩ := Option.map_eq_some_iff.mp hrow
      obtain ⟨money, -⟩ := whole.agree i old hold hdel
      refine ⟨⟨?_, money.paid, money.deposited, money.forward⟩, ?_, fun _ => rfl⟩
      · rintro rfl
        cases hterm
      · intro htakes
        simp [ReservationState.not_isTerminal_of_consumesCapacity htakes] at hterm
    · rw [if_neg hi] at hrow ⊢
      exact whole.agree i row hrow hdel
  · intro i row hrow hended
    obtain ⟨row', hrow', hsame⟩ := since i row hrow hended
    refine ⟨row', ?_, hsame⟩
    rw [hrows, if_neg]
    · exact hrow'
    · intro hi
      obtain ⟨other, hother, hlive⟩ := live i hi
      cases hother.symm.trans hrow'
      rw [hsame, hended] at hlive
      cases hlive

theorem coherent_insert (whole : tables.Coherent) (since : tables.EndedSince earlier)
    (fresh : row.Fresh request) :
    (tables.insertReservation row request).Coherent ∧
      (tables.insertReservation row request).EndedSince earlier := by
  have hactive : ∀ i : ℕ, (tables.insertReservation row request).activeLines i =
      tables.activeLines i + if i = tables.reservations.length then request.lineVehicles.length
        else 0 := by
    intro i
    simp only [ReservationTables.activeLines, ReservationTables.insertReservation,
      List.countP_append, ReservationRequest.materialiseLines, List.countP_map]
    congr 1
    by_cases hi : i = tables.reservations.length
    · rw [if_pos hi]
      simp [hi, Function.comp_def, LineState.active]
    · rw [if_neg hi]
      simp [Ne.symm hi, Function.comp_def]
  refine ⟨⟨whole.linked.insert, ?_⟩, ?_⟩
  · intro i header hheader hdel
    rw [hactive]
    obtain hold | ⟨rfl, rfl⟩ := getElem?_append_cases hheader
    · have hlt := (List.getElem?_eq_some_iff.mp hold).1
      rw [if_neg (by omega), Nat.add_zero]
      exact whole.agree i header hold hdel
    · have hnone : tables.activeLines tables.reservations.length = 0 := by
        refine List.countP_eq_zero.mpr ?_
        intro line hline htrue
        have := whole.linked line hline
        simp only [Bool.and_eq_true, decide_eq_true_eq] at htrue
        omega
      rw [hnone, if_pos rfl, Nat.zero_add]
      refine ⟨fresh.money, fun _ => fresh.quantity, ?_⟩
      intro hterm
      simp [ReservationState.not_isTerminal_of_consumesCapacity fresh.state] at hterm
  · intro i header hheader hended
    obtain ⟨row', hrow', hsame⟩ := since i header hheader hended
    refine ⟨row', ?_, hsame⟩
    exact (List.getElem?_append_left (List.getElem?_eq_some_iff.mp hrow').1).trans hrow'

theorem coherent_event {change : ObligationChange} {taken : Bool}
    {result : TransportReservation} (whole : tables.Coherent)
    (since : tables.EndedSince earlier) (hrow : tables.reservations[reservationId]? = some row)
    (hevent : row.applyObligationEvent event = .ok (some change))
    (hrecord : row.record taken change = .ok result) :
    (tables.putReservation reservationId result).Coherent ∧
      (tables.putReservation reservationId result).EndedSince earlier := by
  have hterms := TransportReservation.record_terms hrecord
  have hlines : ∀ i, (tables.putReservation reservationId result).activeLines i =
      tables.activeLines i := fun _ => rfl
  refine ⟨⟨whole.linked.shrink (.putReservation hrow hterms), ?_⟩, ?_⟩
  · intro i header hheader hdel
    rw [hlines]
    obtain ⟨rfl, rfl⟩ | ⟨_, hold⟩ := getElem?_set_cases hheader
    · rw [TransportReservation.isDeleted_of_terms hterms] at hdel
      obtain ⟨money, lines⟩ := whole.agree i row hrow hdel
      obtain ⟨money', -, keeps⟩ := agrees_of_event money hevent hrecord
      exact ⟨money', keeps _ lines⟩
    · exact whole.agree i header hold hdel
  · intro i header hheader hended
    obtain ⟨row', hrow', hsame⟩ := since i header hheader hended
    by_cases hi : i = reservationId
    · subst hi
      cases hrow.symm.trans hrow'
      refine ⟨result, List.getElem?_set_self (List.getElem?_eq_some_iff.mp hrow).1, ?_⟩
      obtain ⟨_, passes, -⟩ := TransportReservation.applyObligationEvent_eq_ok hevent
      obtain ⟨money, -⟩ := whole.agree i row hrow passes.present
      rw [← hsame]
      exact (agrees_of_event money hevent hrecord).2.1 (by rw [hsame, hended])
    · exact ⟨row', (List.getElem?_set_ne (Ne.symm hi)).trans hrow', hsame⟩

/-- A call keeps its headers when the rows that it has locked stay. -/
theorem headerFit_of_rows {call : ReservationCall} {new : ReservationTables}
    (fit : call.HeaderFit tables)
    (rows : ∀ (i : ℕ) (row : TransportReservation), call.holds (.header i) = true →
      tables.reservations[i]? = some row → new.reservations[i]? = some row) :
    call.HeaderFit new := by
  cases call with
  | cancel reservationId actor stage =>
    cases stage with
    | updated vehicles =>
      obtain ⟨row, hrow, hcond⟩ := fit
      refine ⟨row, rows _ row ?_ hrow, hcond⟩
      simp [ReservationCall.holds, CancelStage.holds]
    | _ => trivial
  | expire now limit stage =>
    intro id hid
    obtain ⟨row, hrow, hcond⟩ := fit id hid
    refine ⟨row, rows _ row ?_ hrow, hcond⟩
    cases stage <;> simp_all [ReservationCall.holds, ExpiryStage.holds, ExpiryStage.updated]
  | create request user offering stage => exact fit
  | refused request error => trivial
  | event reservationId callback stage => cases stage <;> exact fit
  | register supply stage => trivial

/-- At the commit of a callback the row is as the callback has read it. -/
def unchangedSinceRead (s : ReservationDesk) : Move → Bool
  | .commit place =>
    match s.calls[place]? with
    | some (.event reservationId _ (.read seen _)) =>
      s.tables.reservations[reservationId]? = some seen
    | _ => true
  | _ => true

theorem headerFit_createStep {offering : TransportOffering}
    {stage stage' : CreateStage} (checked : request.Checked)
    (step : CreateStep context digest s place request user offering stage stage')
    (fit : stage.MoneyFit request) : stage'.MoneyFit request := by
  cases step with
  | wait => exact fit
  | decide decision hdecision => exact forwardClosed_of_evaluate hdecision
  | insert decision rows row hcreated => exact fresh_of_created checked fit hcreated
  | fail => trivial
  | replay => trivial
  | lockVehicles => exact fit
  | capacityMode => exact fit
  | checkVehicles => exact fit
  | readSupply => exact fit
  | lockSupply => exact fit
  | count => exact fit

theorem headerFit_cancelNext {actor : Option ℕ} {stage : CancelStage}
    (fit : (ReservationCall.cancel reservationId actor stage).HeaderFit s.tables) :
    (ReservationCall.cancel reservationId actor
      (s.cancelNext context place reservationId actor stage)).HeaderFit s.tables := by
  cases stage with
  | called =>
    simp only [cancelNext]
    split
    · trivial
    · split
      · trivial
      · split <;> trivial
  | read => trivial
  | listed vehicles =>
    simp only [cancelNext]
    split <;> trivial
  | locked vehicles =>
    simp only [cancelNext]
    split
    · trivial
    · rename_i row hfound
      split
      · exact ⟨row, Option.filter_eq_some_iff.mp hfound⟩
      · trivial
  | updated vehicles => exact fit
  | returned => trivial
  | failed error => trivial
  | rolledBack => trivial

theorem headerFit_expireNext {now : ℤ} {limit : Option ℕ} {stage : ExpiryStage}
    (fit : (ReservationCall.expire now limit stage).HeaderFit s.tables) :
    (ReservationCall.expire now limit
      (s.expireNext context place now limit stage)).HeaderFit s.tables := by
  intro id hid
  cases stage with
  | called => cases hid
  | visiting remaining vehicles expired =>
    cases remaining <;> exact fit id hid
  | listed reservationId found remaining vehicles expired =>
    simp only [expireNext] at hid
    split at hid <;> exact fit id hid
  | locked reservationId remaining vehicles expired =>
    simp only [expireNext] at hid
    split at hid
    · exact fit id hid
    · rename_i row hfound
      split at hid
      · obtain rfl | hrest := List.mem_cons.mp hid
        · exact ⟨row, Option.filter_eq_some_iff.mp hfound⟩
        · exact fit id hrest
      · exact fit id hid
  | returned => exact fit id hid
  | rolledBack => exact fit id hid

theorem headerFit_eventNext {callback : ObligationEvent} {stage : EventStage}
    (fit : (ReservationCall.event reservationId callback stage).HeaderFit s.tables) :
    (ReservationCall.event reservationId callback
      (s.eventNext reservationId callback stage)).HeaderFit s.tables := by
  cases stage with
  | called =>
    simp only [eventNext]
    split
    · trivial
    · split
      · trivial
      · trivial
      · rename_i hchange
        exact hchange
  | read seen change => exact fit
  | returned => trivial
  | failed error => trivial
  | rolledBack => trivial

theorem not_isTerminal_of_expirable {now : ℤ} (h : row.expirable now = true) :
    row.state.isTerminal = false := by
  unfold TransportReservation.expirable at h
  simp only [Bool.and_eq_true, decide_eq_true_eq] at h
  rw [h.1.1.1]
  rfl

theorem not_isTerminal_of_cancellable (h : row.cancellable = true) :
    row.state.isTerminal = false := by
  unfold TransportReservation.cancellable at h
  rw [Bool.and_eq_true] at h
  exact ReservationState.not_isTerminal_of_consumesCapacity h.1

theorem keeps_coherent (earlier : ReservationTables) :
    Keeps context digest (fun s move => unchangedSinceRead s move = true)
      (fun tables => tables.Coherent ∧ tables.EndedSince earlier) ReservationCall.HeaderFit where
  begin := by
    intro s move call _ hbegin
    cases begins_of_beginCall hbegin with
    | create hcheck => exact ⟨ReservationRequest.checked_of_check hcheck, trivial⟩
    | expire => exact fun id hid => by cases hid
    | _ => trivial
  next := by
    intro s place call _ fit
    cases call with
    | create request user offering stage =>
      exact ⟨fit.1, headerFit_createStep fit.1
        (createNext_step s place request user offering stage) fit.2⟩
    | refused request error => trivial
    | cancel reservationId actor stage => exact headerFit_cancelNext fit
    | expire now limit stage => exact headerFit_expireNext fit
    | event reservationId callback stage => exact headerFit_eventNext fit
    | register supply stage => trivial
  abort := by
    intro tables call fit
    cases call with
    | create request user offering stage =>
      refine ⟨fit.1, ?_⟩
      cases hstage : stage.underWay with
      | true => trivial
      | false => exact fit.2
    | refused request error => trivial
    | cancel reservationId actor stage =>
      cases hstage : stage.underWay with
      | true =>
        simp only [abortCall, hstage, if_true]
        trivial
      | false =>
        simp only [abortCall, hstage, Bool.false_eq_true, if_false]
        exact fit
    | expire now limit stage =>
      cases hstage : stage.underWay with
      | true =>
        simp only [abortCall, hstage, if_true]
        intro id hid
        cases hid
      | false =>
        simp only [abortCall, hstage, Bool.false_eq_true, if_false]
        exact fit
    | event reservationId callback stage =>
      cases hstage : stage.underWay with
      | true =>
        simp only [abortCall, hstage, if_true]
        trivial
      | false =>
        simp only [abortCall, hstage, Bool.false_eq_true, if_false]
        exact fit
    | register supply stage => trivial
  commit := by
    intro s place call call' tables hguard locked order hcall hcommit
    obtain ⟨whole, since⟩ := order.whole
    have fit := order.each place call hcall
    have keep : ∀ {new : ReservationTables}, (∀ q other (i : ℕ) row, s.calls[q]? = some other →
        q ≠ place → other.holds (.header i) = true → s.tables.reservations[i]? = some row →
        new.reservations[i]? = some row) →
        ∀ q other, s.calls[q]? = some other → q ≠ place → other.HeaderFit s.tables →
          other.HeaderFit new :=
      fun rows q other hother hne hfit =>
        headerFit_of_rows hfit (fun i row => rows q other i row hother hne)
    cases commitCall_step hcommit with
    | create request user offering rows row =>
      refine ⟨coherent_insert whole since fit.2, ⟨fit.1, trivial⟩, keep ?_⟩
      intro q other i row' _ _ _ hrow'
      exact (List.getElem?_append_left (List.getElem?_eq_some_iff.mp hrow').1).trans hrow'
    | cancel reservationId actor vehicles =>
      obtain ⟨row, hrow, hcond⟩ := fit
      refine ⟨coherent_release [reservationId] rfl whole since ?_, trivial, keep ?_⟩
      · intro id hid
        obtain rfl := List.mem_singleton.mp hid
        exact ⟨row, hrow, not_isTerminal_of_cancellable hcond⟩
      · intro q other i row' hother hne hholds hrow'
        have hi : i ≠ reservationId := by
          rintro rfl
          exact hne (locked q place _ _ _ hother hcall hholds
            (by simp [ReservationCall.holds, CancelStage.holds]))
        exact (List.getElem?_modify_ne _ _ (Ne.symm hi)).trans hrow'
    | expire now limit vehicles expired =>
      obtain ⟨hrows, -⟩ := foldl_release_eq .expired expired s.tables
      refine ⟨coherent_release _ rfl whole since ?_, ?_, keep ?_⟩
      · intro id hid
        obtain ⟨row, hrow, hcond⟩ := fit id hid
        exact ⟨row, hrow, not_isTerminal_of_expirable hcond⟩
      · intro id hid
        cases hid
      · intro q other i row' hother hne hholds hrow'
        rw [hrows, if_neg, hrow']
        intro hi
        exact hne (locked q place _ _ _ hother hcall hholds
          (by simp [ReservationCall.holds, ExpiryStage.holds, hi]))
    | event reservationId callback seen row result change hfree hrow hrecord =>
      obtain rfl : row = seen := by
        have : s.tables.reservations[reservationId]? = some seen := by
          simpa [unchangedSinceRead, hcall] using hguard
        exact Option.some.inj (hrow.symm.trans this)
      refine ⟨coherent_event whole since hrow fit hrecord, trivial, keep ?_⟩
      intro q other i row' hother hne hholds hrow'
      have hi : i ≠ reservationId := by
        rintro rfl
        simp [not_holds_of_rowFree hfree hother hne] at hholds
      exact (List.getElem?_set_ne (Ne.symm hi)).trans hrow'
    | eventFailed reservationId callback seen change error =>
      exact ⟨⟨whole, since⟩, trivial, fun _ _ _ _ hfit => hfit⟩
    | register supply =>
      refine ⟨⟨⟨whole.linked, whole.agree⟩, since⟩, trivial, keep ?_⟩
      exact fun q other i row' _ _ _ hrow' => hrow'

/-- In every interleaving in which nothing else is committed on a reservation between the
read and the commit of a callback on it, headers, lines and money agree in every state
reached, and a reservation that has ended keeps its state. -/
theorem reservations_coherent (context : ReservationContext)
    (digest : CanonicalRequest → String) (start middle t : ReservationDesk)
    (moves more : List Move) (whole : start.tables.Coherent) (idle : start.calls = [])
    (run : Run (Guarded (fun s move => unchangedSinceRead s move = true) (step context digest))
      start moves middle)
    (rest : Run (Guarded (fun s move => unchangedSinceRead s move = true) (step context digest))
      middle more t) :
    t.tables.Agree ∧ t.tables.EndedSince middle.tables := by
  have first := (keeps_coherent start.tables).run_idle run idle
    ⟨whole, fun i row hrow _ => ⟨row, hrow, rfl⟩⟩
  have order : InOrder (fun tables => tables.Coherent ∧ tables.EndedSince middle.tables)
      ReservationCall.HeaderFit middle.tables middle.calls :=
    ⟨⟨first.2.whole.1, fun i row hrow _ => ⟨row, hrow, rfl⟩⟩, first.2.each⟩
  have last := (keeps_coherent middle.tables).run rest first.1 order
  exact ⟨last.2.whole.1.agree, last.2.whole.2⟩

/-! ## A callback and a cancellation -/

/-- Supply, a reservation to be paid by a deposit, and a deposit that has been read. -/
def depositRead : List Move :=
  [.register ⟨vanPool, 0, 5000, 1, false⟩, .next 0, .commit 0,
   .create depositRequest, .next 1, .next 1, .next 1, .next 1, .next 1, .next 1, .commit 1,
   .event 0 firstDeposit, .next 2]

def cancelFirst : List Move :=
  [.cancel 0 (some 7), .next 3, .next 3, .next 3, .next 3, .commit 3]

theorem reservations_coherent_deposit :
    let t := (depositRead ++ [Move.commit 2] ++ cancelFirst).foldl
      (after operatorContext fun _ => "") ⟨{}, []⟩
    (t.tables.reservations.map TransportReservation.state = [.cancelled] ∧
      t.tables.activeLines 0 = 0) ∧ t.tables.Agree :=
  ⟨by decide +kernel, (reservations_coherent operatorContext (fun _ => "") ⟨{}, []⟩ ⟨{}, []⟩ _ []
    (depositRead ++ [Move.commit 2] ++ cancelFirst)
    ⟨by simp [ReservationTables.Linked], by simp [ReservationTables.Agree]⟩ rfl (.nil _)
    (Run.guarded_foldl (by decide +kernel))).1⟩

/-- The deposit is read, the reservation is cancelled, and then the callback commits: the
cancelled reservation is reserved without a line. -/
theorem cancelled_reservation_revived :
    let middle := (depositRead ++ cancelFirst).foldl (after operatorContext fun _ => "") ⟨{}, []⟩
    let t := [Move.commit 2].foldl (after operatorContext fun _ => "") middle
    ¬ (t.tables.Agree ∧ t.tables.EndedSince middle.tables) := by
  rintro middle t ⟨-, since⟩
  have hended : (middle.tables.reservations[0]?).map TransportReservation.state =
      some .cancelled := by decide +kernel
  obtain ⟨row, hrow, hstate⟩ := Option.map_eq_some_iff.mp hended
  obtain ⟨row', hrow', hsame⟩ := since 0 row hrow (by rw [hstate]; rfl)
  have hrevived : (t.tables.reservations[0]?).map TransportReservation.state =
      some .reserved := by decide +kernel
  rw [hrow', Option.map_some, hsame, hstate] at hrevived
  cases hrevived

end ReservationDesk

end Afcon360.Transport
