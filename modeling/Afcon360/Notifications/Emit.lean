import Afcon360.Notifications.Publisher

/-!
# What staging an event does to its caller

A flush that fails while an event is staged deactivates the caller's session, whatever made it
fail: the caller's own commit is then refused.
-/

namespace Afcon360.Notifications

open Foundation

variable {ω : Type} {accepts : List ω → List ω → Bool} {registry : EventRegistry}
  {session left : CallerSession ω} {ambient : Ambient} {request : EmitRequest}
  {envelope : Envelope} {rows : List (PendingRow ω)} {op : CallerOp ω}
  {ops : List (CallerOp ω)} {tables : EventTables ω}

/-! ## What a session has written and collected -/

def EventTables.append (tables : EventTables ω) (rows : List (PendingRow ω)) : EventTables ω where
  business := tables.business ++ rows.filterMap PendingRow.business?
  ledger := tables.ledger ++ rows.filterMap PendingRow.ledger?
  outbox := tables.outbox ++ rows.filterMap PendingRow.outbox?

@[simp] theorem append_nil (tables : EventTables ω) : tables.append [] = tables := by
  simp [EventTables.append]

theorem append_append (tables : EventTables ω) (first second : List (PendingRow ω)) :
    (tables.append first).append second = tables.append (first ++ second) := by
  simp [EventTables.append]

theorem storeRows_eq_some {after : EventTables ω} (h : storeRows accepts tables rows = some after) :
    after = tables.append rows := by
  simp only [storeRows] at h
  split at h
  · exact (Option.some.inj h).symm
  · cases h

/-- The tables as they are once everything that waits is written. -/
def total (session : CallerSession ω) : EventTables ω := session.working.append session.pending

theorem total_add (rows : List (PendingRow ω)) :
    total (session.add rows) = (total session).append rows :=
  (append_append _ _ _).symm

theorem total_flush (h : session.flush (storeRows accepts) = (true, left)) :
    total left = total session ∧ left.deactivated = false := by
  by_cases hflushes : session.Flushes (storeRows accepts)
  · obtain ⟨working, hstore, hflush⟩ := UnitOfWork.flush_of_flushes hflushes
    obtain ⟨-, rfl⟩ := Prod.mk.inj (hflush.symm.trans h)
    refine ⟨?_, hflushes.1⟩
    rw [total, append_nil]
    exact storeRows_eq_some hstore
  · obtain ⟨other, hflush, -⟩ := UnitOfWork.flush_of_not_flushes hflushes
    cases hflush.symm.trans h

theorem commit_total (h : session.commit (storeRows accepts) = some tables) :
    tables = total session :=
  storeRows_eq_some (UnitOfWork.commit_eq_some h)

/-! ## A call of `emit_event` -/

/-- No envelope: the session is as it was. -/
theorem emitEvent_of_error {error : EmitError}
    (h : buildEnvelope registry ambient request = .error error) :
    emitEvent accepts registry ambient request session = (.ok none, session) := by
  rw [emitEvent, emitBody, h]

theorem emitEvent_of_flushes (h : buildEnvelope registry ambient request = .ok envelope)
    (hflushes : (addEvent session envelope).Flushes (storeRows accepts)) :
    ∃ left, (addEvent session envelope).flush (storeRows accepts) = (true, left) ∧
      emitEvent accepts registry ambient request session = (.ok (some envelope), left) := by
  obtain ⟨working, -, hflush⟩ := UnitOfWork.flush_of_flushes hflushes
  refine ⟨_, hflush, ?_⟩
  rw [emitEvent, emitBody, h]
  simp only [stage, hflush]

/-- The flush fails: the session is deactivated. -/
theorem emitEvent_of_not_flushes (h : buildEnvelope registry ambient request = .ok envelope)
    (hflushes : ¬ (addEvent session envelope).Flushes (storeRows accepts)) :
    ∃ left, emitEvent accepts registry ambient request session = (.ok none, left) ∧
      left.deactivated = true := by
  obtain ⟨left, hflush, hdeactivated⟩ := UnitOfWork.flush_of_not_flushes hflushes
  refine ⟨left, ?_, hdeactivated⟩
  rw [emitEvent, emitBody, h]
  simp only [stage, hflush]

/-- The three ways of a call. -/
theorem emitEvent_cases (accepts : List ω → List ω → Bool) (registry : EventRegistry)
    (ambient : Ambient) (request : EmitRequest) (session : CallerSession ω) :
    ((∃ error, buildEnvelope registry ambient request = .error error) ∧
        emitEvent accepts registry ambient request session = (.ok none, session)) ∨
      ∃ envelope, buildEnvelope registry ambient request = .ok envelope ∧
        (((addEvent session envelope).Flushes (storeRows accepts) ∧
            ∃ left, (addEvent session envelope).flush (storeRows accepts) = (true, left) ∧
              emitEvent accepts registry ambient request session = (.ok (some envelope), left)) ∨
          ¬ (addEvent session envelope).Flushes (storeRows accepts) ∧
            ∃ left, emitEvent accepts registry ambient request session = (.ok none, left) ∧
              left.deactivated = true) := by
  cases hbuild : buildEnvelope registry ambient request with
  | error error => exact .inl ⟨⟨error, rfl⟩, emitEvent_of_error hbuild⟩
  | ok envelope =>
    refine .inr ⟨envelope, rfl, ?_⟩
    by_cases hflushes : (addEvent session envelope).Flushes (storeRows accepts)
    · exact .inl ⟨hflushes, emitEvent_of_flushes hbuild hflushes⟩
    · exact .inr ⟨hflushes, emitEvent_of_not_flushes hbuild hflushes⟩

/-! ## The rest of the transaction -/

/-- The business rows that a step of the caller writes. -/
def CallerOp.written : CallerOp ω → List ω
  | .write rows => rows
  | _ => []

theorem callerStep_deactivated (h : session.deactivated = true)
    (hstep : callerStep accepts registry session op = some left) : left.deactivated = true := by
  cases op with
  | write rows =>
    cases hstep
    exact h
  | flush =>
    rw [callerStep, UnitOfWork.flush_deactivated h] at hstep
    cases hstep
  | emit ambient request =>
    obtain ⟨-, hemit⟩ | ⟨envelope, hbuild, hrest⟩ :=
      emitEvent_cases accepts registry ambient request session
    · rw [callerStep, hemit] at hstep
      exact Option.some.inj hstep ▸ h
    · obtain ⟨hflushes, -⟩ | ⟨-, other, hemit, hdeactivated⟩ := hrest
      · have hactive : session.deactivated = false := hflushes.1
        rw [hactive] at h
        cases h
      · rw [callerStep, hemit] at hstep
        exact Option.some.inj hstep ▸ hdeactivated

theorem callerSteps_deactivated (h : session.deactivated = true)
    (hsteps : callerSteps accepts registry session ops = some left) :
    left.deactivated = true := by
  induction ops generalizing session with
  | nil => exact Option.some.inj hsteps ▸ h
  | cons op ops ih =>
    obtain ⟨middle, hstep, hrest⟩ := Option.bind_eq_some_iff.mp hsteps
    exact ih (callerStep_deactivated h hstep) hrest

theorem finishTransaction_deactivated (h : session.deactivated = true) :
    finishTransaction accepts registry session ops = none := by
  cases hsteps : callerSteps accepts registry session ops with
  | none => rw [finishTransaction, hsteps, Option.bind_none]
  | some left =>
    rw [finishTransaction, hsteps, Option.bind_some]
    exact UnitOfWork.commit_deactivated (callerSteps_deactivated h hsteps)

/-- What a step of the caller adds, where the session survives it. -/
theorem callerStep_total (hstep : callerStep accepts registry session op = some left)
    (hactive : left.deactivated = false) :
    ∃ rows, total left = (total session).append rows ∧
      rows.filterMap PendingRow.business? = op.written := by
  cases op with
  | write rows =>
    cases hstep
    refine ⟨rows.map .business, total_add _, ?_⟩
    rw [List.filterMap_map]
    exact List.filterMap_some
  | flush =>
    simp only [callerStep] at hstep
    split at hstep
    · rename_i middle hflush
      cases hstep
      exact ⟨[], by rw [append_nil]; exact (total_flush hflush).1, rfl⟩
    · cases hstep
  | emit ambient request =>
    obtain ⟨-, hemit⟩ | ⟨envelope, hbuild, hrest⟩ :=
      emitEvent_cases accepts registry ambient request session
    · rw [callerStep, hemit] at hstep
      cases hstep
      exact ⟨[], (append_nil _).symm, rfl⟩
    · obtain ⟨-, other, hflush, hemit⟩ | ⟨-, other, hemit, hdeactivated⟩ := hrest
      · rw [callerStep, hemit] at hstep
        cases hstep
        exact ⟨_, (total_flush hflush).1.trans (total_add _), rfl⟩
      · rw [callerStep, hemit] at hstep
        cases hstep
        rw [hdeactivated] at hactive
        cases hactive

theorem callerSteps_total (hsteps : callerSteps accepts registry session ops = some left)
    (hactive : left.deactivated = false) :
    ∃ rows, total left = (total session).append rows ∧
      rows.filterMap PendingRow.business? = ops.flatMap CallerOp.written := by
  induction ops generalizing session with
  | nil =>
    cases hsteps
    exact ⟨[], (append_nil _).symm, rfl⟩
  | cons op ops ih =>
    obtain ⟨middle, hstep, hrest⟩ := Option.bind_eq_some_iff.mp hsteps
    have hmiddle : middle.deactivated = false := by
      by_contra hdeactivated
      rw [callerSteps_deactivated ((Bool.not_eq_false _).mp hdeactivated) hrest] at hactive
      cases hactive
    obtain ⟨first, hfirst, hrows⟩ := callerStep_total hstep hmiddle
    obtain ⟨second, hsecond, hmore⟩ := ih hrest
    refine ⟨first ++ second, ?_, ?_⟩
    · rw [hsecond, hfirst, append_append]
    · rw [List.filterMap_append, hrows, hmore, List.flatMap_cons]

theorem finishTransaction_total (h : finishTransaction accepts registry session ops = some tables) :
    ∃ rows, tables = (total session).append rows ∧
      rows.filterMap PendingRow.business? = ops.flatMap CallerOp.written := by
  obtain ⟨left, hsteps, hcommit⟩ := Option.bind_eq_some_iff.mp h
  have hactive : left.deactivated = false := by
    by_contra hdeactivated
    rw [UnitOfWork.commit_deactivated ((Bool.not_eq_false _).mp hdeactivated)] at hcommit
    cases hcommit
  obtain ⟨rows, hrows, hbusiness⟩ := callerSteps_total hsteps hactive
  exact ⟨rows, (commit_total hcommit).trans hrows, hbusiness⟩

/-! ## Harm -/

/-- A call of `emit_event` returns. With an envelope, the two rows are in the tables when the
transaction commits, next to all that the caller writes before and after; without one, the
transaction ends as if there had been no call. -/
structure Harmless (accepts : List ω → List ω → Bool) (registry : EventRegistry)
    (ambient : Ambient) (request : EmitRequest) (session : CallerSession ω)
    (rest : List (CallerOp ω)) : Prop where
  returns : ∃ answer, (emitEvent accepts registry ambient request session).1 = .ok answer
  staged : ∀ envelope left tables,
    emitEvent accepts registry ambient request session = (.ok (some envelope), left) →
    finishTransaction accepts registry left rest = some tables →
    ledgerRow envelope ∈ tables.ledger ∧ outboxRow envelope ∈ tables.outbox ∧
      tables.business = session.working.business ++
        session.pending.filterMap PendingRow.business? ++ rest.flatMap CallerOp.written
  untouched : ∀ left, emitEvent accepts registry ambient request session = (.ok none, left) →
    finishTransaction accepts registry left rest = finishTransaction accepts registry session rest

/-- No envelope can be built, or the flush succeeds with the event's rows and all that waits, or
the caller's transaction fails anyway. -/
def EmitSafe (accepts : List ω → List ω → Bool) (registry : EventRegistry) (ambient : Ambient)
    (request : EmitRequest) (session : CallerSession ω) (rest : List (CallerOp ω)) : Prop :=
  (∃ error, buildEnvelope registry ambient request = .error error) ∨
    (∃ envelope, buildEnvelope registry ambient request = .ok envelope ∧
      (addEvent session envelope).Flushes (storeRows accepts)) ∨
    finishTransaction accepts registry session rest = none

/-- The tables after a flush with an event's rows, and whatever the caller adds. -/
theorem staged_rows {rest : List (CallerOp ω)}
    (hflush : (addEvent session envelope).flush (storeRows accepts) = (true, left))
    (hfinish : finishTransaction accepts registry left rest = some tables) :
    ledgerRow envelope ∈ tables.ledger ∧ outboxRow envelope ∈ tables.outbox ∧
      tables.business = session.working.business ++
        session.pending.filterMap PendingRow.business? ++ rest.flatMap CallerOp.written := by
  obtain ⟨rows, rfl, hrows⟩ := finishTransaction_total hfinish
  rw [(total_flush hflush).1, addEvent, total_add]
  refine ⟨?_, ?_, ?_⟩
  · simp [EventTables.append, total, PendingRow.ledger?]
  · simp [EventTables.append, total, PendingRow.outbox?]
  · simp [EventTables.append, total, PendingRow.business?, hrows]

/-- A call of `emit_event` is harmless exactly when its flush does not fail, or has nothing to
spoil. -/
theorem emit_event_harmless (accepts : List ω → List ω → Bool) (registry : EventRegistry)
    (ambient : Ambient) (request : EmitRequest) (session : CallerSession ω)
    (rest : List (CallerOp ω)) :
    Harmless accepts registry ambient request session rest ↔
      EmitSafe accepts registry ambient request session rest := by
  obtain ⟨hbuild, hemit⟩ | ⟨envelope, hbuild, hrest⟩ :=
    emitEvent_cases accepts registry ambient request session
  · refine iff_of_true ⟨⟨none, by rw [hemit]⟩, ?_, ?_⟩ (.inl hbuild)
    · intro envelope left tables heq
      cases hemit.symm.trans heq
    · intro left heq
      obtain ⟨-, rfl⟩ := Prod.mk.inj (hemit.symm.trans heq)
      rfl
  · obtain ⟨hflushes, left, hflush, hemit⟩ | ⟨hflushes, left, hemit, hdeactivated⟩ := hrest
    · refine iff_of_true ⟨⟨some envelope, by rw [hemit]⟩, ?_, ?_⟩
        (.inr (.inl ⟨envelope, hbuild, hflushes⟩))
      · intro other after tables heq hfinish
        obtain ⟨hanswer, rfl⟩ := Prod.mk.inj (hemit.symm.trans heq)
        obtain rfl := Option.some.inj (Except.ok.inj hanswer)
        exact staged_rows hflush hfinish
      · intro after heq
        cases hemit.symm.trans heq
    · have hnone : finishTransaction accepts registry left rest = none :=
        finishTransaction_deactivated hdeactivated
      constructor
      · intro h
        exact .inr (.inr ((h.untouched left hemit).symm.trans hnone))
      · rintro (⟨error, herror⟩ | ⟨other, hother, hflush⟩ | hfails)
        · cases hbuild.symm.trans herror
        · obtain rfl := Except.ok.inj (hbuild.symm.trans hother)
          exact absurd hflush hflushes
        · refine ⟨⟨none, by rw [hemit]⟩, ?_, ?_⟩
          · intro envelope after tables heq
            cases hemit.symm.trans heq
          · intro after heq
            obtain ⟨-, rfl⟩ := Prod.mk.inj (hemit.symm.trans heq)
            rw [hnone, hfails]

/-- A booking waits in the session when its event is emitted with a `Decimal` amount. -/
def bookingSession : CallerSession ℕ where
  committed := {}
  working := {}
  pending := [.business 1]

def decimalPayload : EmitRequest where
  eventType := "booking.confirmed"
  payload := .dict [(.str "amount", .object true)]

def plainAmbient : Ambient where
  newEventId := "evt_1"
  correlationId := "cor_1"

theorem decimal_payload_loses_booking :
    (finishTransaction (fun _ _ => true) {} bookingSession []).map EventTables.business = some [1] ∧
      (finishTransaction (fun _ _ => true) {}
        (emitEvent (fun _ _ => true) {} plainAmbient decimalPayload bookingSession).2 []).isNone ∧
      ¬ Harmless (fun _ _ => true) {} plainAmbient decimalPayload bookingSession [] := by
  have halone : (finishTransaction (fun _ _ => true) {} bookingSession []).map
      EventTables.business = some [1] := by
    decide +kernel
  have hspoiled : (finishTransaction (fun _ _ => true) {}
      (emitEvent (fun _ _ => true) {} plainAmbient decimalPayload bookingSession).2 []).isNone := by
    decide +kernel
  refine ⟨halone, hspoiled, ?_⟩
  intro h
  have hanswer : (emitEvent (fun _ _ => true) {} plainAmbient decimalPayload
      bookingSession).1.toOption.all Option.isNone = true := by
    decide +kernel
  obtain ⟨answer, hok⟩ := h.returns
  rw [hok] at hanswer
  obtain rfl := Option.isNone_iff_eq_none.mp hanswer
  have hsame := h.untouched (emitEvent (fun _ _ => true) {} plainAmbient decimalPayload
    bookingSession).2 (Prod.ext hok rfl)
  rw [← hsame, Option.isNone_iff_eq_none.mp hspoiled] at halone
  cases halone

end Afcon360.Notifications
