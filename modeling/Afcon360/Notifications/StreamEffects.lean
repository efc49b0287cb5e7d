import Afcon360.Notifications.StreamRuns

/-!
# Effects happen once

The steps of a dispatch, the orderly runs, and runs that are not orderly.
-/

namespace Afcon360.Notifications

open Foundation

namespace EventStream

variable {s t : EventStream} {rules : EventRules} {place eventId attempt : ℕ} {consumer : Consumer}
  {worker new : EventWorker} {dispatch after : Dispatch} {work : List ℕ} {ok : Bool}

/-! ## The events that can still be dispatched -/

theorem mem_uses :
    eventId ∈ s.uses ↔ eventId ∈ s.ledger.map LedgerEvent.eventId ∨
      eventId ∈ s.unread.map Message.eventId ∨
      eventId ∈ s.pendingEntries.map (·.message.eventId) ∨
      eventId ∈ s.workers.flatMap EventWorker.events := by
  simp only [uses, List.mem_append, or_assoc]

/-- A worker that has no other events than before. -/
theorem uses_set (hworkers : t.workers = s.workers.set place new)
    (hworker : s.workers[place]? = some worker)
    (hledger : t.ledger.map LedgerEvent.eventId = s.ledger.map LedgerEvent.eventId)
    (hunread : t.unread = s.unread)
    (hpending : ∀ eventId ∈ t.pendingEntries.map (·.message.eventId),
      eventId ∈ s.pendingEntries.map (·.message.eventId))
    (hevents : ∀ eventId ∈ new.events, eventId ∈ worker.events) :
    ∀ eventId ∈ t.uses, eventId ∈ s.uses := by
  intro eventId h
  rw [mem_uses, hledger, hunread, hworkers] at h
  rw [mem_uses]
  refine h.imp_right (Or.imp_right (Or.imp (hpending _) ?_))
  intro hmem
  obtain ⟨other, hother, hin⟩ := List.mem_flatMap.mp hmem
  obtain rfl | ⟨j, -, hj⟩ := mem_set_cases hother
  · exact mem_flatMap_of_getElem? hworker (hevents _ hin)
  · exact mem_flatMap_of_getElem? hj hin

theorem handling_current (hcurrent : worker.current = some dispatch) :
    worker.handling = dispatch.handling := by
  rw [EventWorker.handling, hcurrent]
  rfl

theorem handling_of_phase {stage : Stage} (h : dispatch.phase = .handling consumer stage) :
    dispatch.handling = [(consumer, dispatch.eventId)] := by
  rw [Dispatch.handling, h]

theorem event_used (hworker : s.workers[place]? = some worker)
    (hcurrent : worker.current = some dispatch) : dispatch.eventId ∈ s.uses := by
  refine mem_uses.mpr (.inr (.inr (.inr (mem_flatMap_of_getElem? hworker ?_))))
  simp [EventWorker.events, hcurrent]

/-- What a step without a marker may log. -/
structure Extends (s t : EventStream) (worker : EventWorker) : Prop where
  log : s.log ⊆ t.log
  calls : ∀ consumer eventId, lastCall consumer eventId t.log = lastCall consumer eventId s.log ∨
    (consumer, eventId) ∈ worker.handling ∧ s.alreadyProcessed consumer eventId = false
  acknowledged : ∀ eventId interested, .acknowledged eventId interested ∈ t.log →
    .acknowledged eventId interested ∈ s.log ∨
      ∀ consumer ∈ interested, s.Settled consumer eventId
  deadLetters : ∀ consumer eventId, .deadLettered consumer eventId ∈ t.log →
    .deadLettered consumer eventId ∈ s.log

theorem Extends.of_eq (h : t.log = s.log) : Extends s t worker where
  log := h ▸ List.Subset.refl _
  calls consumer eventId := .inl (by rw [h])
  acknowledged eventId interested hmem := .inl (h ▸ hmem)
  deadLetters consumer eventId hmem := h ▸ hmem

/-- A step of a dispatch that writes nothing. -/
theorem Moves.quiet (h : Kept s)
    (hworkers : t.workers = s.workers.set place new) (htypes : t.types = s.types)
    (huses : ∀ eventId ∈ t.uses, eventId ∈ s.uses) (hrows : t.rows = s.rows)
    (hmarkers : t.markers = s.markers)
    (hlog : Extends s t worker)
    (hhandling : new.handling = worker.handling ∨ new.handling = [] ∨
      worker.handling = [] ∧ ∃ pair, new.handling = [pair] ∧ pair ∉ s.handling)
    (hcovered : ∀ pair ∈ worker.handling, pair ∈ new.handling ∨
      ∀ row ∈ s.rows, (row.consumer, row.eventId) ≠ pair)
    (hdispatch : ∀ dispatch, new.current = some dispatch → Continues s t worker dispatch) :
    Moves s t place worker new where
  workers := hworkers
  types := htypes
  uses := huses
  grow := hrows ▸ List.Subset.refl _
  rows row hrow := .inl (hrows ▸ hrow)
  log := hlog.log
  calls := hlog.calls
  marked := hmarkers ▸ List.Subset.refl _
  markers marker hmem := .inl (hmarkers ▸ hmem)
  acknowledged := hlog.acknowledged
  deadLetters consumer eventId hmem := .inl (hlog.deadLetters consumer eventId hmem)
  once := hrows ▸ h.once
  handling := hhandling
  covered pair hpair := by
    rw [hrows]
    exact (hcovered pair hpair).imp_right .inr
  dispatch := hdispatch

/-! ## Statuses -/

theorem retries_returned (status : ConsumerStatus) :
    (dispatch.returned status).retries =
      (dispatch.retries || (status = .retry || status = .error)) := by
  simp [Dispatch.retries, Dispatch.returned]

/-- A consumer returns: those that were interested are settled or will be asked again. -/
theorem continues_returned {status : ConsumerStatus}
    (h : ∀ consumer ∈ dispatch.interested, s.Settled consumer dispatch.eventId ∨
      dispatch.retries = true ∨ status = .retry ∨ status = .error) :
    Continues s t worker (dispatch.returned status) where
  stage consumer stage hphase := by cases hphase
  interested consumer hmem := by
    rw [retries_returned]
    obtain hsettled | hretries | hstatus := h consumer hmem
    · exact .inl hsettled
    · simp [hretries]
    · refine .inr (.inr (.inl ?_))
      obtain rfl | rfl := hstatus <;> simp

/-! ## The start of a dispatch -/

/-- The worker takes the next message of its batch, and dispatches its event or leaves it out. -/
theorem kept_take (h : Kept s) {only : List Consumer} {batch : List (ℕ × Option Message)}
    {message : Option Message}
    (hworker : s.workers[place]? = some
      { only := only, batch := (eventId, message) :: batch, current := none })
    {current : Option Dispatch} (hcurrent : current = none ∨
      ∃ todo, current = some { eventId := eventId, message := message, todo := todo }) :
    Kept (s.setWorker place { only := only, batch := batch, current := current }) := by
  refine kept_moves _ h hworker (Moves.quiet h rfl rfl ?_ rfl rfl (Extends.of_eq rfl)
    (.inl ?_) (fun pair hpair => by cases hpair) ?_)
  · refine uses_set rfl hworker rfl rfl (fun _ hmem => hmem) ?_
    intro other hmem
    simp only [EventWorker.events, List.map_cons, List.cons_append, List.mem_cons,
      List.mem_append] at hmem ⊢
    obtain rfl | ⟨todo, rfl⟩ := hcurrent
    · exact .inr hmem
    · exact (or_comm.mp hmem).imp (fun hnow => List.mem_singleton.mp hnow) .inl
  · obtain rfl | ⟨todo, rfl⟩ := hcurrent <;> rfl
  · intro dispatch hdispatch
    obtain rfl | ⟨todo, rfl⟩ := hcurrent
    · cases hdispatch
    · cases hdispatch
      exact ⟨fun _ _ hphase => (nomatch hphase), fun _ hmem => (nomatch hmem)⟩

/-- The events of a worker whose dispatch goes on. -/
theorem events_current (hcurrent : worker.current = some dispatch)
    (hevent : after.eventId = dispatch.eventId) :
    ∀ eventId ∈ ({ worker with current := some after } : EventWorker).events,
      eventId ∈ worker.events := by
  intro eventId hmem
  simpa [EventWorker.events, hcurrent, hevent] using hmem

/-! ## Check -/

theorem check_cases {outcome : CheckOutcome} (h : dispatch.check rules s outcome = some after) :
    dispatch.phase = .between ∧ ∃ consumer todo, dispatch.todo = consumer :: todo ∧
      ((s.interestedIn rules consumer dispatch.eventId = false ∧
          after = { dispatch with todo := todo }.returned .skipped) ∨
        s.interestedIn rules consumer dispatch.eventId = true ∧
          ((outcome = .interestFails ∧ consumer = .webhook) ∨
            (outcome = .markerFails ∧ after = { dispatch with
              todo := todo, interested := consumer :: dispatch.interested }.returned .error) ∨
            (s.alreadyProcessed consumer dispatch.eventId = true ∧ after = { dispatch with
              todo := todo, interested := consumer :: dispatch.interested }.returned .duplicate) ∨
            (outcome ≠ .markerFails ∧ s.alreadyProcessed consumer dispatch.eventId = false ∧
              after = { dispatch with
                todo := todo
                interested := consumer :: dispatch.interested }.stands consumer .checked))) := by
  unfold Dispatch.check at h
  split at h
  · rename_i consumer todo hphase htodo
    refine ⟨hphase, consumer, todo, htodo, ?_⟩
    simp only at h
    split at h
    · rename_i hinterested
      refine .inr ⟨hinterested, ?_⟩
      split at h
      · exact .inl ‹_›
      · right
        split at h
        · exact .inl ⟨‹_›, (Option.some.inj h).symm⟩
        · right
          split at h
          · exact .inl ⟨‹_›, (Option.some.inj h).symm⟩
          · exact .inr ⟨‹_›, Bool.eq_false_iff.mpr ‹_›, (Option.some.inj h).symm⟩
    · exact .inl ⟨Bool.eq_false_iff.mpr ‹_›, (Option.some.inj h).symm⟩
  · cases h

/-- Nothing is committed of an event that is not marked, where nobody is handling it. -/
theorem no_rows (h : Kept s) (hworker : s.workers[place]? = some worker)
    (hcurrent : worker.current = some dispatch)
    (hmarker : s.alreadyProcessed consumer dispatch.eventId = false)
    (hfree : (consumer, dispatch.eventId) ∉ s.handling) :
    ∀ row ∈ s.rows, row.consumer = consumer → row.eventId ≠ dispatch.eventId := by
  rintro row hrow rfl heq
  have hused := event_used hworker hcurrent
  rw [← heq] at hused hmarker hfree
  obtain hmarked | hhandling := h.covered row hrow hused
  · rw [hmarker] at hmarked
    cases hmarked
  · exact hfree hhandling

theorem kept_check (h : Kept s) (hworker : s.workers[place]? = some worker)
    (hcurrent : worker.current = some dispatch) {outcome : CheckOutcome}
    (hguard : s.Orderly rules (.check place outcome))
    (hcheck : dispatch.check rules s outcome = some after) :
    Kept (s.setCurrent place worker after) := by
  obtain ⟨hphase, consumer, todo, htodo, hafter⟩ := check_cases hcheck
  have hok := h.dispatches worker (List.mem_of_getElem? hworker) dispatch hcurrent
  have hidle : dispatch.handling = [] := by rw [Dispatch.handling, hphase]
  have hnone : worker.handling = [] := (handling_current hcurrent).trans hidle
  have hbefore : ∀ consumer ∈ dispatch.interested,
      s.Settled consumer dispatch.eventId ∨ dispatch.retries = true := by
    intro consumer hmem
    obtain hhandled | hretries | hin := hok.interested consumer hmem
    · exact .inl hhandled
    · exact .inr hretries
    · rw [hidle] at hin
      cases hin
  simp only [Orderly, orderly, onCurrent, hworker, Option.bind_some, hcurrent, Option.all_some,
    htodo] at hguard
  have hquiet : after.eventId = dispatch.eventId →
      (after.handling = [] ∨ ∃ pair, after.handling = [pair] ∧ pair ∉ s.handling) →
      Continues s (s.setCurrent place worker after) worker after →
      Kept (s.setCurrent place worker after) := by
    intro hevent hhandling hdispatch
    refine kept_moves { worker with current := some after } h hworker
      (Moves.quiet h rfl rfl ?_ rfl rfl (Extends.of_eq rfl) ?_ ?_ ?_)
    · exact uses_set rfl hworker rfl rfl (fun _ hmem => hmem) (events_current hcurrent hevent)
    · obtain hnil | hpair := hhandling
      · exact .inr (.inl hnil)
      · exact .inr (.inr ⟨hnone, hpair⟩)
    · intro pair hpair
      rw [hnone] at hpair
      cases hpair
    · intro other hother
      cases hother
      exact hdispatch
  obtain ⟨-, rfl⟩ | ⟨hinterested, hrest⟩ := hafter
  · refine hquiet rfl (.inl rfl) (continues_returned ?_)
    intro other hmem
    exact (hbefore other hmem).imp_right .inl
  · rw [hinterested] at hguard
    simp only [Bool.not_true, Bool.false_or, Bool.and_eq_true, Bool.or_eq_true,
      Bool.not_eq_true', Bool.and_eq_false_iff, decide_eq_false_iff_not, decide_eq_true_eq]
      at hguard
    obtain ⟨hanswered, hallowed⟩ := hguard
    obtain ⟨houtcome, hwebhook⟩ | ⟨-, rfl⟩ | ⟨hmarked, rfl⟩ | ⟨houtcome, hmarker, rfl⟩ := hrest
    · obtain hne | hne := hanswered
      · exact absurd houtcome hne
      · exact absurd hwebhook hne
    · refine hquiet rfl (.inl rfl) (continues_returned ?_)
      intro other _
      exact .inr (.inr (.inr rfl))
    · refine hquiet rfl (.inl rfl) (continues_returned ?_)
      intro other hmem
      obtain rfl | hold := List.mem_cons.mp hmem
      · obtain ⟨marker, hin, hconsumer, hevent⟩ := alreadyProcessed_iff.mp hmarked
        have hsettled := h.markers marker hin
        rw [hconsumer, hevent] at hsettled
        exact .inl hsettled
      · exact (hbefore other hold).imp_right .inl
    · have hfree : (consumer, dispatch.eventId) ∉ s.handling := by
        obtain (hfails | hmarked) | hfree := hallowed
        · exact absurd hfails houtcome
        · rw [hmarker] at hmarked
          cases hmarked
        · exact hfree
      have hrows := no_rows h hworker hcurrent hmarker hfree
      refine hquiet rfl (.inr ⟨_, rfl, hfree⟩) ⟨?_, ?_⟩
      · intro other stage hphase
        cases hphase
        exact ⟨hrows, hmarker⟩
      · intro other hmem
        obtain rfl | hold := List.mem_cons.mp hmem
        · exact .inr (.inr (.inr (List.mem_singleton.mpr rfl)))
        · exact (hbefore other hold).imp_right (fun hretries => .inr (.inl hretries))

/-! ## Process -/

theorem continues_stands {stage : Stage} (hok : s.DispatchOk dispatch)
    (hphase : ∃ before, dispatch.phase = .handling consumer before)
    (hmarkers : t.markers = s.markers) (hstage : t.StageOk consumer dispatch.eventId stage) :
    Continues s t worker (dispatch.stands consumer stage) := by
  obtain ⟨before, hbefore⟩ := hphase
  constructor
  · intro other stage' hother
    cases hother
    refine ⟨hstage, ?_⟩
    have hmarker := (hok.stage consumer before hbefore).2
    rw [alreadyProcessed] at hmarker ⊢
    rw [hmarkers]
    exact hmarker
  · intro other hmem
    obtain hsettled | hretries | hin := hok.interested other hmem
    · exact .inl hsettled
    · exact .inr (.inr (.inl hretries))
    · rw [handling_of_phase hbefore] at hin
      exact .inr (.inr (.inr hin))

/-- The stage once some of the work is done. -/
theorem stageOk_after (hnodup : work.Nodup)
    (hrows : ∀ row ∈ s.rows, row.consumer = consumer → row.eventId = eventId →
      consumer = .notification ∧ row.attempt = attempt ∧ row.key ∉ work)
    (htotal : ∃ total, lastCall consumer eventId s.log = some (attempt, total) ∧
      ∀ key ∈ total, key ∈ work ∨ ⟨consumer, eventId, key, attempt⟩ ∈ s.rows) :
    s.StageOk consumer eventId (if work = [] then .written attempt else .writing attempt work) := by
  split
  · rename_i hnil
    subst hnil
    obtain ⟨total, hundertaken, hwork⟩ := htotal
    refine ⟨fun row hrow hconsumer hevent => (hrows row hrow hconsumer hevent).2.1, total,
      hundertaken, ?_⟩
    intro key hkey
    exact (hwork key hkey).resolve_left (List.not_mem_nil)
  · exact ⟨hnodup, hrows, htotal⟩

theorem workOf_nodup (sends : ℕ) : (s.workOf consumer eventId sends).Nodup := by
  cases consumer with
  | notification => exact List.nodup_range
  | audit => exact List.nodup_singleton 0
  | analytics => exact List.nodup_nil
  | webhook =>
    have hsublist : (s.matching eventId).Sublist (s.subscriptions.zipIdx.map Prod.snd) :=
      List.Sublist.map _ List.filter_sublist
    refine hsublist.nodup ?_
    rw [List.zipIdx_map_snd]
    exact List.nodup_range'

/-- A step by which a consumer goes on, or returns with nothing committed. -/
theorem kept_current (h : Kept s) (hworker : s.workers[place]? = some worker)
    (hcurrent : worker.current = some dispatch)
    (hworkers : t.workers = s.workers.set place { worker with current := some after })
    (htypes : t.types = s.types)
    (hledger : t.ledger.map LedgerEvent.eventId = s.ledger.map LedgerEvent.eventId)
    (hunread : t.unread = s.unread) (hpending : t.pendingEntries = s.pendingEntries)
    (hrows : t.rows = s.rows) (hmarkers : t.markers = s.markers) (hlog : Extends s t worker)
    (hevent : after.eventId = dispatch.eventId)
    (hhandling : after.handling = dispatch.handling ∨ after.handling = [] ∧
      ∀ pair ∈ dispatch.handling, ∀ row ∈ s.rows, (row.consumer, row.eventId) ≠ pair)
    (hdispatch : Continues s t worker after) : Kept t := by
  have hbefore := handling_current hcurrent
  refine kept_moves { worker with current := some after } h hworker
    (Moves.quiet h hworkers htypes ?_ hrows hmarkers hlog ?_ ?_ ?_)
  · exact uses_set hworkers hworker hledger hunread (fun _ hmem => hpending ▸ hmem)
      (events_current hcurrent hevent)
  · rw [hbefore]
    exact hhandling.imp id (fun hnil => .inl hnil.1)
  · rw [hbefore]
    intro pair hpair
    obtain hsame | ⟨-, hnone⟩ := hhandling
    · left
      have hnew : ({ worker with current := some after } : EventWorker).handling =
          dispatch.handling := hsame
      exact hnew ▸ hpair
    · exact .inr (hnone pair hpair)
  · intro other hother
    cases hother
    exact hdispatch

theorem kept_process (h : Kept s) (hworker : s.workers[place]? = some worker)
    (hcurrent : worker.current = some dispatch) {outcome : ProcessOutcome}
    (hprocess : s.process place worker dispatch outcome = some t) : Kept t := by
  have hok := h.dispatches worker (List.mem_of_getElem? hworker) dispatch hcurrent
  simp only [process] at hprocess
  split at hprocess
  · rename_i consumer hphase
    have hrows : ∀ row ∈ s.rows, row.consumer = consumer → row.eventId ≠ dispatch.eventId :=
      (hok.stage consumer .checked hphase).1
    have hnone : ∀ pair ∈ dispatch.handling, ∀ row ∈ s.rows,
        (row.consumer, row.eventId) ≠ pair := by
      intro pair hpair row hrow heq
      rw [handling_of_phase hphase, List.mem_singleton] at hpair
      subst hpair
      exact hrows row hrow (congrArg Prod.fst heq) (congrArg Prod.snd heq)
    cases outcome with
    | proceeds sends =>
      cases hprocess
      refine kept_current h hworker hcurrent rfl rfl rfl rfl rfl rfl rfl ?_ rfl
        (.inl (handling_of_phase hphase).symm) ?_
      · refine ⟨List.subset_cons_self _ _, ?_, ?_, ?_⟩
        · intro other eventId
          by_cases hpair : consumer = other ∧ dispatch.eventId = eventId
          · obtain ⟨rfl, rfl⟩ := hpair
            refine .inr ⟨?_, (hok.stage _ _ hphase).2⟩
            rw [handling_current hcurrent, handling_of_phase hphase]
            exact List.mem_singleton.mpr rfl
          · exact .inl (if_neg hpair)
        · intro eventId interested hmem
          obtain heq | hold := List.mem_cons.mp hmem
          · cases heq
          · exact .inl hold
        · intro other eventId hmem
          obtain heq | hold := List.mem_cons.mp hmem
          · cases heq
          · exact hold
      · refine continues_stands hok ⟨_, hphase⟩ rfl (stageOk_after (workOf_nodup sends) ?_ ?_)
        · intro row hrow hconsumer hevent
          exact absurd hevent (hrows row hrow hconsumer)
        · exact ⟨_, if_pos ⟨rfl, rfl⟩, fun key hkey => .inl hkey⟩
    | permanent =>
      obtain ⟨haudit, ⟨⟩⟩ := Option.ite_none_right_eq_some.mp hprocess
      refine kept_current h hworker hcurrent rfl rfl rfl rfl rfl rfl rfl (Extends.of_eq rfl)
        rfl (.inl (handling_of_phase hphase).symm) ?_
      exact continues_stands hok ⟨_, hphase⟩ rfl ⟨haudit, hrows⟩
    | raises =>
      cases hprocess
      refine kept_current h hworker hcurrent rfl rfl rfl rfl rfl rfl rfl (Extends.of_eq rfl)
        rfl (.inr ⟨rfl, hnone⟩) (continues_returned ?_)
      exact fun other _ => .inr (.inr (.inl rfl))
  · cases hprocess

/-! ## Commit -/

/-- Rows of a call of `process` that are added to what it has committed. -/
theorem once_append (h : Once s.rows) {keys : List ℕ} (hnodup : keys.Nodup)
    (hrows : ∀ row ∈ s.rows, row.consumer = consumer → row.eventId = eventId →
      row.attempt = attempt ∧ row.key ∉ keys) :
    Once (s.rows ++ keys.map fun key => ⟨consumer, eventId, key, attempt⟩) := by
  constructor
  · intro row hrow other hother hconsumer hevent
    obtain hold | hnew := List.mem_append.mp hrow
    · obtain hold' | hnew' := List.mem_append.mp hother
      · exact h.attempt row hold other hold' hconsumer hevent
      · obtain ⟨key, -, rfl⟩ := List.mem_map.mp hnew'
        exact (hrows row hold hconsumer hevent).1
    · obtain ⟨key, -, rfl⟩ := List.mem_map.mp hnew
      obtain hold' | hnew' := List.mem_append.mp hother
      · exact (hrows other hold' hconsumer.symm hevent.symm).1.symm
      · obtain ⟨key', -, rfl⟩ := List.mem_map.mp hnew'
        rfl
  · rw [List.map_append, List.map_map]
    refine List.nodup_append.mpr ⟨h.nodup, ?_, ?_⟩
    · exact hnodup.map fun key key' heq => (Prod.mk.inj (Prod.mk.inj heq).2).2
    · intro triple hold triple' hnew heq
      obtain ⟨row, hrow, rfl⟩ := List.mem_map.mp hold
      obtain ⟨key, hkey, rfl⟩ := List.mem_map.mp hnew
      obtain ⟨hconsumer, hrest⟩ := Prod.mk.inj heq
      obtain ⟨hevent, rfl⟩ := Prod.mk.inj hrest
      exact (hrows row hrow hconsumer hevent).2 hkey

/-- A commit of rows by the consumer that is handling the event. -/
theorem kept_write (keys : List ℕ) (h : Kept s) (hworker : s.workers[place]? = some worker)
    (hcurrent : worker.current = some dispatch)
    (hphase : dispatch.phase = .handling consumer (.writing attempt work)) {stage : Stage}
    (hnodup : keys.Nodup) (hkeys : ∀ key ∈ keys, key ∈ work)
    (ht : t = { s.setCurrent place worker (dispatch.stands consumer stage) with
      rows := s.rows ++ keys.map fun key => ⟨consumer, dispatch.eventId, key, attempt⟩ })
    (hstage : t.StageOk consumer dispatch.eventId stage) : Kept t := by
  subst ht
  have hok := h.dispatches worker (List.mem_of_getElem? hworker) dispatch hcurrent
  obtain ⟨-, hrows, -⟩ := (hok.stage consumer _ hphase).1
  have hpair : worker.handling = [(consumer, dispatch.eventId)] :=
    (handling_current hcurrent).trans (handling_of_phase hphase)
  refine kept_moves { worker with current := some (dispatch.stands consumer stage) } h hworker {
    workers := rfl
    types := rfl
    uses := uses_set rfl hworker rfl rfl (fun _ hmem => hmem) (events_current hcurrent rfl)
    grow := List.subset_append_left _ _
    rows := ?_
    log := List.Subset.refl _
    calls := fun _ _ => .inl rfl
    marked := List.Subset.refl _
    markers := fun marker hmem => .inl hmem
    acknowledged := fun _ _ hmem => .inl hmem
    deadLetters := fun _ _ hmem => .inl hmem
    once := once_append h.once hnodup ?_
    handling := .inl hpair.symm
    covered := fun pair hmem => .inl (by rw [hpair] at hmem; exact hmem)
    dispatch := ?_ }
  · intro row hmem
    obtain hold | hnew := List.mem_append.mp hmem
    · exact .inl hold
    · obtain ⟨key, -, rfl⟩ := List.mem_map.mp hnew
      exact .inr (hpair ▸ List.mem_singleton.mpr rfl)
  · intro row hrow hconsumer hevent
    obtain ⟨-, hattempt, hkey⟩ := hrows row hrow hconsumer hevent
    exact ⟨hattempt, fun hmem => hkey (hkeys _ hmem)⟩
  · intro other hother
    cases hother
    exact continues_stands hok ⟨_, hphase⟩ rfl hstage

theorem kept_commit (h : Kept s) (hworker : s.workers[place]? = some worker)
    (hcurrent : worker.current = some dispatch) (hguard : s.Orderly rules (.commit place ok))
    (hcommit : s.commit place worker dispatch ok = some t) : Kept t := by
  have hok := h.dispatches worker (List.mem_of_getElem? hworker) dispatch hcurrent
  simp only [Orderly, orderly, onCurrent, hworker, Option.bind_some, hcurrent, Option.all_some]
    at hguard
  unfold commit at hcommit
  split at hcommit
  · rename_i attempt key work hphase
    rw [hphase] at hguard
    simp only at hguard
    obtain ⟨hnodup, hrows, total, hundertaken, htotal⟩ := (hok.stage _ _ hphase).1
    obtain ⟨hkey, hwork⟩ := List.nodup_cons.mp hnodup
    simp only [hguard, if_true] at hcommit
    cases hcommit
    refine kept_write [key] h hworker hcurrent hphase (List.nodup_singleton key)
      (fun other hmem => List.mem_singleton.mp hmem ▸ List.mem_cons_self) rfl
      (stageOk_after hwork ?_ ⟨total, hundertaken, ?_⟩)
    · intro row hmem hconsumer hevent
      obtain hold | hnew := List.mem_append.mp hmem
      · obtain ⟨-, hattempt, hnot⟩ := hrows row hold hconsumer hevent
        exact ⟨rfl, hattempt, fun hin => hnot (List.mem_cons_of_mem _ hin)⟩
      · obtain rfl := List.mem_singleton.mp hnew
        exact ⟨rfl, rfl, hkey⟩
    · intro other hmem
      obtain hin | hrow := htotal other hmem
      · obtain rfl | hrest := List.mem_cons.mp hin
        · exact .inr (List.mem_append_right _ (List.mem_singleton.mpr rfl))
        · exact .inl hrest
      · exact .inr (List.mem_append_left _ hrow)
  · rename_i consumer attempt work hnot hphase
    rw [hphase] at hguard
    obtain ⟨hnodup, hrows, total, hundertaken, htotal⟩ := (hok.stage _ _ hphase).1
    split at hcommit
    · -- the unique constraint: no row of this event was there
      rename_i hduplicate
      obtain ⟨rfl, hany⟩ := hduplicate
      obtain ⟨row, hrow, hsame⟩ := List.any_eq_true.mp hany
      simp only [Bool.and_eq_true, decide_eq_true_eq, List.contains_eq_mem] at hsame
      obtain ⟨⟨hconsumer, hevent⟩, hmem⟩ := hsame
      exact absurd hmem (hrows row hrow hconsumer hevent).2.2
    · split at hcommit
      · cases hcommit
        refine kept_write _ h hworker hcurrent hphase hnodup (fun key hmem => hmem) rfl
          ⟨?_, total, hundertaken, ?_⟩
        · intro row hmem hconsumer hevent
          obtain hold | hnew := List.mem_append.mp hmem
          · exact (hrows row hold hconsumer hevent).2.1
          · obtain ⟨key, -, rfl⟩ := List.mem_map.mp hnew
            rfl
        · intro key hmem
          obtain hin | hrow := htotal key hmem
          · exact List.mem_append_right _ (List.mem_map.mpr ⟨key, hin, rfl⟩)
          · exact List.mem_append_left _ hrow
      · rename_i hfails
        cases hcommit
        refine kept_current h hworker hcurrent rfl rfl rfl rfl rfl rfl rfl (Extends.of_eq rfl)
          rfl (.inr ⟨rfl, ?_⟩) (continues_returned ?_)
        · intro pair hpair row hrow heq
          rw [handling_of_phase hphase, List.mem_singleton] at hpair
          subst hpair
          obtain ⟨rfl, -⟩ := hrows row hrow (congrArg Prod.fst heq) (congrArg Prod.snd heq)
          exact hfails hguard
        · exact fun other _ => .inr (.inr (.inl rfl))
  · cases hcommit

/-! ## Record -/

/-- The marker of the event is stored, and the consumer returns. -/
theorem kept_record (h : Kept s) (hworker : s.workers[place]? = some worker)
    (hcurrent : worker.current = some dispatch) (hguard : ok = true)
    (hrecord : s.record place worker dispatch ok = some t) : Kept t := by
  have hok := h.dispatches worker (List.mem_of_getElem? hworker) dispatch hcurrent
  subst hguard
  have hstored : ∀ consumer stage status, dispatch.phase = .handling consumer stage →
      s.recordMarker consumer dispatch.eventId status true =
        { s with markers := s.markers ++ [⟨consumer, dispatch.eventId, status, s.now⟩] } := by
    intro consumer stage status hphase
    have hmarker := (hok.stage consumer stage hphase).2
    exact if_pos ⟨rfl, by simp [hmarker]⟩
  -- both ways of storing a marker
  have hmarked : ∀ (consumer : Consumer) (stage : Stage) (status : MarkerStatus)
      (answer : ConsumerStatus) (log : List StreamEvent),
      dispatch.phase = .handling consumer stage →
      (log = s.log ∨ log = .deadLettered consumer dispatch.eventId :: s.log ∧ consumer = .audit) →
      Handled log s.rows consumer dispatch.eventId →
      Kept (setCurrent { s with
        markers := s.markers ++ [⟨consumer, dispatch.eventId, status, s.now⟩]
        log := log } place worker (dispatch.returned answer)) := by
    intro consumer stage status answer log hphase hcases hhandled
    have hnew : (⟨consumer, dispatch.eventId, status, s.now⟩ : ProcessedEvent) ∈
        s.markers ++ [⟨consumer, dispatch.eventId, status, s.now⟩] :=
      List.mem_append_right _ (List.mem_singleton.mpr rfl)
    have hlog : s.log ⊆ log := by
      obtain rfl | ⟨rfl, -⟩ := hcases
      · exact List.Subset.refl _
      · exact List.subset_cons_self _ _
    have hpair : worker.handling = [(consumer, dispatch.eventId)] :=
      (handling_current hcurrent).trans (handling_of_phase hphase)
    refine kept_moves { worker with current := some (dispatch.returned answer) } h hworker {
      workers := rfl
      types := rfl
      uses := uses_set rfl hworker rfl rfl (fun _ hmem => hmem) (events_current hcurrent rfl)
      grow := List.Subset.refl _
      rows := fun row hmem => .inl hmem
      log := hlog
      calls := ?_
      marked := List.subset_append_left _ _
      markers := ?_
      acknowledged := ?_
      deadLetters := ?_
      once := h.once
      handling := .inr (.inl rfl)
      covered := ?_
      dispatch := ?_ }
    · intro other eventId
      obtain rfl | ⟨rfl, -⟩ := hcases
      · exact .inl rfl
      · exact .inl rfl
    · intro marker hmem
      obtain hold | hin := List.mem_append.mp hmem
      · exact .inl hold
      · obtain rfl := List.mem_singleton.mp hin
        exact .inr ⟨by rw [hpair]; exact List.mem_singleton.mpr rfl, hhandled⟩
    · intro eventId interested hmem
      obtain rfl | ⟨rfl, -⟩ := hcases
      · exact .inl hmem
      · obtain heq | hold := List.mem_cons.mp hmem
        · cases heq
        · exact .inl hold
    · intro other eventId hmem
      obtain rfl | ⟨rfl, haudit⟩ := hcases
      · exact .inl hmem
      · obtain heq | hold := List.mem_cons.mp hmem
        · obtain ⟨rfl, -⟩ := StreamEvent.deadLettered.inj heq
          exact .inr haudit
        · exact .inl hold
    · intro pair hmem
      rw [hpair, List.mem_singleton] at hmem
      subst hmem
      exact .inr (.inl (alreadyProcessed_iff.mpr ⟨⟨consumer, dispatch.eventId, status, s.now⟩, hnew,
        rfl, rfl⟩))
    · intro other hother
      cases hother
      refine ⟨fun _ _ hphase => (nomatch hphase), ?_⟩
      intro other hmem
      obtain hsettled | hretries | hin := hok.interested other hmem
      · exact .inl hsettled
      · rw [retries_returned]
        simp [hretries]
      · rw [handling_of_phase hphase, List.mem_singleton] at hin
        cases hin
        refine .inr (.inl ⟨?_, hhandled, alreadyProcessed_iff.mpr ⟨_, hnew, rfl, rfl⟩⟩)
        rw [hpair]
        exact List.mem_singleton.mpr rfl
  unfold record at hrecord
  split at hrecord
  · rename_i consumer attempt hphase
    obtain ⟨-, total, hundertaken, htotal⟩ := (hok.stage _ _ hphase).1
    rw [hstored consumer _ _ hphase] at hrecord
    cases hrecord
    exact hmarked consumer _ .success .success s.log hphase (.inl rfl)
      (.inl ⟨attempt, total, hundertaken, htotal⟩)
  · rename_i consumer hphase
    have hmarker := (hok.stage _ _ hphase).2
    rw [hstored consumer _ _ hphase] at hrecord
    simp only [hmarker, Bool.false_eq_true, not_false_eq_true, and_self, if_true] at hrecord
    cases hrecord
    exact hmarked consumer _ .deadLetter .deadLetter _ hphase
      (.inr ⟨rfl, (hok.stage _ _ hphase).1.1⟩) (.inr List.mem_cons_self)
  · cases hrecord

/-! ## The end of a dispatch -/

theorem kept_settle (h : Kept s) (hworker : s.workers[place]? = some worker)
    (hcurrent : worker.current = some dispatch)
    (hsettle : s.settle place worker dispatch ok = some t) : Kept t := by
  have hok := h.dispatches worker (List.mem_of_getElem? hworker) dispatch hcurrent
  unfold settle at hsettle
  split at hsettle
  · rename_i hphase htodo
    cases hsettle
    have hidle : dispatch.handling = [] := by rw [Dispatch.handling, hphase]
    refine kept_current h hworker hcurrent rfl rfl ?_ rfl rfl rfl rfl (Extends.of_eq rfl) rfl
      (.inl hidle.symm) ⟨?_, ?_⟩
    · simp only
      split
      · exact mark_eventId _ _ _
      · rfl
    · intro _ _ hother
      cases hother
    · intro consumer hmem
      obtain hhandled | hretries | hin := hok.interested consumer hmem
      · exact .inl hhandled
      · exact .inr (.inr (.inl hretries))
      · rw [hidle] at hin
        cases hin
  · cases hsettle

theorem kept_acknowledge (h : Kept s) (hworker : s.workers[place]? = some worker)
    (hcurrent : worker.current = some dispatch)
    (hacknowledge : s.acknowledge place worker dispatch ok = some t) : Kept t := by
  have hok := h.dispatches worker (List.mem_of_getElem? hworker) dispatch hcurrent
  unfold acknowledge at hacknowledge
  split at hacknowledge
  · rename_i hphase
    have hidle : dispatch.handling = [] := by rw [Dispatch.handling, hphase]
    have hnone : worker.handling = [] := (handling_current hcurrent).trans hidle
    have hevents : ∀ eventId ∈ ({ worker with current := none } : EventWorker).events,
        eventId ∈ worker.events := by
      intro eventId hmem
      simp only [EventWorker.events, Option.map_none, Option.toList_none, List.append_nil] at hmem
      exact List.mem_append_left _ hmem
    have hend : ∀ t : EventStream, t.workers = s.workers.set place { worker with current := none } →
        t.types = s.types → t.ledger = s.ledger → t.unread = s.unread →
        t.pendingEntries ⊆ s.pendingEntries → t.rows = s.rows → t.markers = s.markers →
        Extends s t worker → Kept t := by
      intro t hworkers htypes hledger hunread hpending hrows hmarkers hlog
      refine kept_moves { worker with current := none } h hworker
        (Moves.quiet h hworkers htypes ?_ hrows hmarkers hlog (.inr (.inl rfl)) ?_
          ?_)
      · exact uses_set hworkers hworker (by rw [hledger]) hunread
          (fun _ hmem => List.map_subset _ hpending hmem) hevents
      · intro pair hmem
        rw [hnone] at hmem
        cases hmem
      · intro _ hother
        cases hother
    simp only at hacknowledge
    split at hacknowledge
    · rename_i message hmessage
      split at hacknowledge
      · rename_i hdone
        cases hacknowledge
        refine hend _ rfl rfl rfl rfl (List.filter_subset_self _) rfl rfl
          ⟨List.subset_cons_self _ _, fun _ _ => .inl rfl, ?_, ?_⟩
        · intro eventId interested hmem
          obtain heq | hold := List.mem_cons.mp hmem
          · cases heq
            right
            intro consumer hin
            obtain hsettled | hretries | hpair := hok.interested consumer hin
            · exact hsettled
            · rw [hdone.2] at hretries
              cases hretries
            · rw [hidle] at hpair
              cases hpair
          · exact .inl hold
        · intro consumer eventId hmem
          obtain heq | hold := List.mem_cons.mp hmem
          · cases heq
          · exact hold
      · cases hacknowledge
        exact hend _ rfl rfl rfl rfl (List.Subset.refl _) rfl rfl (Extends.of_eq rfl)
    · cases hacknowledge
      exact hend _ rfl rfl rfl rfl (List.Subset.refl _) rfl rfl (Extends.of_eq rfl)
  · cases hacknowledge

/-- A process dies with nothing committed that is not marked. -/
theorem kept_die (h : Kept s) (hguard : s.Orderly rules (.die place)) :
    Kept (s.setWorker place {}) := by
  cases hworker : s.workers[place]? with
  | none =>
    have hsame : s.workers.set place {} = s.workers :=
      List.set_eq_of_length_le (List.getElem?_eq_none_iff.mp hworker)
    rw [setWorker, hsame]
    exact h
  | some worker =>
    refine kept_moves {} h hworker (Moves.quiet h rfl rfl ?_ rfl rfl
      (Extends.of_eq rfl) (.inr (.inl rfl)) ?_
      (fun _ hother => nomatch hother))
    · exact uses_set rfl hworker rfl rfl (fun _ hmem => hmem) (fun _ hmem => nomatch hmem)
    · intro pair hpair
      right
      intro row hrow heq
      cases hcurrent : worker.current with
      | none =>
        rw [EventWorker.handling, hcurrent] at hpair
        cases hpair
      | some dispatch =>
        have hok := h.dispatches worker (List.mem_of_getElem? hworker) dispatch hcurrent
        rw [handling_current hcurrent] at hpair
        cases hphase : dispatch.phase with
        | between =>
          rw [Dispatch.handling, hphase] at hpair
          cases hpair
        | settled =>
          rw [Dispatch.handling, hphase] at hpair
          cases hpair
        | handling consumer stage =>
          rw [handling_of_phase hphase, List.mem_singleton] at hpair
          subst hpair
          have hconsumer := congrArg Prod.fst heq
          have hevent := congrArg Prod.snd heq
          have hstage := (hok.stage consumer stage hphase).1
          simp only [Orderly, orderly, onCurrent, hworker, Option.bind_some, hcurrent,
            Option.all_some, hphase] at hguard
          cases stage with
          | checked => exact hstage row hrow hconsumer hevent
          | failing => exact hstage.2 row hrow hconsumer hevent
          | writing attempt work =>
            have hattempt := (hstage.2.1 row hrow hconsumer hevent).2.1
            have hne := List.all_eq_true.mp hguard row hrow
            exact of_decide_eq_true hne hattempt
          | written attempt =>
            have hattempt := hstage.1 row hrow hconsumer hevent
            have hne := List.all_eq_true.mp hguard row hrow
            exact of_decide_eq_true hne hattempt

end EventStream

end Afcon360.Notifications
