import Afcon360.Foundation.Holdings
import Afcon360.Notifications.Stream

/-!
# Effects under overlapping workers

`Orderly` is what lets the effect of a consumer happen once: no consumer checks an event that
another worker is handling for it, no worker dies between an effect and its marker, every
marker is stored, and none is pruned while its event can still be dispatched. `Kept` is the
invariant of the orderly runs, and `Moves` what a step of one worker owes to it.
-/

namespace Afcon360.Notifications

open Foundation

def Dispatch.handling (dispatch : Dispatch) : List (Consumer × ℕ) :=
  match dispatch.phase with
  | .handling consumer _ => [(consumer, dispatch.eventId)]
  | _ => []

namespace EventWorker

/-- The event and the consumer that a worker is handling. -/
def handling (worker : EventWorker) : List (Consumer × ℕ) :=
  worker.current.elim [] Dispatch.handling

/-- The events that a worker has in memory. -/
def events (worker : EventWorker) : List ℕ :=
  worker.batch.map Prod.fst ++ (worker.current.map Dispatch.eventId).toList

end EventWorker

/-- The latest call of `process` for an event, with what it had to write. -/
def lastCall (consumer : Consumer) (eventId : ℕ) : List StreamEvent → Option (ℕ × List ℕ)
  | [] => none
  | .undertaken consumer' eventId' attempt work :: log =>
    if consumer' = consumer ∧ eventId' = eventId then some (attempt, work)
    else lastCall consumer eventId log
  | .deadLettered _ _ :: log => lastCall consumer eventId log
  | .acknowledged _ _ :: log => lastCall consumer eventId log

/-- The consumer has committed all that its latest call had to write, or has recorded a dead
letter. -/
def Handled (log : List StreamEvent) (rows : List EffectRow) (consumer : Consumer)
    (eventId : ℕ) : Prop :=
  (∃ attempt work, lastCall consumer eventId log = some (attempt, work) ∧
    ∀ key ∈ work, ⟨consumer, eventId, key, attempt⟩ ∈ rows) ∨
  .deadLettered consumer eventId ∈ log

/-- What a consumer has committed for an event comes from one call of `process`, and no row is
there twice. -/
structure Once (rows : List EffectRow) : Prop where
  attempt : ∀ row ∈ rows, ∀ other ∈ rows, row.consumer = other.consumer →
    row.eventId = other.eventId → row.attempt = other.attempt
  nodup : (rows.map fun row => (row.consumer, row.eventId, row.key)).Nodup

namespace EventStream

def handling (s : EventStream) : List (Consumer × ℕ) := s.workers.flatMap EventWorker.handling

/-- The events that can still be dispatched. -/
def uses (s : EventStream) : List ℕ :=
  s.ledger.map LedgerEvent.eventId ++ s.unread.map Message.eventId ++
    s.pendingEntries.map (·.message.eventId) ++ s.workers.flatMap EventWorker.events

/-- What a step asks of the dispatch that the worker at a place is on. -/
def onCurrent (s : EventStream) (place : ℕ) (p : Dispatch → Bool) : Bool :=
  (s.workers[place]?.bind EventWorker.current).all p

/-- The condition on a step, as a test. -/
def orderly (rules : EventRules) (s : EventStream) : StreamAct → Bool
  | .publish eventId => eventId ∈ s.ledger.map LedgerEvent.eventId
  | .check place outcome => s.onCurrent place fun dispatch =>
    match dispatch.todo with
    | consumer :: _ =>
      !s.interestedIn rules consumer dispatch.eventId ||
        (!(outcome = .interestFails && consumer = .webhook) &&
          (outcome = .markerFails || s.alreadyProcessed consumer dispatch.eventId ||
            (consumer, dispatch.eventId) ∉ s.handling))
    | [] => true
  | .commit place ok => s.onCurrent place fun dispatch =>
    match dispatch.phase with
    | .handling .notification _ => ok
    | _ => true
  | .record _ ok => ok
  | .die place => s.onCurrent place fun dispatch =>
    match dispatch.phase with
    | .handling _ (.writing attempt _) => s.rows.all (·.attempt ≠ attempt)
    | .handling _ (.written attempt) => s.rows.all (·.attempt ≠ attempt)
    | _ => true
  | .cleanup retentionDays batch => s.markers.all fun marker =>
    marker ∈ (s.cleanup retentionDays batch).markers ||
      marker.eventId ∉ (s.cleanup retentionDays batch).uses
  | _ => true

/-- The condition on a step. -/
def Orderly (rules : EventRules) (s : EventStream) (a : StreamAct) : Prop :=
    s.orderly rules a = true

instance (rules : EventRules) (s : EventStream) (a : StreamAct) : Decidable (s.Orderly rules a) :=
  inferInstanceAs (Decidable (_ = true))

/-- What is known while a consumer handles an event. -/
def StageOk (s : EventStream) (consumer : Consumer) (eventId : ℕ) : Stage → Prop
  | .writing attempt work =>
    work.Nodup ∧
    (∀ row ∈ s.rows, row.consumer = consumer → row.eventId = eventId →
      consumer = .notification ∧ row.attempt = attempt ∧ row.key ∉ work) ∧
    ∃ total, lastCall consumer eventId s.log = some (attempt, total) ∧
      ∀ key ∈ total, key ∈ work ∨ ⟨consumer, eventId, key, attempt⟩ ∈ s.rows
  | .written attempt =>
    (∀ row ∈ s.rows, row.consumer = consumer → row.eventId = eventId →
      row.attempt = attempt) ∧
    ∃ total, lastCall consumer eventId s.log = some (attempt, total) ∧
      ∀ key ∈ total, ⟨consumer, eventId, key, attempt⟩ ∈ s.rows
  | .checked => ∀ row ∈ s.rows, row.consumer = consumer → row.eventId ≠ eventId
  | .failing => consumer = .audit ∧
      ∀ row ∈ s.rows, row.consumer = consumer → row.eventId ≠ eventId

/-- The event is handled, and marked as long as it can be dispatched. -/
structure Settled (s : EventStream) (consumer : Consumer) (eventId : ℕ) : Prop where
  handled : Handled s.log s.rows consumer eventId
  marked : eventId ∈ s.uses → s.alreadyProcessed consumer eventId = true
  known : eventId < s.types.length

/-- What is known of a dispatch. -/
structure DispatchOk (s : EventStream) (dispatch : Dispatch) : Prop where
  stage : ∀ consumer stage, dispatch.phase = .handling consumer stage →
    s.StageOk consumer dispatch.eventId stage ∧
      s.alreadyProcessed consumer dispatch.eventId = false
  interested : ∀ consumer ∈ dispatch.interested,
    s.Settled consumer dispatch.eventId ∨ dispatch.retries = true ∨
      (consumer, dispatch.eventId) ∈ dispatch.handling

structure Kept (s : EventStream) : Prop where
  apart : s.handling.Nodup
  dispatches : ∀ worker ∈ s.workers, ∀ dispatch, worker.current = some dispatch →
    s.DispatchOk dispatch
  once : Once s.rows
  covered : ∀ row ∈ s.rows, row.eventId ∈ s.uses →
    s.alreadyProcessed row.consumer row.eventId = true ∨ (row.consumer, row.eventId) ∈ s.handling
  markers : ∀ marker ∈ s.markers, s.Settled marker.consumer marker.eventId
  acknowledged : ∀ eventId interested, .acknowledged eventId interested ∈ s.log →
    ∀ consumer ∈ interested, s.Settled consumer eventId
  deadLetters : ∀ consumer eventId, .deadLettered consumer eventId ∈ s.log → consumer = .audit
  known : ∀ eventId ∈ s.uses, eventId < s.types.length
  old : ∀ row ∈ s.rows, row.eventId < s.types.length

variable {s t : EventStream} {rules : EventRules} {place eventId : ℕ} {consumer : Consumer}
  {worker new : EventWorker} {dispatch : Dispatch}

theorem mark_eventId (eventId : ℕ) (status : LedgerStatus) (ledger : List LedgerEvent) :
    (LedgerEvent.mark eventId status ledger).map LedgerEvent.eventId =
      ledger.map LedgerEvent.eventId := by
  rw [LedgerEvent.mark, List.map_map]
  refine List.map_congr_left (fun event _ => ?_)
  simp only [Function.comp_apply]
  split <;> rfl

theorem alreadyProcessed_iff :
    s.alreadyProcessed consumer eventId = true ↔
      ∃ marker ∈ s.markers, marker.consumer = consumer ∧ marker.eventId = eventId := by
  simp [alreadyProcessed]

theorem handled_mono {log log' : List StreamEvent} {rows rows' : List EffectRow}
    (h : Handled log rows consumer eventId) (hlog : log ⊆ log')
    (hcall : lastCall consumer eventId log' = lastCall consumer eventId log)
    (hrows : rows ⊆ rows') : Handled log' rows' consumer eventId := by
  obtain ⟨attempt, work, hlast, hwork⟩ | hdead := h
  · exact .inl ⟨attempt, work, hcall.trans hlast, fun key hkey => hrows (hwork key hkey)⟩
  · exact .inr (hlog hdead)

/-- What other workers write does not concern a stage. -/
theorem StageOk.mono {stage : Stage} (h : s.StageOk consumer eventId stage)
    (hcall : lastCall consumer eventId t.log = lastCall consumer eventId s.log)
    (hgrow : s.rows ⊆ t.rows)
    (hrows : ∀ row ∈ t.rows, row ∈ s.rows ∨ (row.consumer, row.eventId) ≠ (consumer, eventId)) :
    t.StageOk consumer eventId stage := by
  have hold : ∀ row ∈ t.rows, row.consumer = consumer → row.eventId = eventId → row ∈ s.rows := by
    intro row hrow hconsumer hevent
    obtain hmem | hne := hrows row hrow
    · exact hmem
    · exact absurd (Prod.ext hconsumer hevent) hne
  cases stage with
  | checked =>
    intro row hrow hconsumer hevent
    exact h row (hold row hrow hconsumer hevent) hconsumer hevent
  | failing =>
    refine ⟨h.1, fun row hrow hconsumer hevent => ?_⟩
    exact h.2 row (hold row hrow hconsumer hevent) hconsumer hevent
  | writing attempt work =>
    obtain ⟨hnodup, hattempt, total, hlast, hwork⟩ := h
    refine ⟨hnodup, fun row hrow hconsumer hevent =>
      hattempt row (hold row hrow hconsumer hevent) hconsumer hevent, total,
      hcall.trans hlast, fun key hkey => (hwork key hkey).imp_right (hgrow ·)⟩
  | written attempt =>
    obtain ⟨hattempt, total, hlast, hwork⟩ := h
    exact ⟨fun row hrow hconsumer hevent =>
      hattempt row (hold row hrow hconsumer hevent) hconsumer hevent, total,
      hcall.trans hlast, fun key hkey => hgrow (hwork key hkey)⟩

/-- What a step of a worker owes to its dispatch: who was interested is settled, is settled by
the step, will be asked again, or goes on. -/
structure Continues (s t : EventStream) (worker : EventWorker) (dispatch : Dispatch) : Prop where
  stage : ∀ consumer stage, dispatch.phase = .handling consumer stage →
    t.StageOk consumer dispatch.eventId stage ∧
      t.alreadyProcessed consumer dispatch.eventId = false
  interested : ∀ consumer ∈ dispatch.interested,
    s.Settled consumer dispatch.eventId ∨
    ((consumer, dispatch.eventId) ∈ worker.handling ∧
      Handled t.log t.rows consumer dispatch.eventId ∧
      t.alreadyProcessed consumer dispatch.eventId = true) ∨
    dispatch.retries = true ∨ (consumer, dispatch.eventId) ∈ dispatch.handling

/-- What a step of one worker owes to the invariant. -/
structure Moves (s t : EventStream) (place : ℕ) (worker new : EventWorker) : Prop where
  workers : t.workers = s.workers.set place new
  types : t.types = s.types
  uses : ∀ eventId ∈ t.uses, eventId ∈ s.uses
  grow : s.rows ⊆ t.rows
  rows : ∀ row ∈ t.rows, row ∈ s.rows ∨ (row.consumer, row.eventId) ∈ worker.handling
  log : s.log ⊆ t.log
  calls : ∀ consumer eventId, lastCall consumer eventId t.log = lastCall consumer eventId s.log ∨
    (consumer, eventId) ∈ worker.handling ∧ s.alreadyProcessed consumer eventId = false
  marked : s.markers ⊆ t.markers
  markers : ∀ marker ∈ t.markers, marker ∈ s.markers ∨
    (marker.consumer, marker.eventId) ∈ worker.handling ∧
      Handled t.log t.rows marker.consumer marker.eventId
  acknowledged : ∀ eventId interested, .acknowledged eventId interested ∈ t.log →
    .acknowledged eventId interested ∈ s.log ∨
      ∀ consumer ∈ interested, s.Settled consumer eventId
  deadLetters : ∀ consumer eventId, .deadLettered consumer eventId ∈ t.log →
    .deadLettered consumer eventId ∈ s.log ∨ consumer = .audit
  once : Once t.rows
  handling : new.handling = worker.handling ∨ new.handling = [] ∨
    worker.handling = [] ∧ ∃ pair, new.handling = [pair] ∧ pair ∉ s.handling
  covered : ∀ pair ∈ worker.handling, pair ∈ new.handling ∨
    t.alreadyProcessed pair.1 pair.2 = true ∨
      ∀ row ∈ t.rows, (row.consumer, row.eventId) ≠ pair
  dispatch : ∀ dispatch, new.current = some dispatch → Continues s t worker dispatch

theorem alreadyProcessed_mono (h : s.markers ⊆ t.markers)
    (hmarked : s.alreadyProcessed consumer eventId = true) :
    t.alreadyProcessed consumer eventId = true := by
  obtain ⟨marker, hmem, heq⟩ := alreadyProcessed_iff.mp hmarked
  exact alreadyProcessed_iff.mpr ⟨marker, h hmem, heq⟩

theorem handling_mem (hworker : s.workers[place]? = some worker) {pair : Consumer × ℕ}
    (hmem : pair ∈ worker.handling) : pair ∈ s.handling :=
  mem_flatMap_of_getElem? hworker hmem

/-- The event that a worker is handling can be dispatched. -/
theorem handling_used (hworker : s.workers[place]? = some worker) {pair : Consumer × ℕ}
    (hmem : pair ∈ worker.handling) : pair.2 ∈ s.uses := by
  have hevent : pair.2 ∈ worker.events := by
    cases hcurrent : worker.current with
    | none => simp [EventWorker.handling, hcurrent] at hmem
    | some dispatch =>
      have heq : pair.2 = dispatch.eventId := by
        simp only [EventWorker.handling, hcurrent, Option.elim_some, Dispatch.handling] at hmem
        split at hmem
        · exact congrArg Prod.snd (List.mem_singleton.mp hmem)
        · cases hmem
      simp [EventWorker.events, hcurrent, heq]
  exact List.mem_append_right _ (mem_flatMap_of_getElem? hworker hevent)

theorem settled_moves (h : s.Settled consumer eventId) (hworker : s.workers[place]? = some worker)
    (hmoves : Moves s t place worker new) : t.Settled consumer eventId where
  handled := by
    obtain hsame | ⟨hin, hmarker⟩ := hmoves.calls consumer eventId
    · exact handled_mono h.handled hmoves.log hsame hmoves.grow
    · rw [h.marked (handling_used hworker hin)] at hmarker
      cases hmarker
  marked hused := alreadyProcessed_mono hmoves.marked (h.marked (hmoves.uses _ hused))
  known := by rw [hmoves.types]; exact h.known

theorem kept_moves (new : EventWorker) (h : Kept s)
    (hworker : s.workers[place]? = some worker) (hmoves : Moves s t place worker new) : Kept t := by
  have hother : ∀ other ∈ t.workers, other = new ∨
      ∃ j, j ≠ place ∧ s.workers[j]? = some other := by
    intro other hmem
    rw [hmoves.workers] at hmem
    exact mem_set_cases hmem
  have hnot : ∀ j other, j ≠ place → s.workers[j]? = some other → ∀ pair ∈ other.handling,
      pair ∉ worker.handling := by
    intro j other hne hj pair hpair
    exact not_mem_of_nodup_flatMap h.apart hne hj hworker hpair
  refine {
    apart := ?_
    dispatches := ?_
    once := hmoves.once
    covered := ?_
    markers := ?_
    acknowledged := ?_
    deadLetters := ?_
    known := ?_
    old := ?_ }
  · rw [handling, hmoves.workers]
    obtain hsame | hnil | ⟨hold, pair, hnew, hfresh⟩ := hmoves.handling
    · exact nodup_flatMap_set_same h.apart hworker (List.Perm.of_eq hsame)
    · exact nodup_flatMap_set_nil h.apart hworker hnil
    · have hperm := perm_flatMap_set EventWorker.handling new hworker
      rw [hold, List.append_nil, hnew] at hperm
      refine hperm.nodup_iff.mpr (List.nodup_append.mpr ⟨h.apart, List.nodup_singleton _, ?_⟩)
      rintro other hmem _ hpair rfl
      rw [List.mem_singleton.mp hpair] at hmem
      exact hfresh hmem
  · intro other hmem dispatch hcurrent
    obtain rfl | ⟨j, hne, hj⟩ := hother other hmem
    · have hok := hmoves.dispatch dispatch hcurrent
      refine ⟨hok.stage, ?_⟩
      intro consumer hin
      obtain hsettled | ⟨hpair, hhandled, hmarked⟩ | hrest := hok.interested consumer hin
      · exact .inl (settled_moves hsettled hworker hmoves)
      · refine .inl ⟨hhandled, fun _ => hmarked, ?_⟩
        rw [hmoves.types]
        exact h.known _ (handling_used hworker hpair)
      · exact .inr hrest
    · have hok := h.dispatches other (List.mem_of_getElem? hj) dispatch hcurrent
      constructor
      · intro consumer stage hphase
        obtain ⟨hstage, hmarker⟩ := hok.stage consumer stage hphase
        have hpair : (consumer, dispatch.eventId) ∈ other.handling := by
          simp [EventWorker.handling, hcurrent, Dispatch.handling, hphase]
        have hfar := hnot j other hne hj _ hpair
        constructor
        · have hcall := (hmoves.calls consumer dispatch.eventId).resolve_right (hfar ·.1)
          refine hstage.mono hcall hmoves.grow ?_
          intro row hrow
          obtain hold | hin := hmoves.rows row hrow
          · exact .inl hold
          · exact .inr (fun heq => hfar (heq ▸ hin))
        · rw [← Bool.not_eq_true, alreadyProcessed_iff]
          rintro ⟨marker, hmarked, rfl, heq⟩
          obtain hold | ⟨hin, -⟩ := hmoves.markers marker hmarked
          · rw [alreadyProcessed_iff.mpr ⟨marker, hold, rfl, heq⟩] at hmarker
            cases hmarker
          · exact hfar (heq ▸ hin)
      · intro consumer hin
        exact (hok.interested consumer hin).imp_left (settled_moves · hworker hmoves)
  · intro row hrow huses
    have hcovered : s.alreadyProcessed row.consumer row.eventId = true ∨
        (row.consumer, row.eventId) ∈ s.handling := by
      obtain hold | hin := hmoves.rows row hrow
      · exact h.covered row hold (hmoves.uses _ huses)
      · exact .inr (handling_mem hworker hin)
    obtain hmarked | hhandling := hcovered
    · exact .inl (alreadyProcessed_mono hmoves.marked hmarked)
    · obtain ⟨other, hmem, hpair⟩ := List.mem_flatMap.mp hhandling
      rw [handling, hmoves.workers]
      obtain rfl | hstays := eq_or_mem_set new hworker hmem
      · obtain hnew | hmarked | hnone := hmoves.covered _ hpair
        · have hplace := List.mem_set (List.getElem?_eq_some_iff.mp hworker).1 new
          exact .inr (List.mem_flatMap.mpr ⟨new, hplace, hnew⟩)
        · exact .inl hmarked
        · exact absurd rfl (hnone row hrow)
      · exact .inr (List.mem_flatMap.mpr ⟨other, hstays, hpair⟩)
  · intro marker hmem
    obtain hold | ⟨hin, hhandled⟩ := hmoves.markers marker hmem
    · exact settled_moves (h.markers marker hold) hworker hmoves
    · refine ⟨hhandled, fun _ => alreadyProcessed_iff.mpr ⟨marker, hmem, rfl, rfl⟩, ?_⟩
      rw [hmoves.types]
      exact h.known _ (handling_used hworker hin)
  · intro eventId interested hmem consumer hin
    obtain hold | hsettled := hmoves.acknowledged eventId interested hmem
    · exact settled_moves (h.acknowledged eventId interested hold consumer hin) hworker hmoves
    · exact settled_moves (hsettled consumer hin) hworker hmoves
  · intro consumer eventId hmem
    exact (hmoves.deadLetters consumer eventId hmem).elim (h.deadLetters consumer eventId) id
  · intro eventId huses
    rw [hmoves.types]
    exact h.known eventId (hmoves.uses eventId huses)
  · intro row hrow
    rw [hmoves.types]
    obtain hold | hin := hmoves.rows row hrow
    · exact h.old row hold
    · exact h.known row.eventId (handling_used hworker hin)

/-- A step that is not of one worker: a batch is loaded, or the tables around the workers
change. -/
theorem kept_frame (h : Kept s)
    (hworkers : t.workers = s.workers ∨ ∃ new : EventWorker, new.current = none ∧
      t.workers = s.workers ++ [new])
    (htypes : s.types.length ≤ t.types.length) (hrows : t.rows = s.rows) (hlog : t.log = s.log)
    (huses : ∀ eventId ∈ t.uses, eventId ∈ s.uses ∨
      s.types.length ≤ eventId ∧ eventId < t.types.length)
    (hmarkers : t.markers ⊆ s.markers)
    (hpruned : ∀ marker ∈ s.markers, marker ∈ t.markers ∨ marker.eventId ∉ t.uses) : Kept t := by
  have hhandling : t.handling = s.handling := by
    obtain hsame | ⟨new, hnone, hnew⟩ := hworkers
    · rw [handling, hsame]
      rfl
    · rw [handling, hnew, List.flatMap_append, List.flatMap_singleton, EventWorker.handling, hnone]
      exact List.append_nil _
  have hcurrent : ∀ worker ∈ t.workers, ∀ dispatch, worker.current = some dispatch →
      worker ∈ s.workers := by
    intro worker hmem dispatch hdispatch
    obtain hsame | ⟨new, hnone, hnew⟩ := hworkers
    · exact hsame ▸ hmem
    · rw [hnew] at hmem
      obtain hold | hin := List.mem_append.mp hmem
      · exact hold
      · rw [List.mem_singleton.mp hin, hnone] at hdispatch
        cases hdispatch
  have hstays : ∀ consumer eventId, s.alreadyProcessed consumer eventId = true →
      eventId ∈ t.uses → t.alreadyProcessed consumer eventId = true := by
    intro consumer eventId hmarked hin
    obtain ⟨marker, hmem, hconsumer, hevent⟩ := alreadyProcessed_iff.mp hmarked
    obtain hleft | hgone := hpruned marker hmem
    · exact alreadyProcessed_iff.mpr ⟨marker, hleft, hconsumer, hevent⟩
    · exact absurd (hevent ▸ hin) hgone
  have hsettled : ∀ consumer eventId, s.Settled consumer eventId → t.Settled consumer eventId := by
    intro consumer eventId hsettled
    refine ⟨by rw [hlog, hrows]; exact hsettled.handled, ?_,
      Nat.lt_of_lt_of_le hsettled.known htypes⟩
    intro hin
    obtain hold | ⟨hle, -⟩ := huses eventId hin
    · exact hstays consumer eventId (hsettled.marked hold) hin
    · have hlt := hsettled.known
      omega
  refine {
    apart := hhandling ▸ h.apart
    dispatches := ?_
    once := hrows ▸ h.once
    covered := ?_
    markers := ?_
    acknowledged := ?_
    deadLetters := by rw [hlog]; exact h.deadLetters
    known := ?_
    old := ?_ }
  · intro worker hmem dispatch hdispatch
    have hok := h.dispatches worker (hcurrent worker hmem dispatch hdispatch) dispatch hdispatch
    constructor
    · intro consumer stage hphase
      obtain ⟨hstage, hmarker⟩ := hok.stage consumer stage hphase
      constructor
      · exact hstage.mono (by rw [hlog]) (hrows ▸ List.Subset.refl _)
          (fun row hrow => .inl (hrows ▸ hrow))
      · rw [← Bool.not_eq_true] at hmarker ⊢
        exact fun hmarked => hmarker (alreadyProcessed_mono hmarkers hmarked)
    · intro consumer hin
      exact (hok.interested consumer hin).imp_left (hsettled consumer _)
  · intro row hrow hin
    rw [hrows] at hrow
    rw [hhandling]
    obtain hold | ⟨hle, -⟩ := huses _ hin
    · exact (h.covered row hrow hold).imp_left (hstays _ _ · hin)
    · have hlt := h.old row hrow
      omega
  · intro marker hmem
    exact hsettled _ _ (h.markers marker (hmarkers hmem))
  · intro eventId interested hmem consumer hin
    rw [hlog] at hmem
    exact hsettled _ _ (h.acknowledged eventId interested hmem consumer hin)
  · intro eventId hin
    obtain hold | ⟨-, hlt⟩ := huses eventId hin
    · exact Nat.lt_of_lt_of_le (h.known eventId hold) htypes
    · exact hlt
  · intro row hrow
    exact Nat.lt_of_lt_of_le (h.old row (hrows ▸ hrow)) htypes

end EventStream

end Afcon360.Notifications
