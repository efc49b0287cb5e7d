import Afcon360.Notifications.StreamEffects

/-!
# What the consumers can rely on

The orderly runs of the stream, and runs that are not orderly.
-/

namespace Afcon360.Notifications

open Foundation

namespace EventStream

variable {rules : EventRules} {s t : EventStream} {a : StreamAct} {labels : List StreamAct}
  {place eventId : ℕ}

/-! ## Steps around the workers -/

theorem kept_init : Kept {} where
  apart := List.nodup_nil
  dispatches worker h := by cases h
  once := ⟨fun _ h => (nomatch h), List.nodup_nil⟩
  covered row h := by cases h
  markers marker h := by cases h
  acknowledged eventId interested h := by cases h
  deadLetters consumer eventId h := by cases h
  known eventId h := by cases h
  old row h := by cases h

/-- Workers and tables without a new event. -/
theorem kept_tables (h : Kept s)
    (hworkers : t.workers = s.workers ∨ ∃ new : EventWorker, new.current = none ∧
      t.workers = s.workers ++ [new])
    (htypes : t.types = s.types) (hrows : t.rows = s.rows) (hlog : t.log = s.log)
    (hmarkers : t.markers = s.markers) (huses : ∀ eventId ∈ t.uses, eventId ∈ s.uses) : Kept t :=
  kept_frame h hworkers (Nat.le_of_eq (congrArg List.length htypes).symm) hrows hlog
    (fun eventId hin => .inl (huses eventId hin)) (hmarkers ▸ List.Subset.refl _)
    (fun _ hmem => .inl (hmarkers ▸ hmem))

theorem uses_batch {batch : List (ℕ × Option Message)} {only : List Consumer}
    (hworkers : t.workers = s.workers ++ [{ only := only, batch := batch }])
    (hledger : t.ledger = s.ledger)
    (hunread : ∀ eventId ∈ t.unread.map Message.eventId, eventId ∈ s.uses)
    (hpending : ∀ eventId ∈ t.pendingEntries.map (·.message.eventId), eventId ∈ s.uses)
    (hbatch : ∀ entry ∈ batch, entry.1 ∈ s.uses) : ∀ eventId ∈ t.uses, eventId ∈ s.uses := by
  intro eventId hin
  obtain hmem | hmem | hmem | hmem := mem_uses.mp hin
  · rw [hledger] at hmem
    exact mem_uses.mpr (.inl hmem)
  · exact hunread eventId hmem
  · exact hpending eventId hmem
  · rw [hworkers, List.flatMap_append] at hmem
    obtain hold | hnew := List.mem_append.mp hmem
    · exact mem_uses.mpr (.inr (.inr (.inr hold)))
    · rw [List.flatMap_singleton] at hnew
      simp only [EventWorker.events, Option.map_none, Option.toList_none, List.append_nil] at hnew
      obtain ⟨entry, hentry, rfl⟩ := List.mem_map.mp hnew
      exact hbatch entry hentry

theorem kept_emit (h : Kept s) (eventType : String) :
    Kept { s with
      types := s.types ++ [eventType]
      ledger := s.ledger ++ [{ eventId := s.types.length, occurredAt := s.now }] } := by
  refine kept_frame h (.inl rfl) (by simp) rfl rfl ?_ (List.Subset.refl _) (fun _ hmem => .inl hmem)
  intro eventId hin
  rw [mem_uses, List.map_append, List.mem_append, or_assoc] at hin
  obtain hold | hnew | hrest := hin
  · exact .inl (mem_uses.mpr (.inl hold))
  · obtain rfl : eventId = s.types.length := List.mem_singleton.mp hnew
    exact .inr ⟨Nat.le_refl _, by simp⟩
  · exact .inl (mem_uses.mpr (.inr hrest))

theorem kept_publish (h : Kept s) (hledger : eventId ∈ s.ledger.map LedgerEvent.eventId) :
    Kept { s with
      unread := s.unread ++ [⟨s.published, eventId⟩], published := s.published + 1 } := by
  refine kept_tables h (.inl rfl) rfl rfl rfl rfl ?_
  intro other hin
  rw [mem_uses, List.map_append, List.mem_append, or_assoc] at hin
  obtain hmem | hmem | hnew | hrest := hin
  · exact mem_uses.mpr (.inl hmem)
  · exact mem_uses.mpr (.inr (.inl hmem))
  · obtain rfl : other = eventId := List.mem_singleton.mp hnew
    exact mem_uses.mpr (.inl hledger)
  · exact mem_uses.mpr (.inr (.inr hrest))

theorem unread_used {message : Message} (h : message ∈ s.unread) : message.eventId ∈ s.uses :=
  mem_uses.mpr (.inr (.inl (List.mem_map.mpr ⟨message, h, rfl⟩)))

theorem pending_used {entry : PendingEntry} (h : entry ∈ s.pendingEntries) :
    entry.message.eventId ∈ s.uses :=
  mem_uses.mpr (.inr (.inr (.inl (List.mem_map.mpr ⟨entry, h, rfl⟩))))

theorem kept_read (h : Kept s) (count : ℕ) :
    Kept { s with
      unread := s.unread.drop count
      pendingEntries := s.pendingEntries ++ (s.unread.take count).map (⟨·, s.now⟩)
      workers := s.workers ++ [{ batch := (s.unread.take count).map fun message =>
        (message.eventId, some message) }] } := by
  refine kept_tables h (.inr ⟨_, rfl, rfl⟩) rfl rfl rfl rfl (uses_batch rfl rfl ?_ ?_ ?_)
  · intro eventId hin
    obtain ⟨message, hmem, rfl⟩ := List.mem_map.mp hin
    exact unread_used (List.mem_of_mem_drop hmem)
  · intro eventId hin
    obtain ⟨entry, hmem, rfl⟩ := List.mem_map.mp hin
    obtain hold | hnew := List.mem_append.mp hmem
    · exact pending_used hold
    · obtain ⟨message, hmessage, rfl⟩ := List.mem_map.mp hnew
      exact unread_used (List.mem_of_mem_take hmessage)
  · intro entry hentry
    obtain ⟨message, hmessage, rfl⟩ := List.mem_map.mp hentry
    exact unread_used (List.mem_of_mem_take hmessage)

theorem kept_reclaim (h : Kept s) {entries : List PendingEntry}
    (hentries : ∀ entry ∈ entries, entry ∈ s.pendingEntries) :
    Kept { s with
      pendingEntries := s.pendingEntries.map fun entry =>
        if entry ∈ entries then { entry with deliveredAt := s.now } else entry
      workers := s.workers ++ [{ batch := entries.map fun entry =>
        (entry.message.eventId, some entry.message) }] } := by
  refine kept_tables h (.inr ⟨_, rfl, rfl⟩) rfl rfl rfl rfl (uses_batch rfl rfl ?_ ?_ ?_)
  · intro eventId hin
    exact mem_uses.mpr (.inr (.inl hin))
  · intro eventId hin
    obtain ⟨entry, hmem, rfl⟩ := List.mem_map.mp hin
    obtain ⟨before, hbefore, rfl⟩ := List.mem_map.mp hmem
    have hsame : (if before ∈ entries then { before with deliveredAt := s.now } else before :
        PendingEntry).message = before.message := by
      split <;> rfl
    rw [hsame]
    exact pending_used hbefore
  · intro entry hentry
    obtain ⟨before, hbefore, rfl⟩ := List.mem_map.mp hentry
    exact pending_used (hentries before hbefore)

theorem kept_replay (h : Kept s) {eventIds : List ℕ} (only : List Consumer)
    (hledger : eventIds ⊆ s.ledger.map LedgerEvent.eventId) :
    Kept { s with workers := s.workers ++ [{
      only := only, batch := eventIds.map fun eventId => (eventId, none) }] } := by
  refine kept_tables h (.inr ⟨_, rfl, rfl⟩) rfl rfl rfl rfl (uses_batch rfl rfl ?_ ?_ ?_)
  · exact fun eventId hin => mem_uses.mpr (.inr (.inl hin))
  · exact fun eventId hin => mem_uses.mpr (.inr (.inr (.inl hin)))
  · intro entry hentry
    obtain ⟨eventId, hmem, rfl⟩ := List.mem_map.mp hentry
    exact mem_uses.mpr (.inl (hledger hmem))

theorem prune_sublist {ρ : Type} (old : ρ → Bool) (batch : ℕ) (rows : List ρ) :
    (prune old batch rows).Sublist rows := by
  induction rows generalizing batch with
  | nil =>
    cases batch with
    | zero => exact List.Sublist.refl _
    | succ batch => exact List.Sublist.refl _
  | cons row rows ih =>
    cases batch with
    | zero => exact List.Sublist.refl _
    | succ batch =>
      simp only [prune]
      split
      · exact (ih batch).cons row
      · exact (ih (batch + 1)).cons_cons row

theorem kept_cleanup (h : Kept s) {retentionDays batch : ℕ}
    (hguard : ∀ marker ∈ s.markers, marker ∈ (s.cleanup retentionDays batch).markers ∨
      marker.eventId ∉ (s.cleanup retentionDays batch).uses) :
    Kept (s.cleanup retentionDays batch) := by
  refine kept_frame h (.inl rfl) (Nat.le_refl _) rfl rfl ?_ (prune_sublist _ _ _).subset hguard
  intro eventId hin
  left
  obtain hmem | hrest := mem_uses.mp hin
  · exact mem_uses.mpr (.inl (List.map_subset _ (prune_sublist _ _ _).subset hmem))
  · exact mem_uses.mpr (.inr hrest)

/-- A step on a current dispatch. -/
theorem withCurrent_eq_some {f : EventWorker → Dispatch → Option EventStream}
    (h : s.withCurrent place f = some t) :
    ∃ worker dispatch, s.workers[place]? = some worker ∧ worker.current = some dispatch ∧
      f worker dispatch = some t := by
  unfold withCurrent at h
  split at h
  · split at h
    · exact ⟨_, _, ‹_›, ‹_›, h⟩
    · cases h
  · cases h

theorem kept_step (h : Kept s) (hguard : s.Orderly rules a) (hstep : Step rules s a t) :
    Kept t := by
  unfold Step at hstep
  cases a with
  | emit eventType =>
    cases hstep
    exact kept_emit h eventType
  | publish eventId =>
    obtain ⟨-, ⟨⟩⟩ := Option.ite_none_right_eq_some.mp hstep
    exact kept_publish h (of_decide_eq_true hguard)
  | relayed eventId status =>
    obtain ⟨-, ⟨⟩⟩ := Option.ite_none_right_eq_some.mp hstep
    refine kept_tables h (.inl rfl) rfl rfl rfl rfl (fun _ hin => ?_)
    rwa [uses, mark_eventId] at hin
  | subscribe eventTypes =>
    cases hstep
    exact kept_tables h (.inl rfl) rfl rfl rfl rfl (fun _ hin => hin)
  | setStatus subscriptionId status =>
    cases hstep
    exact kept_tables h (.inl rfl) rfl rfl rfl rfl (fun _ hin => hin)
  | read count =>
    cases hstep
    exact kept_read h count
  | reclaim count =>
    cases hstep
    refine kept_reclaim h ?_
    intro entry hentry
    exact List.mem_of_mem_filter (List.mem_of_mem_take hentry)
  | replay eventIds only =>
    obtain ⟨hledger, ⟨⟩⟩ := Option.ite_none_right_eq_some.mp hstep
    exact kept_replay h only hledger
  | start place =>
    simp only [next] at hstep
    split at hstep
    · cases hstep
      exact kept_take h ‹_› (.inr ⟨_, rfl⟩)
    · cases hstep
  | skip place =>
    simp only [next] at hstep
    split at hstep
    · obtain ⟨-, ⟨⟩⟩ := Option.ite_none_right_eq_some.mp hstep
      exact kept_take h ‹_› (.inl rfl)
    · cases hstep
  | check place outcome =>
    obtain ⟨worker, dispatch, hworker, hcurrent, hcheck⟩ := withCurrent_eq_some hstep
    obtain ⟨after, hafter, rfl⟩ := Option.map_eq_some_iff.mp hcheck
    exact kept_check h hworker hcurrent hguard hafter
  | process place outcome =>
    obtain ⟨worker, dispatch, hworker, hcurrent, hprocess⟩ := withCurrent_eq_some hstep
    exact kept_process h hworker hcurrent hprocess
  | commit place ok =>
    obtain ⟨worker, dispatch, hworker, hcurrent, hcommit⟩ := withCurrent_eq_some hstep
    exact kept_commit h hworker hcurrent hguard hcommit
  | record place ok =>
    obtain ⟨worker, dispatch, hworker, hcurrent, hrecord⟩ := withCurrent_eq_some hstep
    exact kept_record h hworker hcurrent hguard hrecord
  | settle place ok =>
    obtain ⟨worker, dispatch, hworker, hcurrent, hsettle⟩ := withCurrent_eq_some hstep
    exact kept_settle h hworker hcurrent hsettle
  | acknowledge place ok =>
    obtain ⟨worker, dispatch, hworker, hcurrent, hend⟩ := withCurrent_eq_some hstep
    exact kept_acknowledge h hworker hcurrent hend
  | die place =>
    cases hstep
    exact kept_die h hguard
  | cleanup retentionDays batch =>
    cases hstep
    refine kept_cleanup h ?_
    intro marker hmem
    simpa using List.all_eq_true.mp hguard marker hmem
  | tick microseconds =>
    cases hstep
    exact kept_tables h (.inl rfl) rfl rfl rfl rfl (fun _ hin => hin)

/-! ## Runs -/

theorem kept_run (h : Kept s) (run : Run (Guarded (Orderly rules) (Step rules)) s labels t) :
    Kept t :=
  run.invariant Kept (fun _ _ _ hkept hstep => kept_step hkept hstep.1 hstep.2) h

theorem rows_step (hstep : Step rules s a t) : s.rows <+: t.rows := by
  have hsame : t.rows = s.rows → s.rows <+: t.rows := fun h => h ▸ List.prefix_refl _
  unfold Step at hstep
  cases a with
  | commit place ok =>
    obtain ⟨worker, dispatch, -, -, hcommit⟩ := withCurrent_eq_some hstep
    unfold commit at hcommit
    split at hcommit
    · cases hcommit
      split
      · exact List.prefix_append _ _
      · exact List.prefix_refl _
    · split at hcommit
      · cases hcommit
        exact List.prefix_refl _
      · split at hcommit
        · cases hcommit
          exact List.prefix_append _ _
        · cases hcommit
          exact List.prefix_refl _
    · cases hcommit
  | process place outcome =>
    obtain ⟨worker, dispatch, -, -, hprocess⟩ := withCurrent_eq_some hstep
    simp only [process] at hprocess
    split at hprocess
    · cases outcome with
      | proceeds sends =>
        cases hprocess
        exact List.prefix_refl _
      | permanent =>
        obtain ⟨-, ⟨⟩⟩ := Option.ite_none_right_eq_some.mp hprocess
        exact List.prefix_refl _
      | raises =>
        cases hprocess
        exact List.prefix_refl _
    · cases hprocess
  | record place ok =>
    obtain ⟨worker, dispatch, -, -, hrecord⟩ := withCurrent_eq_some hstep
    have hmarker : ∀ consumer eventId status,
        (s.recordMarker consumer eventId status ok).rows = s.rows := by
      intro consumer eventId status
      unfold recordMarker
      split <;> rfl
    unfold record at hrecord
    split at hrecord
    · cases hrecord
      exact hsame (hmarker _ _ _)
    · cases hrecord
      exact List.prefix_refl _
    · cases hrecord
  | check place outcome =>
    obtain ⟨worker, dispatch, -, -, hcheck⟩ := withCurrent_eq_some hstep
    obtain ⟨after, -, rfl⟩ := Option.map_eq_some_iff.mp hcheck
    exact List.prefix_refl _
  | settle place ok =>
    obtain ⟨worker, dispatch, -, -, hsettle⟩ := withCurrent_eq_some hstep
    unfold settle at hsettle
    split at hsettle
    · cases hsettle
      exact List.prefix_refl _
    · cases hsettle
  | acknowledge place ok =>
    obtain ⟨worker, dispatch, -, -, hend⟩ := withCurrent_eq_some hstep
    simp only [acknowledge] at hend
    split at hend
    · split at hend
      · split at hend
        · cases hend
          exact List.prefix_refl _
        · cases hend
          exact List.prefix_refl _
      · cases hend
        exact List.prefix_refl _
    · cases hend
  | start place =>
    simp only [next] at hstep
    split at hstep
    · exact Option.some.inj hstep ▸ List.prefix_refl _
    · cases hstep
  | skip place =>
    simp only [next] at hstep
    split at hstep
    · obtain ⟨-, ⟨⟩⟩ := Option.ite_none_right_eq_some.mp hstep
      exact List.prefix_refl _
    · cases hstep
  | publish eventId =>
    obtain ⟨-, ⟨⟩⟩ := Option.ite_none_right_eq_some.mp hstep
    exact List.prefix_refl _
  | relayed eventId status =>
    obtain ⟨-, ⟨⟩⟩ := Option.ite_none_right_eq_some.mp hstep
    exact List.prefix_refl _
  | replay eventIds only =>
    obtain ⟨-, ⟨⟩⟩ := Option.ite_none_right_eq_some.mp hstep
    exact List.prefix_refl _
  | emit eventType => exact Option.some.inj hstep ▸ List.prefix_refl _
  | subscribe eventTypes => exact Option.some.inj hstep ▸ List.prefix_refl _
  | setStatus subscriptionId status => exact Option.some.inj hstep ▸ List.prefix_refl _
  | read count => exact Option.some.inj hstep ▸ List.prefix_refl _
  | reclaim count => exact Option.some.inj hstep ▸ List.prefix_refl _
  | die place => exact Option.some.inj hstep ▸ List.prefix_refl _
  | cleanup retentionDays batch => exact Option.some.inj hstep ▸ List.prefix_refl _
  | tick microseconds => exact Option.some.inj hstep ▸ List.prefix_refl _

theorem rows_run (run : Run (Step rules) s labels t) : s.rows <+: t.rows :=
  run.relation (fun s t => s.rows <+: t.rows) (fun _ => List.prefix_refl _)
    (fun _ _ _ => List.IsPrefix.trans) (fun _ _ _ hstep => rows_step hstep)

/-- What a call of the webhook consumer has to write: one row for each active subscription that
matches. -/
theorem webhook_call {outcome : ProcessOutcome} {attempt : ℕ} {work : List ℕ}
    (hstep : Step rules s (.process place outcome) t)
    (hcall : lastCall .webhook eventId t.log = some (attempt, work)) :
    lastCall .webhook eventId s.log = some (attempt, work) ∨ work = s.matching eventId := by
  obtain ⟨worker, dispatch, -, -, hprocess⟩ := withCurrent_eq_some hstep
  simp only [process] at hprocess
  split at hprocess
  · rename_i consumer hphase
    cases outcome with
    | proceeds sends =>
      cases hprocess
      simp only [lastCall] at hcall
      split at hcall
      · rename_i hpair
        obtain ⟨rfl, rfl⟩ := hpair
        exact .inr (Prod.mk.inj (Option.some.inj hcall)).2.symm
      · exact .inl hcall
    | permanent =>
      obtain ⟨-, ⟨⟩⟩ := Option.ite_none_right_eq_some.mp hprocess
      exact .inl hcall
    | raises =>
      cases hprocess
      exact .inl hcall
  · cases hprocess

/-- In an orderly run what a consumer commits for an event comes from one call of `process`, and
no row of it is there twice. A message is acknowledged only when each consumer that was
interested has committed all it had to write or has recorded a dead letter; the webhook
consumer has then stored exactly one row for each active subscription that matched. No step, of
any run, takes back what was committed. -/
theorem effects_once {before after : List StreamAct}
    (first : Run (Guarded (Orderly rules) (Step rules)) {} before s)
    (rest : Run (Step rules) s after t) :
    Once s.rows ∧
      (∀ eventId interested, .acknowledged eventId interested ∈ s.log →
        (∀ consumer ∈ interested, Handled s.log s.rows consumer eventId) ∧
        (.webhook ∈ interested → ∃ attempt work,
          lastCall .webhook eventId s.log = some (attempt, work) ∧
          ∀ subscriptionId ∈ work,
            (s.rows.map fun row => (row.consumer, row.eventId, row.key)).count
              (.webhook, eventId, subscriptionId) = 1)) ∧
      (∀ place outcome u eventId attempt work, Step rules s (.process place outcome) u →
        lastCall .webhook eventId u.log = some (attempt, work) →
        lastCall .webhook eventId s.log = some (attempt, work) ∨ work = s.matching eventId) ∧
      s.rows <+: t.rows := by
  have hkept := kept_run kept_init first
  refine ⟨hkept.once, ?_, fun _ _ _ _ _ _ hstep hcall => webhook_call hstep hcall, rows_run rest⟩
  intro eventId interested hacknowledged
  have hhandled : ∀ consumer ∈ interested, Handled s.log s.rows consumer eventId :=
    fun consumer hin => (hkept.acknowledged eventId interested hacknowledged consumer hin).handled
  refine ⟨hhandled, ?_⟩
  intro hwebhook
  obtain ⟨attempt, work, hcall, hwork⟩ | hdead := hhandled .webhook hwebhook
  · refine ⟨attempt, work, hcall, ?_⟩
    intro subscriptionId hin
    refine List.count_eq_one_of_mem hkept.once.nodup ?_
    exact List.mem_map.mpr ⟨_, hwork subscriptionId hin, rfl⟩
  · cases hkept.deadLetters .webhook eventId hdead

/-- Event types that are audited and externally visible, and notify nobody. -/
def partnerRules : EventRules where
  notified _ := false
  audited _ := true
  externallyVisible _ := true

/-- The audit and the analytics consumer handle an event of the worker at a place. -/
def auditAndAnalytics (place : ℕ) : List StreamAct :=
  [.check place .answered,
    .check place .answered, .process place (.proceeds 0), .commit place true, .record place true,
    .check place .answered, .process place (.proceeds 0), .record place true]

/-- An event is published twice; one process reads both messages. -/
def duplicated : List StreamAct :=
  [.subscribe ["payment.*"], .subscribe ["*"], .emit "payment.successful", .publish 0, .publish 0,
    .read 128, .start 0] ++
  auditAndAnalytics 0 ++
  [.check 0 .answered, .process 0 (.proceeds 0), .commit 0 true, .record 0 true,
    .settle 0 true, .acknowledge 0 true, .start 0, .check 0 .answered, .check 0 .answered,
    .check 0 .answered, .check 0 .answered, .settle 0 true, .acknowledge 0 true]

theorem effects_once_duplicated :
    ∃ s, Run (Guarded (Orderly partnerRules) (Step partnerRules)) {} duplicated s ∧
      s.pendingEntries = [] ∧ s.rows.length = 3 ∧ Once s.rows ∧
      Handled s.log s.rows .webhook 0 := by
  have hrun : (exec (fun s a => if Orderly partnerRules s a then next partnerRules s a else none)
      {} duplicated).any (fun s => s.pendingEntries = [] ∧ s.rows.length = 3 ∧
        .acknowledged 0 [.webhook, .analytics, .audit] ∈ s.log) = true := by
    decide +kernel
  obtain ⟨s, hexec, hs⟩ := (Option.any_eq_true _ _).mp hrun
  simp only [Bool.decide_and, Bool.and_eq_true, decide_eq_true_eq] at hs
  obtain ⟨hpending, hlength, hacknowledged⟩ := hs
  have run : Run (Guarded (Orderly partnerRules) (Step partnerRules)) {} duplicated s := by
    refine Run.of_exec (fun s a t h => ?_) hexec
    exact Option.ite_none_right_eq_some.mp h
  obtain ⟨honce, hhandled, -⟩ := effects_once run (.nil s)
  exact ⟨s, run, hpending, hlength, honce,
    (hhandled 0 _ hacknowledged).1 .webhook List.mem_cons_self⟩

/-- A process dies between the audit record and its marker; the message is reclaimed. -/
def auditedTwice : List StreamAct :=
  [.emit "payment.successful", .publish 0, .read 128, .start 0, .check 0 .answered,
    .check 0 .answered, .process 0 (.proceeds 0), .commit 0 true, .die 0, .tick 300000000,
    .reclaim 128, .start 1, .check 1 .answered, .check 1 .answered, .process 1 (.proceeds 0),
    .commit 1 true]

/-- A process dies between the delivery rows and their marker; a second partner subscribes
before the message is reclaimed. -/
def lateSubscriber : List StreamAct :=
  [.subscribe ["*"], .emit "payment.successful", .publish 0, .read 128, .start 0] ++
  auditAndAnalytics 0 ++
  [.check 0 .answered, .process 0 (.proceeds 0), .commit 0 true, .die 0, .subscribe ["*"],
    .tick 300000000, .reclaim 128, .start 1, .check 1 .answered, .check 1 .answered,
    .check 1 .answered, .check 1 .answered, .process 1 (.proceeds 0), .commit 1 true,
    .record 1 true, .settle 1 true, .acknowledge 1 true]

/-- The audit record is written twice; the second subscription, active and matching when the
event is processed, gets no delivery row, and the message is acknowledged. -/
theorem audited_twice_and_undelivered :
    (∃ s, Run (Step partnerRules) {} auditedTwice s ∧
      s.rows = [⟨.audit, 0, 0, 0⟩, ⟨.audit, 0, 0, 1⟩] ∧ ¬ Once s.rows) ∧
    ∃ s, Run (Step partnerRules) {} lateSubscriber s ∧
      .acknowledged 0 [.webhook, .analytics, .audit] ∈ s.log ∧ s.matching 0 = [0, 1] ∧
      (s.rows.map fun row => (row.consumer, row.eventId, row.key)).count (.webhook, 0, 1) = 0 ∧
      ¬ Handled s.log s.rows .webhook 0 := by
  have htwice : (exec (next partnerRules) {} auditedTwice).any
      (fun s => s.rows = [⟨.audit, 0, 0, 0⟩, ⟨.audit, 0, 0, 1⟩]) = true := by
    decide +kernel
  have hlate : (exec (next partnerRules) {} lateSubscriber).any (fun s =>
      .acknowledged 0 [.webhook, .analytics, .audit] ∈ s.log ∧ s.matching 0 = [0, 1] ∧
        (s.rows.map fun row => (row.consumer, row.eventId, row.key)).count (.webhook, 0, 1) = 0 ∧
        lastCall .webhook 0 s.log = some (3, [0, 1]) ∧
        .deadLettered .webhook 0 ∉ s.log) = true := by
    decide +kernel
  obtain ⟨s, hs, hrows⟩ := (Option.any_eq_true _ _).mp htwice
  obtain ⟨t, ht, hstate⟩ := (Option.any_eq_true _ _).mp hlate
  have hrows := of_decide_eq_true hrows
  obtain ⟨hacknowledged, hmatching, hcount, hcall, hdead⟩ := of_decide_eq_true hstate
  refine ⟨⟨s, Run.of_exec (fun _ _ _ h => h) hs, hrows, ?_⟩,
    t, Run.of_exec (fun _ _ _ h => h) ht, hacknowledged, hmatching, hcount, ?_⟩
  · rw [hrows]
    intro honce
    have hattempt := honce.attempt ⟨.audit, 0, 0, 0⟩ (by simp) ⟨.audit, 0, 0, 1⟩ (by simp) rfl rfl
    cases hattempt
  · rintro (⟨attempt, work, hlast, hwork⟩ | hin)
    · obtain ⟨rfl, rfl⟩ := Prod.mk.inj (Option.some.inj (hcall.symm.trans hlast))
      have hmem := hwork 1 (by simp)
      exact List.count_eq_zero.mp hcount (List.mem_map.mpr ⟨_, hmem, rfl⟩)
    · exact hdead hin

end EventStream

end Afcon360.Notifications
