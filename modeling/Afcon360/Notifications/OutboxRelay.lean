import Afcon360.Notifications.OutboxWorkers

/-!
# The relay loses nothing while workers finish

The condition on the steps is what the relay takes for granted: a worker that claims a batch
finishes it before its lock is stale, and nobody puts a row back into the queue that a worker
has in its hands. Then every committed event is in the firehose, or dead-lettered after its
failures, or will be claimed as soon as it is due.
-/

namespace Afcon360.Notifications

open Foundation

namespace Outbox

variable {s t : Outbox} {place eventId : ℕ} {row : OutboxEvent} {write : Written}
  {acts : List OutboxAct}

/-! ## The condition -/

/-- A worker that dies has all its rows in the firehose; time passes while no lock of a live
worker on a row that is not in the firehose becomes stale; and a row is put back into the
queue as it was loaded, while no live worker has it. -/
def Finishes (s : Outbox) : OutboxAct → Prop
  | .die place => ∀ call, s.workers[place]? = some call →
      ∀ eventId ∈ call.batch, eventId ∈ s.firehose
  | .tick microseconds => ∀ call ∈ s.workers, ∀ claimedAt, call.claimedAt? = some claimedAt →
      ∀ eventId ∈ call.claims, eventId ∉ s.firehose →
        s.now + microseconds - staleLock ≤ claimedAt
  | .requeueCommit place => ∀ write rest, s.requeues[place]? = some (.loaded write rest) →
      write.loaded ∈ s.rows ∧ ∀ call ∈ s.workers, write.loaded.eventId ∉ call.batch
  | _ => True

/-! ## The steps of the condition -/

theorem kept_die {call : RelayCall} (h : Kept s) (hcall : s.workers[place]? = some call)
    (hguard : ∀ eventId ∈ call.batch, eventId ∈ s.firehose) : Kept (s.setWorker place .died) := by
  have hother : ∀ second, second ∈ s.workers.set place .died → second ≠ .died →
      second ∈ s.workers := by
    intro second hin hne
    obtain rfl | hold := mem_set_workers hin
    · exact absurd rfl hne
    · exact hold
  refine ⟨h.apart.congr rfl rfl rfl rfl rfl, nodup_flatMap_set_nil h.claims hcall rfl, ?_,
    h.accounted, h.staged, ?_, ?_, ?_, ?_, ?_, h.requeues⟩
  · exact old_set h hcall (by intro eventId hmem; cases hmem)
  · intro eventId hin row hrow heq
    obtain ⟨second, hmem, hsel⟩ := List.mem_flatMap.mp hin
    have hne : second ≠ .died := by
      rintro rfl
      cases hsel
    exact h.selected eventId (List.mem_flatMap.mpr ⟨second, hother second hmem hne, hsel⟩) row
      hrow heq
  · intro second hin time htime
    have hne : second ≠ .died := by
      rintro rfl
      cases htime
    exact h.fresh second (hother second hin hne) time htime
  · exact fun time writes rest hin => h.todo time writes rest (hother _ hin (by simp))
  · intro time writes rest hin write hwrite
    have hp := h.written time writes rest (hother _ hin (by simp)) write hwrite
    exact ⟨hp.loaded, hp.locked, hp.same, hp.accounted, hp.settled⟩
  · intro row hrow hstatus
    obtain hin | hheld := h.held row hrow hstatus
    · exact .inl hin
    · by_cases hmine : row.eventId ∈ call.batch
      · exact .inl (hguard _ hmine)
      · exact .inr (mem_batch_set hcall hheld hmine)

theorem kept_tick {microseconds : ℕ} (h : Kept s)
    (hguard : s.Finishes (.tick microseconds)) :
    Kept { s with now := s.now + microseconds } := by
  refine ⟨h.apart.congr rfl rfl rfl rfl rfl, h.claims, h.old, h.accounted, h.staged, h.selected,
    hguard, h.todo, ?_, h.held, h.requeues⟩
  intro time writes rest hin write hwrite
  have hp := h.written time writes rest hin write hwrite
  exact ⟨hp.loaded, hp.locked, hp.same, hp.accounted, hp.settled⟩

/-- A row that nobody has goes back into the queue with no failure to its account. -/
theorem kept_requeueCommit {rest : List ℕ} (h : Kept s)
    (hcall : s.requeues[place]? = some (.loaded write rest))
    (hselected : ¬ s.selected.contains write.loaded.eventId)
    (hloaded : write.loaded ∈ s.rows)
    (hfree : ∀ call ∈ s.workers, write.loaded.eventId ∉ call.batch) :
    Kept { (s.updateRow write.loaded.eventId (OutboxEvent.flush write)).setRequeue place
        (.waiting rest) with
      log := .requeued write.loaded.eventId :: s.log } := by
  obtain ⟨now, hcopy⟩ := h.requeues write rest (List.mem_of_getElem? hcall)
  have hsame : SameEvent write.copy write.loaded := hcopy ▸ requeued_same
  have hfree' : write.loaded.eventId ∉ s.selected := by simpa using hselected
  have hrowCases : ∀ row ∈ (s.updateRow write.loaded.eventId (OutboxEvent.flush write)).rows,
      row = write.loaded.requeued now ∨ (row ∈ s.rows ∧ row.eventId ≠ write.loaded.eventId) := by
    intro row hrow
    obtain ⟨before, hbefore, hid, rfl⟩ | hold := mem_updateRow hrow
    · rw [row_unique h.apart hbefore hloaded hid, flush_loaded hsame, hcopy]
      exact .inl rfl
    · exact .inr hold
  have hmono : ∀ {row : OutboxEvent}, row.eventId ≠ write.loaded.eventId →
      Accounted s.firehose s.log row →
      Accounted s.firehose (.requeued write.loaded.eventId :: s.log) row := by
    intro row hne haccounted
    refine haccounted.mono (List.Subset.refl _) ?_
    rw [failures_requeued_of_ne (Ne.symm hne)]
  refine ⟨h.apart.congr (events_updateRow (fun _ => rfl) (fun _ => rfl)) rfl rfl rfl rfl, h.claims,
    ?_, ?_, h.staged, ?_, h.fresh, ?_, ?_, ?_, ?_⟩
  · intro eventId hin
    have hevents : (s.updateRow write.loaded.eventId (OutboxEvent.flush write)).events = s.events :=
      events_updateRow (fun _ => rfl) (fun _ => rfl)
    exact hevents.symm ▸ h.old eventId hin
  · intro row hrow
    obtain rfl | ⟨hold, hne⟩ := hrowCases row hrow
    · exact accounted_requeued _ _ _ _
    · exact hmono hne (h.accounted row hold)
  · intro eventId hin row hrow heq
    obtain rfl | ⟨hold, -⟩ := hrowCases row hrow
    · simp [OutboxEvent.requeued]
    · exact h.selected eventId hin row hold heq
  · intro time writes todo hin eventId htodo row hrow heq
    obtain rfl | ⟨hold, -⟩ := hrowCases row hrow
    · refine absurd (List.mem_append_right _ ?_) (hfree _ hin)
      exact heq ▸ htodo
    · exact h.todo time writes todo hin eventId htodo row hold heq
  · intro time writes todo hin later hlater
    have hp := h.written time writes todo hin later hlater
    have hne : later.loaded.eventId ≠ write.loaded.eventId := by
      intro heq
      refine hfree _ hin (List.mem_append_left _ ?_)
      exact List.mem_map.mpr ⟨later, hlater, heq⟩
    refine ⟨mem_updateRow_of_ne hp.loaded hne, hp.locked, hp.same, ?_, hp.settled⟩
    exact hmono (hp.same.eventId ▸ hne) hp.accounted
  · intro row hrow hstatus
    obtain rfl | ⟨hold, -⟩ := hrowCases row hrow
    · cases hstatus
    · exact h.held row hold hstatus
  · intro other others hin
    obtain hmem | heq := List.mem_or_eq_of_mem_set hin
    · exact h.requeues other others hmem
    · cases heq

/-! ## Runs -/

theorem load_requeued (rows : List OutboxEvent) (now : ℤ) (eventIds : List ℕ) {rest : List ℕ}
    (h : RequeueCall.load rows now eventIds = .loaded write rest) :
    ∃ now, write.copy = write.loaded.requeued now := by
  induction eventIds with
  | nil => cases h
  | cons eventId more ih =>
    unfold RequeueCall.load at h
    split at h
    · obtain ⟨rfl, -⟩ := RequeueCall.loaded.inj h
      exact ⟨now, rfl⟩
    · exact ih h

theorem requeues_append (h : Kept s) (eventIds : List ℕ) :
    ∀ write rest, .loaded write rest ∈ s.requeues ++ [.load s.rows s.now eventIds] →
      ∃ now, write.copy = write.loaded.requeued now := by
  intro write rest hin
  obtain hold | hnew := List.mem_append.mp hin
  · exact h.requeues write rest hold
  · exact load_requeued _ _ _ (List.mem_singleton.mp hnew).symm

theorem kept_step {a : OutboxAct} (h : Kept s) (hguard : s.Finishes a)
    (hstep : s.next a = some t) : Kept t := by
  have hapart : Apart t := apart_step h.apart hstep
  cases a with
  | begin =>
    cases hstep
    refine h.congr hapart rfl rfl rfl rfl rfl ?_ h.requeues
    intro staged hin
    obtain hold | hnew := List.mem_append.mp hin
    · exact h.staged staged hold
    · obtain rfl := Business.active.inj (List.mem_singleton.mp hnew)
      intro row hrow
      cases hrow
  | stage place eventType malformed =>
    simp only [next] at hstep
    split at hstep
    · rename_i staged htx
      cases hstep
      exact h.congr hapart rfl rfl rfl rfl rfl (staged_stage h eventType malformed htx) h.requeues
    · cases hstep
  | commit place =>
    simp only [next] at hstep
    split at hstep
    · rename_i staged htx
      cases hstep
      exact kept_commit h htx
    · cases hstep
  | rollback place =>
    simp only [next] at hstep
    split at hstep
    · rename_i staged htx
      cases hstep
      refine h.congr hapart rfl rfl rfl rfl rfl ?_ h.requeues
      intro rows hrows
      obtain heq | hmem := mem_business_set hrows
      · cases heq
      · exact h.staged rows hmem
    · cases hstep
  | claim worker limit skipped =>
    simp only [next] at hstep
    split at hstep
    · rename_i hskipped
      cases hstep
      exact kept_claim h worker limit hskipped
    · cases hstep
  | claimCommit place =>
    simp only [next] at hstep
    split at hstep
    · rename_i worker claimedAt batch hcall
      cases hstep
      exact kept_claimCommit h hcall
    · cases hstep
  | publishRow place reply =>
    simp only [next] at hstep
    split at hstep
    · rename_i claimedAt written eventId todo hcall
      obtain ⟨row, hfind, rfl⟩ := Option.map_eq_some_iff.mp hstep
      exact kept_publishRow h hcall hfind
    · cases hstep
  | finish place =>
    simp only [next] at hstep
    split at hstep
    · rename_i claimedAt written hcall
      split at hstep
      · cases hstep
        exact kept_finish h hcall
      · cases hstep
    · cases hstep
  | die place =>
    simp only [next] at hstep
    split at hstep
    · rename_i hcall
      cases hstep
      exact kept_die h hcall (hguard _ hcall)
    · rename_i hcall
      cases hstep
      exact kept_die h hcall (hguard _ hcall)
    · cases hstep
  | requeue eventId =>
    cases hstep
    exact h.congr hapart rfl rfl rfl rfl rfl h.staged (requeues_append h [eventId])
  | retryDeadLetters limit eventIds =>
    simp only [next] at hstep
    split at hstep
    · cases hstep
      exact h.congr hapart rfl rfl rfl rfl rfl h.staged (requeues_append h eventIds)
    · cases hstep
  | requeueCommit place =>
    simp only [next] at hstep
    split at hstep
    · rename_i write rest hcall
      split at hstep
      · cases hstep
      · rename_i hselected
        cases hstep
        obtain ⟨hloaded, hfree⟩ := hguard write rest hcall
        exact kept_requeueCommit h hcall hselected hloaded hfree
    · cases hstep
  | requeueNext place =>
    simp only [next] at hstep
    split at hstep
    · rename_i rest hcall
      cases hstep
      refine h.congr hapart rfl rfl rfl rfl rfl h.staged ?_
      intro write others hin
      obtain hmem | heq := List.mem_or_eq_of_mem_set hin
      · exact h.requeues write others hmem
      · exact load_requeued _ _ _ heq.symm
    · cases hstep
  | tick microseconds =>
    cases hstep
    exact kept_tick h hguard

theorem kept_init : Kept {} := by
  refine ⟨apart_init, ?_, ?_, ?_, ?_, ?_, ?_, ?_, ?_, ?_, ?_⟩ <;> simp [selected]

theorem kept_of_run (run : Run (Guarded Finishes Step) {} acts t) : Kept t :=
  run.invariant Kept (fun _ _ _ h hstep => kept_step h hstep.1 hstep.2) kept_init

/-! ## The statements -/

/-- A committed event is in the firehose; or its row is dead-lettered; or the row is in the
next batch as soon as it is due and its lock is stale or gone, whatever the limit is as long
as it covers the rows that are due, unless another transaction has the row locked. -/
def NothingLost (s : Outbox) : Prop :=
  ∀ staged, .committed staged ∈ s.business → ∀ event ∈ staged,
    event.eventId ∈ s.firehose ∨ ∃ row ∈ s.rows, row.eventId = event.eventId ∧
      (row.status = .deadLetter ∨
        (row.availableAt ≤ s.now → row.unlocked s.now = true → ∀ limit skipped,
          row.eventId ∉ skipped → (s.rows.filter (·.eligible s.now)).length ≤ limit →
            row.eventId ∈ s.claimBatch limit skipped))

/-- Nothing of a transaction that rolled back is on the bus. -/
def NothingInvented (s : Outbox) : Prop :=
  ∀ staged, .rolledBack staged ∈ s.business → ∀ event ∈ staged,
    event.eventId ∉ s.firehose ∧ ∀ envelope ∈ s.streams, envelope.eventId ≠ event.eventId

/-- No row is claimed by two live workers whose locks are not stale. -/
def ClaimedOnce (s : Outbox) : Prop :=
  ∀ (first second : ℕ) (one other : RelayCall), first ≠ second → s.workers[first]? = some one →
    s.workers[second]? = some other →
    (∃ claimedAt, one.claimedAt? = some claimedAt ∧ s.now - staleLock ≤ claimedAt) →
    (∃ claimedAt, other.claimedAt? = some claimedAt ∧ s.now - staleLock ≤ claimedAt) →
    ∀ eventId ∈ one.claims, eventId ∉ other.claims

/-- A dead-lettered row is malformed or has failed as often as it may since it was last put
into the queue. -/
def DeadLettersEarned (s : Outbox) : Prop :=
  ∀ row ∈ s.rows, row.status = .deadLetter →
    (∃ error, row.envelope = .malformed error) ∨
      row.attemptLimit ≤ failures row.eventId s.log

theorem nothingInvented_of_apart (h : Apart s) : s.NothingInvented := by
  intro staged htx event hevent
  have hwithheld : event.eventId ∈ s.business.flatMap withheld :=
    List.mem_flatMap.mpr ⟨_, htx, List.mem_map.mpr ⟨event, hevent, rfl⟩⟩
  have hnot : event.eventId ∉ s.events.map Prod.fst := by
    intro hcommitted
    exact (List.nodup_append.mp h.ids).2.2 _ hcommitted _ hwithheld rfl
  refine ⟨fun hin => hnot (h.firehose _ hin), ?_⟩
  intro envelope hin heq
  exact hnot (heq ▸ h.streams envelope hin)

/-- A row in `publishing` that is not in the firehose has a fresh lock. -/
theorem not_unlocked_of_publishing (h : Kept s) (hrow : row ∈ s.rows)
    (hstatus : row.status = .publishing) (hnot : row.eventId ∉ s.firehose) :
    row.unlocked s.now = false := by
  have hheld := (h.held row hrow hstatus).resolve_left hnot
  obtain ⟨call, hcall, hmem⟩ := List.mem_flatMap.mp hheld
  obtain ⟨claimedAt, htime, -, hlocked⟩ := locked_of_batch h hcall hmem hrow rfl
  have hfresh := h.fresh call hcall claimedAt htime _ (List.mem_append_right _ hmem) hnot
  simp only [OutboxEvent.unlocked, hlocked, decide_eq_false_iff_not, not_lt]
  exact hfresh

theorem nothingLost_of_kept (h : Kept s) : s.NothingLost := by
  intro staged htx event hevent
  by_cases hin : event.eventId ∈ s.firehose
  · exact .inl hin
  obtain ⟨⟨eventId, envelope⟩, hmem, heq⟩ :=
    List.mem_map.mp (h.apart.committed staged htx event hevent)
  obtain ⟨row, hrow, hpair⟩ := List.mem_map.mp hmem
  have hid : row.eventId = event.eventId := (congrArg Prod.fst hpair).trans heq
  refine .inr ⟨row, hrow, hid, ?_⟩
  by_cases hdead : row.status = .deadLetter
  · exact .inl hdead
  refine .inr fun havailable hunlocked limit skipped hskipped hlimit => ?_
  refine mem_claimBatch_of_eligible hrow ?_ hskipped hlimit
  have hnot : row.eventId ∉ s.firehose := hid ▸ hin
  have hstatus : row.status = .pending ∨ row.status = .failed := by
    cases hcase : row.status with
    | pending => exact .inl rfl
    | failed => exact .inr rfl
    | published => exact absurd ((h.accounted row hrow).published hcase) hnot
    | deadLetter => exact absurd hcase hdead
    | publishing =>
      rw [not_unlocked_of_publishing h hrow hcase hnot] at hunlocked
      cases hunlocked
  simp [OutboxEvent.eligible, hstatus, havailable, hunlocked]

/-- The bus never sees what was rolled back; and where workers finish and requeues keep off
their rows, nothing is lost, claimed twice or dead-lettered early. -/
theorem relay_loses_nothing (acts : List OutboxAct) (s : Outbox) :
    (Run Step {} acts s → s.NothingInvented) ∧
      (Run (Guarded Finishes Step) {} acts s →
        s.NothingLost ∧ s.ClaimedOnce ∧ s.DeadLettersEarned) := by
  constructor
  · intro run
    exact nothingInvented_of_apart
      (run.invariant Apart (fun _ _ _ h hstep => apart_step h hstep) apart_init)
  · intro run
    have hkept := kept_of_run run
    refine ⟨nothingLost_of_kept hkept, ?_, fun row hrow => (hkept.accounted row hrow).earned⟩
    intro first second one other hne hone hother _ _ eventId hmem
    exact not_claimed_elsewhere hkept (Ne.symm hne) hone hother hmem

/-- One event is staged and committed, and a worker claims and publishes it. -/
def published : List OutboxAct :=
  [.begin, .stage 0 "payment.successful" none, .commit 0, .claim 1 25 [], .claimCommit 0,
    .publishRow 0 .ok, .finish 0]

theorem relay_loses_nothing_published :
    ∃ s, Run (Guarded Finishes Step) {} published s ∧ s.firehose = [0] ∧ s.NothingInvented ∧
      s.NothingLost ∧ s.ClaimedOnce ∧ s.DeadLettersEarned := by
  have hdone : (exec (fun s a => if a ∈ published then next s a else none) {} published).any
      (fun s => s.firehose = [0]) = true := by
    decide +kernel
  obtain ⟨s, hexec, hfirehose⟩ := (Option.any_eq_true _ _).mp hdone
  have hrun : Run (Guarded Finishes Step) {} published s := by
    refine Run.of_exec (fun s a t h => ?_) hexec
    obtain ⟨hmem, hstep⟩ := Option.ite_none_right_eq_some.mp h
    refine ⟨?_, hstep⟩
    simp only [published, List.mem_cons, List.not_mem_nil, or_false] at hmem
    obtain rfl | rfl | rfl | rfl | rfl | rfl | rfl := hmem <;> trivial
  have hall := relay_loses_nothing published s
  exact ⟨s, hrun, of_decide_eq_true hfirehose, hall.1 hrun.of_guarded, hall.2 hrun⟩

/-- A worker claims the only row and dies; the lock becomes stale. -/
def stranded : List OutboxAct :=
  [.begin, .stage 0 "payment.successful" none, .commit 0, .claim 1 25 [], .claimCommit 0, .die 0,
    .tick 301000000]

/-- A worker claims the only row; an administrator puts it back into the queue, and a second
worker claims it. -/
def shared : List OutboxAct :=
  [.begin, .stage 0 "payment.successful" none, .commit 0, .claim 1 25 [], .claimCommit 0,
    .requeue 0, .requeueCommit 0, .claim 2 25 [], .claimCommit 1]

def event : OutboxEvent where
  eventId := 0
  envelope := .parsed ⟨0, "payment.successful"⟩
  availableAt := 0

def afterStranded : Outbox where
  now := 301000000
  rows := [event.claimedBy 1 0]
  staged := 1
  business := [.committed [event]]
  workers := [.died]

def afterShared : Outbox where
  rows := [event.claimedBy 2 0]
  staged := 1
  business := [.committed [event]]
  workers := [.publishing 0 [] [0], .publishing 0 [] [0]]
  requeues := [.waiting []]
  log := [.requeued 0]

/-- A dead worker's row is never claimed again, and a requeued one is claimed twice. -/
theorem relay_strands_and_shares :
    (Run Step {} stranded afterStranded ∧ ¬ afterStranded.NothingLost) ∧
      Run Step {} shared afterShared ∧ ¬ afterShared.ClaimedOnce := by
  refine ⟨⟨Run.of_exec (fun _ _ _ h => h) (by decide +kernel), ?_⟩,
    Run.of_exec (fun _ _ _ h => h) (by decide +kernel), ?_⟩
  · intro h
    obtain hin | ⟨row, hrow, -, hdead | hclaimed⟩ :=
      h [event] List.mem_cons_self event List.mem_cons_self
    · cases hin
    · obtain rfl := List.mem_singleton.mp hrow
      cases hdead
    · obtain rfl := List.mem_singleton.mp hrow
      exact absurd (hclaimed (by decide) (by decide) 25 [] (by decide) (by decide)) (by decide)
  · intro h
    have hfresh : ∃ claimedAt, (RelayCall.publishing 0 [] [0]).claimedAt? = some claimedAt ∧
        afterShared.now - staleLock ≤ claimedAt := ⟨0, rfl, by decide⟩
    exact h 0 1 _ _ (by decide) rfl rfl hfresh hfresh 0 (by decide) (by decide)

end Outbox

end Afcon360.Notifications
