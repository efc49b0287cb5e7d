import Afcon360.Notifications.OutboxRuns

/-!
# The rows that workers hold

Where no worker dies with a row that is not in the firehose, finishes its batch while its
lock is fresh, and no row is put back into the queue while a worker has it, a row in
`publishing` that is not in the firehose belongs to one live worker, who has claimed it not
long ago. `Kept` says this and what is written about each row, and is kept by every step.
-/

namespace Afcon360.Notifications

open Foundation

/-- What a worker has selected or claimed. -/
def RelayCall.claims (call : RelayCall) : List ℕ := call.selected ++ call.batch

/-! ## What is written about a row -/

/-- A published row is in the firehose, and its failures have happened. -/
structure Accounted (firehose : List ℕ) (log : List RelayEvent) (row : OutboxEvent) : Prop where
  published : row.status = .published → row.eventId ∈ firehose
  counted : row.attempts ≤ failures row.eventId log
  earned : row.status = .deadLetter →
    (∃ error, row.envelope = .malformed error) ∨ row.attemptLimit ≤ failures row.eventId log

section Accounted

variable {firehose firehose' : List ℕ} {log log' : List RelayEvent} {row : OutboxEvent}
  {now : ℤ} {worker : ℕ} {eventId : ℕ}

theorem Accounted.mono (h : Accounted firehose log row) (hfirehose : firehose ⊆ firehose')
    (hlog : failures row.eventId log ≤ failures row.eventId log') :
    Accounted firehose' log' row where
  published hstatus := hfirehose (h.published hstatus)
  counted := h.counted.trans hlog
  earned hstatus := (h.earned hstatus).imp_right (·.trans hlog)

theorem accounted_claimedBy (h : Accounted firehose log row) :
    Accounted firehose log (row.claimedBy worker now) where
  published hstatus := by cases hstatus
  counted := h.counted
  earned hstatus := by cases hstatus

theorem accounted_requeued (firehose : List ℕ) (log : List RelayEvent) (row : OutboxEvent)
    (now : ℤ) : Accounted firehose log (row.requeued now) where
  published hstatus := by cases hstatus
  counted := Nat.zero_le _
  earned hstatus := by cases hstatus

theorem accounted_fail (error : String) (hcount : row.attempts + 1 ≤ failures row.eventId log) :
    Accounted firehose log (row.fail now error) ∧ (row.fail now error).status ≠ .publishing := by
  unfold OutboxEvent.fail
  simp only
  split
  · rename_i hlimit
    refine ⟨⟨?_, hcount, ?_⟩, by simp [OutboxEvent.dead]⟩
    · intro hstatus
      cases hstatus
    · intro _
      exact .inr (hlimit.trans hcount)
  · refine ⟨⟨?_, hcount, ?_⟩, by simp⟩
    · intro hstatus
      cases hstatus
    · intro hstatus
      cases hstatus

theorem failures_requeued_of_ne (h : eventId ≠ row.eventId) :
    failures row.eventId (.requeued eventId :: log) = failures row.eventId log := by
  simp [failures, h]

end Accounted

namespace Outbox

variable {s t : Outbox} {place other eventId : ℕ} {row : OutboxEvent} {write : Written}
  {claimedAt : ℤ} {written : List Written} {todo : List ℕ}

variable {call new : RelayCall} {skipped : List ℕ}

/-- A row that a live worker has claimed, as the claim left it. -/
def Locked (claimedAt : ℤ) (row : OutboxEvent) : Prop :=
  row.status = .publishing ∧ row.lockedAt = some claimedAt

/-- What a worker will write at the end. -/
structure Pending (s : Outbox) (claimedAt : ℤ) (write : Written) : Prop where
  loaded : write.loaded ∈ s.rows
  locked : Locked claimedAt write.loaded
  same : SameEvent write.copy write.loaded
  accounted : Accounted s.firehose s.log write.copy
  settled : write.copy.status ≠ .publishing

structure Kept (s : Outbox) : Prop where
  apart : Apart s
  claims : (s.workers.flatMap RelayCall.claims).Nodup
  old : ∀ eventId ∈ s.workers.flatMap RelayCall.claims, eventId ∈ s.events.map Prod.fst
  accounted : ∀ row ∈ s.rows, Accounted s.firehose s.log row
  staged : ∀ staged, .active staged ∈ s.business → ∀ row ∈ staged,
    row.status = .pending ∧ row.attempts = 0
  selected : ∀ eventId ∈ s.selected, ∀ row ∈ s.rows, row.eventId = eventId →
    row.status ≠ .publishing
  fresh : ∀ call ∈ s.workers, ∀ claimedAt, call.claimedAt? = some claimedAt →
    ∀ eventId ∈ call.claims, eventId ∉ s.firehose → s.now - staleLock ≤ claimedAt
  todo : ∀ claimedAt written todo, .publishing claimedAt written todo ∈ s.workers →
    ∀ eventId ∈ todo, ∀ row ∈ s.rows, row.eventId = eventId → Locked claimedAt row
  written : ∀ claimedAt written todo, .publishing claimedAt written todo ∈ s.workers →
    ∀ write ∈ written, s.Pending claimedAt write
  held : ∀ row ∈ s.rows, row.status = .publishing →
    row.eventId ∈ s.firehose ∨ row.eventId ∈ s.workers.flatMap RelayCall.batch
  requeues : ∀ write rest, .loaded write rest ∈ s.requeues →
    ∃ now, write.copy = write.loaded.requeued now

/-! ## Facts about what is held -/

theorem row_unique (h : Apart s) {row other : OutboxEvent} (hrow : row ∈ s.rows)
    (hother : other ∈ s.rows) (heq : row.eventId = other.eventId) : row = other := by
  have hnodup := (List.nodup_append.mp h.ids).1
  rw [events, List.map_map] at hnodup
  exact List.inj_on_of_nodup_map hnodup hrow hother heq

theorem mem_claims_of_batch (h : eventId ∈ s.workers.flatMap RelayCall.batch) :
    eventId ∈ s.workers.flatMap RelayCall.claims := by
  obtain ⟨call, hcall, hmem⟩ := List.mem_flatMap.mp h
  exact List.mem_flatMap.mpr ⟨call, hcall, List.mem_append_right _ hmem⟩

/-- The row of a claimed event is locked by its worker. -/
theorem locked_of_batch (h : Kept s) {call : RelayCall} (hcall : call ∈ s.workers)
    (hmem : eventId ∈ call.batch) (hrow : row ∈ s.rows) (heq : row.eventId = eventId) :
    ∃ claimedAt, call.claimedAt? = some claimedAt ∧ Locked claimedAt row := by
  cases call with
  | publishing claimedAt written todo =>
    refine ⟨claimedAt, rfl, ?_⟩
    obtain hdone | htodo := List.mem_append.mp hmem
    · obtain ⟨write, hwrite, hid⟩ := List.mem_map.mp hdone
      have hpending := h.written claimedAt written todo hcall write hwrite
      rw [row_unique h.apart hrow hpending.loaded (heq.trans hid.symm)]
      exact hpending.locked
    · exact h.todo claimedAt written todo hcall eventId htodo row hrow heq
  | claiming worker claimedAt batch => cases hmem
  | returned => cases hmem
  | died => cases hmem

theorem mem_set_workers (h : call ∈ s.workers.set place new) :
    call = new ∨ call ∈ s.workers := by
  obtain hmem | heq := List.mem_or_eq_of_mem_set h
  · exact .inr hmem
  · exact .inl heq

/-- What other workers hold, when one is replaced. -/
theorem mem_batch_set (hcall : s.workers[place]? = some call)
    (h : eventId ∈ s.workers.flatMap RelayCall.batch) (hnot : eventId ∉ call.batch) :
    eventId ∈ (s.workers.set place new).flatMap RelayCall.batch := by
  have hperm := perm_flatMap_set RelayCall.batch new hcall
  have hmem := hperm.mem_iff.mpr (List.mem_append_left _ h)
  exact (List.mem_append.mp hmem).resolve_right hnot

theorem not_claimed_elsewhere (h : Kept s) {call second : RelayCall} (hne : other ≠ place)
    (hcall : s.workers[place]? = some call) (hsecond : s.workers[other]? = some second)
    (hmem : eventId ∈ call.claims) : eventId ∉ second.claims :=
  not_mem_of_nodup_flatMap h.claims hne.symm hcall hsecond hmem

/-- The claims of the workers, when one is replaced by a worker with the same claims. -/
theorem old_set (h : Kept s) (hcall : s.workers[place]? = some call)
    (hsub : ∀ eventId ∈ new.claims, eventId ∈ call.claims) :
    ∀ eventId ∈ (s.workers.set place new).flatMap RelayCall.claims,
      eventId ∈ s.events.map Prod.fst := by
  intro eventId hmem
  obtain ⟨second, hsecond, hin⟩ := List.mem_flatMap.mp hmem
  obtain rfl | ⟨j, -, hj⟩ := mem_set_cases hsecond
  · exact h.old eventId (mem_flatMap_of_getElem? hcall (hsub eventId hin))
  · exact h.old eventId (mem_flatMap_of_getElem? hj hin)

/-! ## What a claim selects -/

theorem mem_claimBatch {limit : ℕ} (h : eventId ∈ s.claimBatch limit skipped) :
    ∃ row ∈ s.rows, row.eventId = eventId ∧ row.eligible s.now = true ∧ eventId ∉ skipped := by
  obtain ⟨row, hrow, rfl⟩ := List.mem_map.mp h
  have hsorted := (List.mem_insertionSort _).mp (List.mem_of_mem_take hrow)
  obtain ⟨hmem, hfilter⟩ := List.mem_filter.mp hsorted
  simp only [Bool.and_eq_true, Bool.not_eq_true', List.contains_eq_mem,
    decide_eq_false_iff_not] at hfilter
  exact ⟨row, hmem, rfl, hfilter.1, hfilter.2⟩

theorem claimBatch_nodup (h : Apart s) (limit : ℕ) (skipped : List ℕ) :
    (s.claimBatch limit skipped).Nodup := by
  have hnodup := (List.nodup_append.mp h.ids).1
  rw [events, List.map_map] at hnodup
  have hfilter := List.Nodup.of_map _ hnodup
  have hinj : ∀ row ∈ s.rows, ∀ other ∈ s.rows, row.eventId = other.eventId → row = other :=
    fun row hrow other hother heq => row_unique h hrow hother heq
  unfold claimBatch
  refine List.Nodup.map_on ?_ ?_
  · intro row hrow other hother heq
    exact hinj row (List.mem_of_mem_filter
      ((List.mem_insertionSort _).mp (List.mem_of_mem_take hrow)))
      other (List.mem_of_mem_filter ((List.mem_insertionSort _).mp (List.mem_of_mem_take hother)))
        heq
  · exact (List.take_sublist _ _).nodup ((List.perm_insertionSort _ _).nodup_iff.mpr
      (hfilter.filter _))

/-- A row that is eligible and locked by nobody is in the batch, if the batch is large
enough for the eligible rows. -/
theorem mem_claimBatch_of_eligible {limit : ℕ} (hrow : row ∈ s.rows)
    (heligible : row.eligible s.now = true) (hskipped : row.eventId ∉ skipped)
    (hlimit : (s.rows.filter (·.eligible s.now)).length ≤ limit) :
    row.eventId ∈ s.claimBatch limit skipped := by
  refine List.mem_map.mpr ⟨row, ?_, rfl⟩
  rw [List.take_of_length_le]
  · refine (List.mem_insertionSort _).mpr (List.mem_filter.mpr ⟨hrow, ?_⟩)
    simp [heligible, hskipped]
  · rw [List.length_insertionSort]
    refine le_trans ?_ hlimit
    have hsub : ∀ row ∈ s.rows,
        (row.eligible s.now && !skipped.contains row.eventId) = true →
          row.eligible s.now = true := by
      intro row _ h
      exact (Bool.and_eq_true_iff.mp h).1
    rw [← List.countP_eq_length_filter, ← List.countP_eq_length_filter]
    exact List.countP_mono_left hsub

theorem status_of_eligible {now : ℤ} (h : row.eligible now = true) : row.status ≠ .publishing := by
  intro hstatus
  simp [OutboxEvent.eligible, hstatus] at h

/-! ## The steps -/

/-- A step that leaves the committed rows, the workers, the bus, the clock and the log. -/
theorem Kept.congr (h : Kept s) (hapart : Apart t) (hrows : t.rows = s.rows)
    (hworkers : t.workers = s.workers) (hfirehose : t.firehose = s.firehose)
    (hnow : t.now = s.now) (hlog : t.log = s.log)
    (hstaged : ∀ staged, .active staged ∈ t.business → ∀ row ∈ staged,
      row.status = .pending ∧ row.attempts = 0)
    (hrequeues : ∀ write rest, .loaded write rest ∈ t.requeues →
      ∃ now, write.copy = write.loaded.requeued now) : Kept t := by
  have hpending : ∀ claimedAt write, s.Pending claimedAt write → t.Pending claimedAt write := by
    intro claimedAt write hp
    refine ⟨?_, hp.locked, hp.same, ?_, hp.settled⟩
    · rw [hrows]
      exact hp.loaded
    · rw [hfirehose, hlog]
      exact hp.accounted
  have hevents : t.events = s.events := by rw [events, events, hrows]
  refine ⟨hapart, ?_, ?_, ?_, hstaged, ?_, ?_, ?_, ?_, ?_, hrequeues⟩
  · rw [hworkers]
    exact h.claims
  · rw [hworkers, hevents]
    exact h.old
  · rw [hrows, hfirehose, hlog]
    exact h.accounted
  · rw [Outbox.selected, hworkers, hrows]
    exact h.selected
  · rw [hworkers, hfirehose, hnow]
    exact h.fresh
  · rw [hworkers, hrows]
    exact h.todo
  · rw [hworkers]
    exact fun claimedAt written todo hcall write hwrite =>
      hpending claimedAt write (h.written claimedAt written todo hcall write hwrite)
  · rw [hrows, hfirehose, hworkers]
    exact h.held

theorem staged_stage {staged : List OutboxEvent} (h : Kept s) (eventType : String)
    (malformed : Option String) (htx : s.business[place]? = some (.active staged)) :
    ∀ rows, .active rows ∈ s.business.set place
      (.active (staged ++ [s.newRow eventType malformed])) →
      ∀ row ∈ rows, row.status = .pending ∧ row.attempts = 0 := by
  intro rows hrows row hrow
  obtain heq | hmem := mem_business_set hrows
  · obtain rfl := Business.active.inj heq
    obtain hold | hnew := List.mem_append.mp hrow
    · exact h.staged staged (List.mem_of_getElem? htx) row hold
    · rw [List.mem_singleton.mp hnew]
      exact ⟨rfl, rfl⟩
  · exact h.staged rows hmem row hrow

theorem kept_commit {staged : List OutboxEvent} (h : Kept s)
    (htx : s.business[place]? = some (.active staged)) :
    Kept { s with
      rows := s.rows ++ staged, business := s.business.set place (.committed staged) } := by
  have hnew : ∀ row ∈ staged, row.eventId ∉ s.workers.flatMap RelayCall.claims := by
    intro row hrow hclaimed
    have hwithheld : row.eventId ∈ s.business.flatMap withheld :=
      mem_flatMap_of_getElem? htx (List.mem_map.mpr ⟨row, hrow, rfl⟩)
    exact (List.nodup_append.mp h.apart.ids).2.2 _ (h.old _ hclaimed) _ hwithheld rfl
  have hrowOf := h.staged staged (List.mem_of_getElem? htx)
  refine ⟨apart_commit h.apart htx, h.claims, ?_, ?_, ?_, ?_, h.fresh, ?_, ?_, ?_, h.requeues⟩
  · intro eventId hmem
    simp only [events, List.map_append, List.mem_append]
    exact .inl (h.old eventId hmem)
  · intro row hrow
    obtain hold | hstaged := List.mem_append.mp hrow
    · exact h.accounted row hold
    · obtain ⟨hstatus, hattempts⟩ := hrowOf row hstaged
      constructor
      · intro hpublished
        rw [hstatus] at hpublished
        cases hpublished
      · rw [hattempts]
        exact Nat.zero_le _
      · intro hdead
        rw [hstatus] at hdead
        cases hdead
  · intro rows hrows
    obtain heq | hmem := mem_business_set hrows
    · cases heq
    · exact h.staged rows hmem
  · intro eventId hselected row hrow heq
    obtain hold | hstaged := List.mem_append.mp hrow
    · exact h.selected eventId hselected row hold heq
    · rw [(hrowOf row hstaged).1]
      simp
  · intro claimedAt written todo hcall eventId htodo row hrow heq
    obtain hold | hstaged := List.mem_append.mp hrow
    · exact h.todo claimedAt written todo hcall eventId htodo row hold heq
    · refine absurd (mem_claims_of_batch ?_) (hnew row hstaged)
      rw [heq]
      exact List.mem_flatMap.mpr ⟨_, hcall, List.mem_append_right _ htodo⟩
  · intro claimedAt written todo hcall write hwrite
    have hp := h.written claimedAt written todo hcall write hwrite
    exact ⟨List.mem_append_left _ hp.loaded, hp.locked, hp.same, hp.accounted, hp.settled⟩
  · intro row hrow hstatus
    obtain hold | hstaged := List.mem_append.mp hrow
    · exact h.held row hold hstatus
    · rw [(hrowOf row hstaged).1] at hstatus
      cases hstatus

theorem kept_claim (h : Kept s) (worker limit : ℕ) (hskipped : s.skippable skipped = true) :
    Kept { s with
      workers := s.workers ++ [
        match s.claimBatch limit skipped with
        | [] => .returned
        | batch => .claiming worker s.now batch] } := by
  set new : RelayCall :=
    match s.claimBatch limit skipped with
    | [] => .returned
    | batch => .claiming worker s.now batch with hnew
  have hclaims : new.claims = s.claimBatch limit skipped := by
    rw [hnew]
    split
    · rename_i hnil
      rw [hnil]
      rfl
    · simp [RelayCall.claims, RelayCall.selected, RelayCall.batch]
  have hselected : new.selected = s.claimBatch limit skipped := by
    rw [hnew]
    split
    · rename_i hnil
      rw [hnil]
      rfl
    · rfl
  have hbatch : new.batch = [] := by
    rw [hnew]
    split <;> rfl
  have htime : ∀ claimedAt, new.claimedAt? = some claimedAt → claimedAt = s.now := by
    rw [hnew]
    intro claimedAt htime
    split at htime
    · cases htime
    · exact (Option.some.inj htime).symm
  have hpublishing : ∀ claimedAt written todo, .publishing claimedAt written todo ∈
    s.workers ++ [new] →
      RelayCall.publishing claimedAt written todo ∈ s.workers := by
    intro claimedAt written todo hmem
    obtain hold | hlast := List.mem_append.mp hmem
    · exact hold
    · have heq := List.mem_singleton.mp hlast
      rw [hnew] at heq
      split at heq
      · cases heq
      · cases heq
  -- an eligible row that is not skipped is neither selected nor claimed
  have hapart : ∀ eventId ∈ s.claimBatch limit skipped,
      eventId ∉ s.workers.flatMap RelayCall.claims := by
    intro eventId hmem hclaimed
    obtain ⟨row, hrow, rfl, heligible, hnot⟩ := mem_claimBatch hmem
    obtain ⟨call, hcall, hin⟩ := List.mem_flatMap.mp hclaimed
    obtain hsel | hheld := List.mem_append.mp hin
    · have hall := (Bool.and_eq_true_iff.mp hskipped).1
      rw [List.all_eq_true] at hall
      exact hnot (by simpa using hall _ (List.mem_flatMap.mpr ⟨call, hcall, hsel⟩))
    · obtain ⟨_, _, hlocked⟩ := locked_of_batch h hcall hheld hrow rfl
      exact status_of_eligible heligible hlocked.1
  refine ⟨h.apart.congr rfl rfl rfl rfl rfl, ?_, ?_, h.accounted, h.staged, ?_, ?_, ?_, ?_, ?_,
    h.requeues⟩
  · rw [List.flatMap_append, List.flatMap_singleton, hclaims]
    refine List.nodup_append.mpr ⟨h.claims, claimBatch_nodup h.apart limit skipped, ?_⟩
    rintro eventId hclaimed other hother rfl
    exact hapart eventId hother hclaimed
  · intro eventId hmem
    rw [List.flatMap_append, List.flatMap_singleton, hclaims] at hmem
    obtain hold | hin := List.mem_append.mp hmem
    · exact h.old eventId hold
    · obtain ⟨row, hrow, rfl, -⟩ := mem_claimBatch hin
      exact mem_ids hrow
  · intro eventId hmem row hrow heq
    rw [selected, List.flatMap_append, List.flatMap_singleton, hselected] at hmem
    obtain hold | hin := List.mem_append.mp hmem
    · exact h.selected eventId hold row hrow heq
    · obtain ⟨other, hother, hid, heligible, -⟩ := mem_claimBatch hin
      rw [row_unique h.apart hrow hother (heq.trans hid.symm)]
      exact status_of_eligible heligible
  · intro call hcall claimedAt hclaimedAt eventId hmem hnot
    obtain hold | hlast := List.mem_append.mp hcall
    · exact h.fresh call hold claimedAt hclaimedAt eventId hmem hnot
    · rw [List.mem_singleton.mp hlast] at hclaimedAt
      rw [htime claimedAt hclaimedAt]
      have hpos : (0 : ℤ) ≤ staleLock := by decide
      show s.now - staleLock ≤ s.now
      omega
  · exact fun claimedAt written todo hmem => h.todo claimedAt written todo (hpublishing _ _ _ hmem)
  · intro claimedAt written todo hmem write hwrite
    have hp := h.written claimedAt written todo (hpublishing _ _ _ hmem) write hwrite
    exact ⟨hp.loaded, hp.locked, hp.same, hp.accounted, hp.settled⟩
  · intro row hrow hstatus
    rw [List.flatMap_append, List.flatMap_singleton, hbatch, List.append_nil]
    exact h.held row hrow hstatus

theorem kept_claimCommit {worker : ℕ} {batch : List ℕ} (h : Kept s)
    (hcall : s.workers[place]? = some (.claiming worker claimedAt batch)) :
    Kept ((s.markClaimed worker claimedAt batch).setWorker place
      (.publishing claimedAt [] batch)) := by
  have hplace : place < s.workers.length := (List.getElem?_eq_some_iff.mp hcall).1
  have hclaims : (RelayCall.publishing claimedAt [] batch).claims =
      (RelayCall.claiming worker claimedAt batch).claims := by
    simp [RelayCall.claims, RelayCall.selected, RelayCall.batch]
  have hmine : ∀ eventId ∈ batch, eventId ∈ (RelayCall.claiming worker claimedAt batch).claims :=
    fun eventId hmem => List.mem_append_left _ hmem
  have hrowCases : ∀ row ∈ (s.markClaimed worker claimedAt batch).rows,
      (row.eventId ∈ batch ∧ ∃ before ∈ s.rows, row = before.claimedBy worker claimedAt) ∨
        (row.eventId ∉ batch ∧ row ∈ s.rows) := by
    intro row hrow
    obtain ⟨before, hbefore, rfl⟩ := List.mem_map.mp hrow
    by_cases hin : before.eventId ∈ batch
    · rw [if_pos hin]
      exact .inl ⟨hin, before, hbefore, rfl⟩
    · rw [if_neg hin]
      exact .inr ⟨hin, hbefore⟩
  have hkeeps : ∀ row ∈ s.rows, row.eventId ∉ batch →
      row ∈ (s.markClaimed worker claimedAt batch).rows := by
    intro row hrow hnot
    exact List.mem_map.mpr ⟨row, hrow, if_neg hnot⟩
  refine ⟨h.apart.congr (events_markClaimed _ _ _) rfl rfl rfl rfl, ?_, ?_, ?_, h.staged,
    ?_, ?_, ?_,
    ?_, ?_, h.requeues⟩
  · exact nodup_flatMap_set_same h.claims hcall (hclaims ▸ List.Perm.refl _)
  · have hevents : events ((s.markClaimed worker claimedAt batch).setWorker place
        (.publishing claimedAt [] batch)) = s.events := events_markClaimed _ _ _
    rw [hevents]
    exact old_set h hcall (fun eventId hmem => hclaims ▸ hmem)
  · intro row hrow
    obtain ⟨-, before, hbefore, rfl⟩ | ⟨-, hold⟩ := hrowCases row hrow
    · exact accounted_claimedBy (h.accounted before hbefore)
    · exact h.accounted row hold
  · intro eventId hmem row hrow heq
    obtain ⟨call, hset, hsel⟩ := List.mem_flatMap.mp hmem
    obtain rfl | ⟨j, hne, hj⟩ := mem_set_cases hset
    · cases hsel
    · obtain ⟨hin, -⟩ | ⟨-, hold⟩ := hrowCases row hrow
      · exact absurd (List.mem_append_left _ (heq ▸ hsel))
          (not_claimed_elsewhere h hne hcall hj (hmine _ hin))
      · exact h.selected eventId (mem_flatMap_of_getElem? hj hsel) row hold heq
  · intro call hset time htime eventId hmem hnot
    obtain rfl | ⟨j, -, hj⟩ := mem_set_cases hset
    · exact h.fresh _ (List.mem_of_getElem? hcall) time htime eventId (hclaims ▸ hmem) hnot
    · exact h.fresh call (List.mem_of_getElem? hj) time htime eventId hmem hnot
  · intro time written todo hset eventId htodo row hrow heq
    obtain hnew | ⟨j, hne, hj⟩ := mem_set_cases hset
    · obtain ⟨rfl, rfl, rfl⟩ := RelayCall.publishing.inj hnew
      obtain ⟨-, before, -, rfl⟩ | ⟨hout, -⟩ := hrowCases row hrow
      · exact ⟨rfl, rfl⟩
      · exact absurd (heq ▸ htodo) hout
    · obtain ⟨hin, -⟩ | ⟨-, hold⟩ := hrowCases row hrow
      · refine absurd (List.mem_append_right _ ?_)
          (not_claimed_elsewhere h hne hcall hj (hmine _ hin))
        exact List.mem_append_right _ (heq ▸ htodo)
      · exact h.todo time written todo (List.mem_of_getElem? hj) eventId htodo row hold heq
  · intro time written todo hset write hwrite
    obtain hnew | ⟨j, hne, hj⟩ := mem_set_cases hset
    · obtain ⟨rfl, rfl, rfl⟩ := RelayCall.publishing.inj hnew
      cases hwrite
    · have hp := h.written time written todo (List.mem_of_getElem? hj) write hwrite
      refine ⟨hkeeps _ hp.loaded ?_, hp.locked, hp.same, hp.accounted, hp.settled⟩
      intro hin
      refine not_claimed_elsewhere h hne hcall hj (hmine _ hin) (List.mem_append_right _ ?_)
      exact List.mem_append_left _ (List.mem_map.mpr ⟨write, hwrite, rfl⟩)
  · intro row hrow hstatus
    obtain ⟨hin, -⟩ | ⟨-, hold⟩ := hrowCases row hrow
    · exact .inr (mem_flatMap_of_getElem? (List.getElem?_set_self hplace) hin)
    · refine (h.held row hold hstatus).imp_right fun hbatch => ?_
      exact mem_batch_set hcall hbatch (by simp [RelayCall.batch])

/-! ## Publishing -/

/-- The two `XADD`s leave the tables and the workers, and take nothing back. -/
theorem xadd_frame (s : Outbox) (row : OutboxEvent) (reply : BusReply) :
    (s.xadd row reply).rows = s.rows ∧ (s.xadd row reply).workers = s.workers ∧
      (s.xadd row reply).business = s.business ∧ (s.xadd row reply).now = s.now ∧
      (s.xadd row reply).requeues = s.requeues ∧ s.firehose ⊆ (s.xadd row reply).firehose ∧
      ∀ eventId, failures eventId s.log ≤ failures eventId (s.xadd row reply).log := by
  unfold xadd
  split
  · exact ⟨rfl, rfl, rfl, rfl, rfl, List.Subset.refl _, fun _ => le_refl _⟩
  · refine ⟨rfl, rfl, rfl, rfl, rfl, ?_, ?_⟩
    · dsimp only
      split
      · exact List.subset_append_left _ _
      · exact List.Subset.refl _
    · intro eventId
      dsimp only
      split
      · exact Nat.le_add_right _ _
      · exact le_refl _

/-- What a worker is going to write is accounted for when it has done its publication. -/
theorem accounted_publishRow (h : Accounted s.firehose s.log row)
    (hnamed : Named (row.eventId, row.envelope)) (now : ℤ) (reply : BusReply) :
    Accounted (s.xadd row reply).firehose (s.xadd row reply).log (row.publishRow now reply) ∧
      (row.publishRow now reply).status ≠ .publishing := by
  unfold xadd OutboxEvent.publishRow
  split
  · rename_i error henvelope
    refine ⟨⟨?_, h.counted, fun _ => .inl ⟨error, henvelope⟩⟩, by simp [OutboxEvent.dead]⟩
    intro hstatus
    cases hstatus
  · rename_i envelope henvelope
    have hname : envelope.eventId = row.eventId := hnamed envelope henvelope
    cases herror : reply.error? with
    | some error =>
      refine accounted_fail _ ?_
      simp [failures, h.counted]
    | none =>
      have hok : reply = .ok := by
        cases reply with
        | ok => rfl
        | firstFails applied error => cases herror
        | secondFails applied error => cases herror
      refine ⟨⟨?_, by simpa using h.counted, ?_⟩, by simp⟩
      · intro _
        simp [hok, BusReply.inFirehose, hname]
      · intro hstatus
        cases hstatus

/-- The rows of the other workers and what they write do not depend on the bus. -/
theorem kept_publishRow {reply : BusReply} (h : Kept s)
    (hcall : s.workers[place]? = some (.publishing claimedAt written (eventId :: todo)))
    (hfind : s.rows.find? (·.eventId = eventId) = some row) :
    Kept ((s.xadd row reply).setWorker place
      (.publishing claimedAt (written ++ [⟨row, row.publishRow s.now reply⟩]) todo)) := by
  have hrow : row ∈ s.rows := List.mem_of_find?_eq_some hfind
  have hid : row.eventId = eventId := by simpa using List.find?_some hfind
  have hnamed := h.apart.named _ (mem_events hrow)
  have hmember := List.mem_of_getElem? hcall
  obtain ⟨hrows, hworkers, hbusiness, hnow, hrequeues, hfirehose, hlog⟩ := xadd_frame s row reply
  have hplace : place < s.workers.length := (List.getElem?_eq_some_iff.mp hcall).1
  set new : RelayCall :=
    .publishing claimedAt (written ++ [⟨row, row.publishRow s.now reply⟩]) todo with hnew
  have hbatch : new.batch =
      (RelayCall.publishing claimedAt written (eventId :: todo)).batch := by
    simp [hnew, RelayCall.batch, hid]
  have hclaims : new.claims =
      (RelayCall.publishing claimedAt written (eventId :: todo)).claims := by
    rw [RelayCall.claims, RelayCall.claims, hbatch]
    rfl
  have hevents : ((s.xadd row reply).setWorker place new).events = s.events := by
    simp [events, setWorker, hrows]
  have hset : ((s.xadd row reply).setWorker place new).workers = s.workers.set place new := by
    simp [setWorker, hworkers]
  have hpending : ∀ time write, s.Pending time write →
      ((s.xadd row reply).setWorker place new).Pending time write := by
    intro time write hp
    refine ⟨?_, hp.locked, hp.same, hp.accounted.mono hfirehose (hlog _), hp.settled⟩
    exact hrows.symm ▸ hp.loaded
  constructor
  · exact (apart_xadd h.apart hrow reply).congr rfl rfl rfl rfl rfl
  · rw [hset]
    exact nodup_flatMap_set_same h.claims hcall (hclaims ▸ List.Perm.refl _)
  · rw [hset, hevents]
    exact old_set h hcall (fun eventId hmem => hclaims ▸ hmem)
  · intro other hother
    exact (h.accounted other (hrows ▸ hother)).mono hfirehose (hlog _)
  · intro staged hstaged
    exact h.staged staged (hbusiness ▸ hstaged)
  · rw [Outbox.selected, hset]
    intro otherId hmem other hother heq
    obtain ⟨call, hin, hsel⟩ := List.mem_flatMap.mp hmem
    obtain rfl | ⟨j, -, hj⟩ := mem_set_cases hin
    · cases hsel
    · exact h.selected otherId (mem_flatMap_of_getElem? hj hsel) other (hrows ▸ hother) heq
  · rw [hset]
    intro call hin time htime otherId hmem hnot
    have hbefore : otherId ∉ s.firehose := fun hold => hnot (hfirehose hold)
    rw [show ((s.xadd row reply).setWorker place new).now = s.now from hnow]
    obtain rfl | ⟨j, -, hj⟩ := mem_set_cases hin
    · exact h.fresh _ hmember time htime otherId (hclaims ▸ hmem) hbefore
    · exact h.fresh call (List.mem_of_getElem? hj) time htime otherId hmem hbefore
  · rw [hset]
    intro time writes rest hin otherId hrest other hother heq
    obtain hself | ⟨j, -, hj⟩ := mem_set_cases hin
    · rw [hnew] at hself
      obtain ⟨rfl, -, rfl⟩ := RelayCall.publishing.inj hself
      exact h.todo time written _ hmember otherId (List.mem_cons_of_mem _ hrest) other
        (hrows ▸ hother) heq
    · exact h.todo time writes rest (List.mem_of_getElem? hj) otherId hrest other
        (hrows ▸ hother) heq
  · rw [hset]
    intro time writes rest hin write hwrite
    obtain hself | ⟨j, -, hj⟩ := mem_set_cases hin
    · rw [hnew] at hself
      obtain ⟨rfl, rfl, rfl⟩ := RelayCall.publishing.inj hself
      obtain hold | hlast := List.mem_append.mp hwrite
      · exact hpending time write (h.written time written _ hmember write hold)
      · rw [List.mem_singleton.mp hlast]
        obtain ⟨haccounted, hsettled⟩ :=
          accounted_publishRow (h.accounted row hrow) hnamed s.now reply
        refine ⟨hrows.symm ▸ hrow, ?_, publishRow_same, haccounted, hsettled⟩
        exact h.todo time written _ hmember eventId List.mem_cons_self row hrow hid
    · exact hpending time write (h.written time writes rest (List.mem_of_getElem? hj) write hwrite)
  · intro other hother hstatus
    rw [hset]
    obtain hin | hheld := h.held other (hrows ▸ hother) hstatus
    · exact .inl (hfirehose hin)
    · by_cases hmine : other.eventId ∈ new.batch
      · exact .inr (mem_flatMap_of_getElem? (List.getElem?_set_self hplace) hmine)
      · exact .inr (mem_batch_set hcall hheld (hbatch ▸ hmine))
  · intro write rest hin
    exact h.requeues write rest (hrequeues ▸ hin)

/-! ## The final commit -/

theorem mem_updateRow {f : OutboxEvent → OutboxEvent} (h : row ∈ (s.updateRow eventId f).rows) :
    (∃ before ∈ s.rows, before.eventId = eventId ∧ row = f before) ∨
      (row ∈ s.rows ∧ row.eventId ≠ eventId) := by
  obtain ⟨before, hbefore, rfl⟩ := List.mem_map.mp h
  by_cases hid : before.eventId = eventId
  · rw [if_pos hid]
    exact .inl ⟨before, hbefore, hid, rfl⟩
  · rw [if_neg hid]
    exact .inr ⟨hbefore, hid⟩

theorem mem_updateRow_of_ne {f : OutboxEvent → OutboxEvent} (h : row ∈ s.rows)
    (hne : row.eventId ≠ eventId) : row ∈ (s.updateRow eventId f).rows :=
  List.mem_map.mpr ⟨row, h, if_neg hne⟩

/-- When nobody else has written the rows, a final commit stores the copies. -/
theorem mem_flushAll (hloaded : ∀ write ∈ written, SameEvent write.copy write.loaded ∧
      ∀ row ∈ s.rows, row.eventId = write.loaded.eventId → row = write.loaded)
    (hnodup : (written.map (·.loaded.eventId)).Nodup) (h : row ∈ (s.flushAll written).rows) :
    (row ∈ s.rows ∧ ∀ write ∈ written, row.eventId ≠ write.loaded.eventId) ∨
      ∃ write ∈ written, row = write.copy := by
  induction written generalizing s with
  | nil => exact .inl ⟨h, fun _ hwrite => by cases hwrite⟩
  | cons write rest ih =>
    obtain ⟨hfirst, hrest⟩ := List.nodup_cons.mp hnodup
    have hne : ∀ later ∈ rest, later.loaded.eventId ≠ write.loaded.eventId :=
      fun later hlater heq => hfirst (List.mem_map.mpr ⟨later, hlater, heq⟩)
    obtain ⟨hsame, hunique⟩ := hloaded write List.mem_cons_self
    have hafter := ih (s := s.updateRow write.loaded.eventId (OutboxEvent.flush write))
      (by
        intro later hlater
        obtain ⟨hlaterSame, hlaterUnique⟩ := hloaded later (List.mem_cons_of_mem _ hlater)
        refine ⟨hlaterSame, fun row hrow heq => ?_⟩
        obtain ⟨before, -, hid, rfl⟩ | ⟨hold, -⟩ := mem_updateRow hrow
        · exact absurd (heq.symm.trans hid) (hne later hlater)
        · exact hlaterUnique row hold heq)
      hrest h
    obtain ⟨hrow, hnone⟩ | ⟨later, hlater, heq⟩ := hafter
    · obtain ⟨before, hbefore, hid, rfl⟩ | ⟨hold, hnot⟩ := mem_updateRow hrow
      · refine .inr ⟨write, List.mem_cons_self, ?_⟩
        rw [hunique before hbefore hid, flush_loaded hsame]
      · refine .inl ⟨hold, fun later hlater => ?_⟩
        obtain rfl | hmem := List.mem_cons.mp hlater
        · exact hnot
        · exact hnone later hmem
    · exact .inr ⟨later, List.mem_cons_of_mem _ hlater, heq⟩

theorem mem_flushAll_of_ne (h : row ∈ s.rows)
    (hne : ∀ write ∈ written, row.eventId ≠ write.loaded.eventId) :
    row ∈ (s.flushAll written).rows := by
  induction written generalizing s with
  | nil => exact h
  | cons write rest ih =>
    exact ih (mem_updateRow_of_ne h (hne write List.mem_cons_self))
      (fun later hlater => hne later (List.mem_cons_of_mem _ hlater))

theorem kept_finish (h : Kept s)
    (hcall : s.workers[place]? = some (.publishing claimedAt written [])) :
    Kept ((s.flushAll written).setWorker place .returned) := by
  have hmember := List.mem_of_getElem? hcall
  have hbatch : (RelayCall.publishing claimedAt written []).batch =
      written.map (·.loaded.eventId) := by simp [RelayCall.batch]
  have hmine : ∀ write ∈ written, write.loaded.eventId ∈
      (RelayCall.publishing claimedAt written []).claims := by
    intro write hwrite
    refine List.mem_append_right _ ?_
    rw [hbatch]
    exact List.mem_map.mpr ⟨write, hwrite, rfl⟩
  have hnodup : (written.map (·.loaded.eventId)).Nodup := by
    have hall := (List.nodup_flatMap.mp h.claims).1 _ hmember
    rw [RelayCall.claims, hbatch] at hall
    exact (List.nodup_append.mp hall).2.1
  have hloaded : ∀ write ∈ written, SameEvent write.copy write.loaded ∧
      ∀ row ∈ s.rows, row.eventId = write.loaded.eventId → row = write.loaded := by
    intro write hwrite
    have hp := h.written claimedAt written [] hmember write hwrite
    exact ⟨hp.same, fun row hrow heq => row_unique h.apart hrow hp.loaded heq⟩
  obtain ⟨hevents, hbusiness, hstaged, hstreams, hfirehose, hworkers, hlog, hnow, hrequeues⟩ :=
    flushAll_frame written s
  have hset : ((s.flushAll written).setWorker place .returned).workers =
      s.workers.set place .returned := by simp [setWorker, hworkers]
  have helsewhere : ∀ (j : ℕ) (call : RelayCall) (eventId : ℕ), j ≠ place →
      s.workers[j]? = some call → eventId ∈ call.claims →
      ∀ write ∈ written, eventId ≠ write.loaded.eventId := by
    rintro j call _ hne hj hin write hwrite rfl
    exact not_claimed_elsewhere h hne hcall hj (hmine write hwrite) hin
  constructor
  · exact h.apart.congr hevents hbusiness hstaged hstreams hfirehose
  · rw [hset]
    exact nodup_flatMap_set_nil h.claims hcall rfl
  · rw [hset]
    intro eventId hin
    have hold : eventId ∈ s.events.map Prod.fst := by
      refine old_set h hcall ?_ eventId hin
      intro other hmem
      cases hmem
    exact hevents.symm ▸ hold
  · intro row hrow
    show Accounted (s.flushAll written).firehose (s.flushAll written).log row
    rw [hfirehose, hlog]
    obtain ⟨hold, -⟩ | ⟨write, hwrite, rfl⟩ := mem_flushAll hloaded hnodup hrow
    · exact h.accounted row hold
    · exact (h.written claimedAt written [] hmember write hwrite).accounted
  · intro staged hin
    exact h.staged staged (hbusiness ▸ hin)
  · rw [Outbox.selected, hset]
    intro eventId hin row hrow heq
    obtain ⟨call, hmem, hsel⟩ := List.mem_flatMap.mp hin
    obtain rfl | ⟨j, hne, hj⟩ := mem_set_cases hmem
    · cases hsel
    · obtain ⟨hold, -⟩ | ⟨write, hwrite, rfl⟩ := mem_flushAll hloaded hnodup hrow
      · exact h.selected eventId (mem_flatMap_of_getElem? hj hsel) row hold heq
      · exact (h.written claimedAt written [] hmember write hwrite).settled
  · rw [hset]
    intro call hin time htime eventId hmem hnot
    show (s.flushAll written).now - staleLock ≤ time
    rw [hnow]
    have hbefore : eventId ∉ s.firehose := fun hold => hnot (by
      show eventId ∈ (s.flushAll written).firehose
      rw [hfirehose]
      exact hold)
    obtain rfl | ⟨j, -, hj⟩ := mem_set_cases hin
    · cases htime
    · exact h.fresh call (List.mem_of_getElem? hj) time htime eventId hmem hbefore
  · rw [hset]
    intro time writes rest hin eventId htodo row hrow heq
    obtain hself | ⟨j, hne, hj⟩ := mem_set_cases hin
    · cases hself
    · obtain ⟨hold, -⟩ | ⟨write, hwrite, rfl⟩ := mem_flushAll hloaded hnodup hrow
      · exact h.todo time writes rest (List.mem_of_getElem? hj) eventId htodo row hold heq
      · refine absurd ?_ (helsewhere j _ eventId hne hj
          (List.mem_append_right _ (List.mem_append_right _ htodo)) write hwrite)
        rw [← heq, (hloaded write hwrite).1.eventId]
  · rw [hset]
    intro time writes rest hin write hwrite
    obtain hself | ⟨j, hne, hj⟩ := mem_set_cases hin
    · cases hself
    · have hp := h.written time writes rest (List.mem_of_getElem? hj) write hwrite
      refine ⟨mem_flushAll_of_ne hp.loaded (helsewhere j _ _ hne hj ?_), hp.locked, hp.same, ?_,
        hp.settled⟩
      · refine List.mem_append_right _ (List.mem_append_left _ ?_)
        exact List.mem_map.mpr ⟨write, hwrite, rfl⟩
      · show Accounted (s.flushAll written).firehose (s.flushAll written).log write.copy
        rw [hfirehose, hlog]
        exact hp.accounted
  · intro row hrow hstatus
    rw [hset]
    show row.eventId ∈ (s.flushAll written).firehose ∨ _
    rw [hfirehose]
    obtain ⟨hold, hnone⟩ | ⟨write, hwrite, rfl⟩ := mem_flushAll hloaded hnodup hrow
    · refine (h.held row hold hstatus).imp_right fun hheld => mem_batch_set hcall hheld ?_
      rw [hbatch]
      intro hin
      obtain ⟨write, hwrite, hid⟩ := List.mem_map.mp hin
      exact hnone write hwrite hid.symm
    · exact absurd hstatus (h.written claimedAt written [] hmember write hwrite).settled
  · intro write rest hin
    exact h.requeues write rest (hrequeues ▸ hin)

end Outbox

end Afcon360.Notifications
