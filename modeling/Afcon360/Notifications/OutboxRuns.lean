import Afcon360.Foundation.Holdings
import Afcon360.Notifications.Outbox

/-!
# What the relay can lose

Nothing of a transaction that rolled back is ever on the bus: the rows that are published
are committed rows, and a committed row is in no other transaction.

The rest needs the claims of live workers to be the only reason for a row to be in
`publishing`. `claim` selects pending and failed rows only, so a row that a worker leaves in
`publishing` is never selected again, and `requeue` takes a row out of the hands of a worker
without looking. Where neither happens, each row is in the firehose, or dead-lettered after
its failures, or held by one live worker, or there for the next claim.
-/

namespace Afcon360.Notifications

open Foundation

/-! ## One row -/

section Row

variable {row loaded : OutboxEvent} {write : Written} {now claimedAt : ℤ} {reply : BusReply}
  {worker : ℕ} {log : List RelayEvent} {firehose : List ℕ} {eventId : ℕ}

/-- The columns that no step writes. -/
structure SameEvent (row other : OutboxEvent) : Prop where
  eventId : row.eventId = other.eventId
  envelope : row.envelope = other.envelope
  maxAttempts : row.maxAttempts = other.maxAttempts

theorem requeued_same : SameEvent (row.requeued now) row := ⟨rfl, rfl, rfl⟩

theorem dead_same (error : String) : SameEvent (row.dead error) row := ⟨rfl, rfl, rfl⟩

theorem fail_same (error : String) : SameEvent (row.fail now error) row := by
  unfold OutboxEvent.fail
  simp only
  split
  · exact ⟨rfl, rfl, rfl⟩
  · exact ⟨rfl, rfl, rfl⟩

theorem publishRow_same : SameEvent (row.publishRow now reply) row := by
  unfold OutboxEvent.publishRow
  split
  · exact dead_same _
  split
  · exact fail_same _
  · exact ⟨rfl, rfl, rfl⟩

/-- The copy of a row that nobody has written since is stored as it is. -/
theorem flush_loaded (h : SameEvent write.copy write.loaded) :
    write.loaded.flush write = write.copy := by
  obtain ⟨heventId, henvelope, hmax⟩ := h
  cases write with
  | mk loaded copy =>
    cases copy
    simp only at heventId henvelope hmax
    simp [OutboxEvent.flush, heventId, henvelope, hmax]

end Row

namespace Outbox

variable {s t : Outbox} {place other eventId : ℕ} {row : OutboxEvent} {write : Written}

/-! ## Nothing of a rolled-back transaction -/

/-- The rows that a transaction has staged and not committed. -/
def withheld : Business → List ℕ
  | .active staged => staged.map OutboxEvent.eventId
  | .rolledBack staged => staged.map OutboxEvent.eventId
  | .committed _ => []

/-- The columns of the committed rows that no step writes. -/
def events (s : Outbox) : List (ℕ × StoredEnvelope) :=
  s.rows.map fun row => (row.eventId, row.envelope)

/-- The envelope is the event's own. -/
def Named (event : ℕ × StoredEnvelope) : Prop :=
  ∀ envelope, event.2 = .parsed envelope → envelope.eventId = event.1

/-- Committed and withheld rows are different events, and only committed ones are on the
bus. -/
structure Apart (s : Outbox) : Prop where
  ids : (s.events.map Prod.fst ++ s.business.flatMap withheld).Nodup
  old : ∀ eventId ∈ s.events.map Prod.fst ++ s.business.flatMap withheld, eventId < s.staged
  named : ∀ event ∈ s.events, Named event
  activeNamed : ∀ staged, .active staged ∈ s.business → ∀ row ∈ staged,
    Named (row.eventId, row.envelope)
  streams : ∀ envelope ∈ s.streams, envelope.eventId ∈ s.events.map Prod.fst
  firehose : ∀ eventId ∈ s.firehose, eventId ∈ s.events.map Prod.fst
  committed : ∀ staged, .committed staged ∈ s.business → ∀ row ∈ staged,
    row.eventId ∈ s.events.map Prod.fst

theorem Apart.congr (h : Apart s) (hevents : t.events = s.events)
    (hbusiness : t.business = s.business)
    (hstaged : t.staged = s.staged) (hstreams : t.streams = s.streams)
    (hfirehose : t.firehose = s.firehose) : Apart t := by
  constructor
  · rw [hevents, hbusiness]
    exact h.ids
  · rw [hevents, hbusiness, hstaged]
    exact h.old
  · rw [hevents]
    exact h.named
  · rw [hbusiness]
    exact h.activeNamed
  · rw [hevents, hstreams]
    exact h.streams
  · rw [hevents, hfirehose]
    exact h.firehose
  · rw [hevents, hbusiness]
    exact h.committed

theorem events_updateRow {f : OutboxEvent → OutboxEvent}
    (hid : ∀ row, (f row).eventId = row.eventId) (henv : ∀ row, (f row).envelope = row.envelope) :
    (s.updateRow eventId f).events = s.events := by
  unfold events updateRow
  rw [List.map_map]
  apply List.map_congr_left
  intro row _
  simp only [Function.comp_apply]
  split
  · rw [hid, henv]
  · rfl

/-- The updates of a final commit. -/
theorem flushAll_frame (written : List Written) (s : Outbox) :
    (s.flushAll written).events = s.events ∧ (s.flushAll written).business = s.business ∧
      (s.flushAll written).staged = s.staged ∧ (s.flushAll written).streams = s.streams ∧
      (s.flushAll written).firehose = s.firehose ∧ (s.flushAll written).workers = s.workers ∧
      (s.flushAll written).log = s.log ∧ (s.flushAll written).now = s.now ∧
      (s.flushAll written).requeues = s.requeues := by
  induction written generalizing s with
  | nil => exact ⟨rfl, rfl, rfl, rfl, rfl, rfl, rfl, rfl, rfl⟩
  | cons write rest ih =>
    obtain ⟨hevents, hrest⟩ := ih (s.updateRow write.loaded.eventId (OutboxEvent.flush write))
    exact ⟨hevents.trans (events_updateRow (fun _ => rfl) (fun _ => rfl)), hrest⟩

theorem events_markClaimed (worker : ℕ) (claimedAt : ℤ) (batch : List ℕ) :
    (s.markClaimed worker claimedAt batch).events = s.events := by
  unfold events markClaimed
  rw [List.map_map]
  apply List.map_congr_left
  intro row _
  simp only [Function.comp_apply]
  split
  · rfl
  · rfl

theorem mem_events (h : row ∈ s.rows) : (row.eventId, row.envelope) ∈ s.events :=
  List.mem_map.mpr ⟨row, h, rfl⟩

theorem mem_ids (h : row ∈ s.rows) : row.eventId ∈ s.events.map Prod.fst :=
  List.mem_map.mpr ⟨_, mem_events h, rfl⟩

/-- A publication appends the event of a committed row. -/
theorem apart_xadd (h : Apart s) (hrow : row ∈ s.rows) (reply : BusReply) :
    Apart (s.xadd row reply) := by
  unfold xadd
  split
  · exact h
  rename_i envelope henvelope
  have hname : envelope.eventId = row.eventId := h.named _ (mem_events hrow) envelope henvelope
  have hcommitted : envelope.eventId ∈ s.events.map Prod.fst := hname ▸ mem_ids hrow
  refine ⟨h.ids, h.old, h.named, h.activeNamed, ?_, ?_, h.committed⟩
  · intro other hother
    simp only at hother
    split at hother
    · obtain hold | hnew := List.mem_append.mp hother
      · exact h.streams other hold
      · rw [List.mem_singleton.mp hnew]
        exact hcommitted
    · exact h.streams other hother
  · intro eventId hevent
    simp only at hevent
    split at hevent
    · obtain hold | hnew := List.mem_append.mp hevent
      · exact h.firehose eventId hold
      · rw [List.mem_singleton.mp hnew]
        exact hcommitted
    · exact h.firehose eventId hevent

theorem mem_business_set {new tx : Business} (h : tx ∈ s.business.set place new) :
    tx = new ∨ tx ∈ s.business := by
  obtain hmem | heq := List.mem_or_eq_of_mem_set h
  · exact .inr hmem
  · exact .inl heq

theorem apart_stage (h : Apart s) {staged : List OutboxEvent} (eventType : String)
    (malformed : Option String) (htx : s.business[place]? = some (.active staged)) :
    Apart { s with
      staged := s.staged + 1
      business := s.business.set place (.active (staged ++ [s.newRow eventType malformed])) } := by
  set new := s.newRow eventType malformed with hnew
  have hperm : ((s.business.set place (.active (staged ++ [new]))).flatMap withheld).Perm
      (s.business.flatMap withheld ++ [s.staged]) := by
    have hset := perm_flatMap_set withheld (.active (staged ++ [new])) htx
    have hwithheld : withheld (.active (staged ++ [new])) =
        withheld (.active staged) ++ [s.staged] := by
      simp [withheld, hnew, newRow]
    rw [hwithheld] at hset
    refine (List.perm_append_right_iff (withheld (.active staged))).mp (hset.trans ?_)
    rw [List.append_assoc]
    exact List.Perm.append_left _ List.perm_append_comm
  have hall : (s.events.map Prod.fst ++
      (s.business.set place (.active (staged ++ [new]))).flatMap withheld).Perm
      (s.events.map Prod.fst ++ s.business.flatMap withheld ++ [s.staged]) := by
    rw [List.append_assoc]
    exact List.Perm.append_left _ hperm
  refine ⟨?_, ?_, h.named, ?_, h.streams, h.firehose, ?_⟩
  · refine hall.nodup_iff.mpr (List.nodup_append.mpr ⟨h.ids, List.nodup_singleton _, ?_⟩)
    intro eventId hevent other hother heq
    rw [List.mem_singleton.mp hother] at heq
    exact absurd (h.old eventId hevent) (by rw [heq]; omega)
  · intro eventId hevent
    obtain hold | hlast := List.mem_append.mp (hall.mem_iff.mp hevent)
    · exact Nat.lt_succ_of_lt (h.old eventId hold)
    · rw [List.mem_singleton.mp hlast]
      exact Nat.lt_succ_self _
  · intro rows hrows row hrow
    obtain heq | hmem := mem_business_set hrows
    · cases heq
      obtain hold | hlast := List.mem_append.mp hrow
      · exact h.activeNamed staged (List.mem_of_getElem? htx) row hold
      · rw [List.mem_singleton.mp hlast]
        intro envelope henvelope
        cases malformed with
        | none =>
          simp only [hnew, newRow, StoredEnvelope.parsed.injEq] at henvelope
          rw [← henvelope]
          rfl
        | some error => simp [hnew, newRow] at henvelope
    · exact h.activeNamed rows hmem row hrow
  · intro rows hrows
    obtain heq | hmem := mem_business_set hrows
    · cases heq
    · exact h.committed rows hmem

theorem apart_commit (h : Apart s) {staged : List OutboxEvent}
    (htx : s.business[place]? = some (.active staged)) :
    Apart { s with
      rows := s.rows ++ staged, business := s.business.set place (.committed staged) } := by
  have hset := perm_flatMap_set withheld (.committed staged) htx
  simp only [withheld, List.append_nil] at hset
  have hevents : events { s with
      rows := s.rows ++ staged, business := s.business.set place (.committed staged) } =
      s.events ++ staged.map fun row => (row.eventId, row.envelope) := by
    simp [events]
  have hids : (s.events ++ staged.map fun row => (row.eventId, row.envelope)).map Prod.fst =
      s.events.map Prod.fst ++ staged.map OutboxEvent.eventId := by
    simp [Function.comp_def]
  have hall : (s.events.map Prod.fst ++ staged.map OutboxEvent.eventId ++
      (s.business.set place (.committed staged)).flatMap withheld).Perm
      (s.events.map Prod.fst ++ s.business.flatMap withheld) := by
    rw [List.append_assoc]
    exact List.Perm.append_left _ (List.perm_append_comm.trans hset)
  constructor
  · rw [hevents, hids]
    exact hall.nodup_iff.mpr h.ids
  · rw [hevents, hids]
    intro eventId hevent
    exact h.old eventId (hall.mem_iff.mp hevent)
  · rw [hevents]
    intro event hevent
    obtain hold | hnew := List.mem_append.mp hevent
    · exact h.named event hold
    · obtain ⟨row, hrow, rfl⟩ := List.mem_map.mp hnew
      exact h.activeNamed staged (List.mem_of_getElem? htx) row hrow
  · intro rows hrows
    obtain heq | hmem := mem_business_set hrows
    · cases heq
    · exact h.activeNamed rows hmem
  · rw [hevents, hids]
    intro envelope henvelope
    exact List.mem_append_left _ (h.streams envelope henvelope)
  · rw [hevents, hids]
    intro eventId hevent
    exact List.mem_append_left _ (h.firehose eventId hevent)
  · rw [hevents, hids]
    intro rows hrows row hrow
    obtain heq | hmem := mem_business_set hrows
    · cases heq
      exact List.mem_append_right _ (List.mem_map.mpr ⟨row, hrow, rfl⟩)
    · exact List.mem_append_left _ (h.committed rows hmem row hrow)

theorem apart_rollback (h : Apart s) {staged : List OutboxEvent}
    (htx : s.business[place]? = some (.active staged)) :
    Apart (s.setBusiness place (.rolledBack staged)) := by
  have hset := perm_flatMap_set withheld (.rolledBack staged) htx
  have hperm : ((s.business.set place (.rolledBack staged)).flatMap withheld).Perm
      (s.business.flatMap withheld) :=
    (List.perm_append_right_iff (staged.map OutboxEvent.eventId)).mp hset
  have hall := List.Perm.append_left (s.events.map Prod.fst) hperm
  refine ⟨hall.nodup_iff.mpr h.ids, fun eventId hevent => h.old eventId (hall.mem_iff.mp hevent),
    h.named, ?_, h.streams, h.firehose, ?_⟩
  · intro rows hrows
    obtain heq | hmem := mem_business_set hrows
    · cases heq
    · exact h.activeNamed rows hmem
  · intro rows hrows
    obtain heq | hmem := mem_business_set hrows
    · cases heq
    · exact h.committed rows hmem

theorem apart_begin (h : Apart s) : Apart { s with business := s.business ++ [.active []] } := by
  have hwithheld : (s.business ++ [Business.active []]).flatMap withheld =
      s.business.flatMap withheld := by simp [withheld]
  refine ⟨?_, ?_, h.named, ?_, h.streams, h.firehose, ?_⟩
  · rw [hwithheld]
    exact h.ids
  · rw [hwithheld]
    exact h.old
  · intro rows hrows
    obtain hmem | hlast := List.mem_append.mp hrows
    · exact h.activeNamed rows hmem
    · obtain rfl := Business.active.inj (List.mem_singleton.mp hlast)
      intro row hrow
      cases hrow
  · intro rows hrows
    obtain hmem | hlast := List.mem_append.mp hrows
    · exact h.committed rows hmem
    · cases List.mem_singleton.mp hlast

theorem apart_step {a : OutboxAct} (h : Apart s) (hstep : s.next a = some t) : Apart t := by
  cases a with
  | begin =>
    cases hstep
    exact apart_begin h
  | stage place eventType malformed =>
    simp only [next] at hstep
    split at hstep
    · rename_i staged htx
      cases hstep
      exact apart_stage h eventType malformed htx
    · cases hstep
  | commit place =>
    simp only [next] at hstep
    split at hstep
    · rename_i staged htx
      cases hstep
      exact apart_commit h htx
    · cases hstep
  | rollback place =>
    simp only [next] at hstep
    split at hstep
    · rename_i staged htx
      cases hstep
      exact apart_rollback h htx
    · cases hstep
  | claim worker limit skipped | retryDeadLetters limit eventIds | requeueNext place =>
    simp only [next] at hstep
    split at hstep
    · cases hstep
      exact h.congr rfl rfl rfl rfl rfl
    · cases hstep
  | claimCommit place =>
    simp only [next] at hstep
    split at hstep
    · cases hstep
      exact h.congr (events_markClaimed _ _ _) rfl rfl rfl rfl
    · cases hstep
  | publishRow place reply =>
    simp only [next] at hstep
    split at hstep
    · obtain ⟨row, hfind, rfl⟩ := Option.map_eq_some_iff.mp hstep
      exact (apart_xadd h (List.mem_of_find?_eq_some hfind) reply).congr rfl rfl rfl rfl rfl
    · cases hstep
  | finish place =>
    simp only [next] at hstep
    split at hstep
    · rename_i claimedAt written hcall
      split at hstep
      · cases hstep
        obtain ⟨hevents, hbusiness, hstaged, hstreams, hfirehose, -⟩ := flushAll_frame written s
        exact h.congr hevents hbusiness hstaged hstreams hfirehose
      · cases hstep
    · cases hstep
  | die place =>
    simp only [next] at hstep
    split at hstep
    · cases hstep
      exact h.congr rfl rfl rfl rfl rfl
    · cases hstep
      exact h.congr rfl rfl rfl rfl rfl
    · cases hstep
  | requeueCommit place =>
    simp only [next] at hstep
    split at hstep
    · split at hstep
      · cases hstep
      · cases hstep
        exact h.congr (events_updateRow (fun _ => rfl) (fun _ => rfl)) rfl rfl rfl rfl
    · cases hstep
  | requeue eventId | tick microseconds =>
    cases hstep
    exact h.congr rfl rfl rfl rfl rfl

theorem apart_init : Apart {} := by
  constructor <;> simp [events]

end Outbox

end Afcon360.Notifications
