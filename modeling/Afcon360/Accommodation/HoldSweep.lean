import Mathlib.Data.Int.ConditionallyCompleteOrder
import Mathlib.Order.ConditionallyCompleteLattice.Basic
import Afcon360.Foundation.Sweep
import Afcon360.Accommodation.Inventory

/-!
# The cleanup task to its end

`release_expired_holds` deletes the temporary dates that are old and marks the holds that
are due, a page of each. The cleanup task calls it again with the cursors it returned as
long as `has_more` is set. Each call reads the clock anew.

The tables stand here with the ids of their rows, in any order and with gaps.
-/

namespace Afcon360.Accommodation

open Foundation

/-- The hold has run out. -/
def RoomHold.isDue (now : Instant) (hold : RoomHold) : Bool :=
  hold.status = .active ∧ hold.expiresAt ≤ now

/-- A row of `accommodation_room_holds` with its id. -/
structure HoldRow where
  id : ℕ
  hold : RoomHold

/-- The two tables. Ids are unique and count from one. -/
structure HoldTables where
  blockedDates : List BlockedDate
  roomHolds : List HoldRow
  dates_nodup : (blockedDates.map BlockedDate.id).Nodup
  holds_nodup : (roomHolds.map HoldRow.id).Nodup
  dates_positive : ∀ blocked ∈ blockedDates, 0 < blocked.id
  holds_positive : ∀ row ∈ roomHolds, 0 < row.id

/-- `mark_expired`. -/
def HoldRow.markExpired (row : HoldRow) : HoldRow :=
  { row with hold := { row.hold with status := .expired } }

theorem markExpired_id (holds : List ℕ) (row : HoldRow) :
    (if row.id ∈ holds then row.markExpired else row).id = row.id := by
  split <;> rfl

/-- Temporary dates are deleted once they were created more than `hold_minutes` ago. -/
def dateSweep (holdMinutes : ℤ) : Sweep BlockedDate Instant where
  key := BlockedDate.id
  due := fun now blocked =>
    blocked.reason = .temporaryHold ∧ blocked.createdAt < now - holdMinutes * 60000000
  settle := fun _ => none
  due_mono := by
    intro now later blocked hle hdue
    simp only [decide_eq_true_eq] at hdue ⊢
    exact ⟨hdue.1, lt_of_lt_of_le hdue.2 (sub_le_sub_right hle _)⟩
  settle_key := by
    intro blocked settled h
    cases h
  settle_due := by
    intro blocked settled h
    cases h

/-- Active holds are marked once their deadline has come. -/
def holdSweep : Sweep HoldRow Instant where
  key := HoldRow.id
  due := fun now row => row.hold.isDue now
  settle := fun row => some row.markExpired
  due_mono := by
    intro now later row hle hdue
    simp only [RoomHold.isDue, decide_eq_true_eq] at hdue ⊢
    exact ⟨hdue.1, le_trans hdue.2 hle⟩
  settle_key := by
    rintro row settled h
    cases h
    rfl
  settle_due := by
    rintro row settled h now
    cases h
    simp [RoomHold.isDue, HoldRow.markExpired]

/-- The cursors a call takes and returns. -/
structure HoldCursors where
  afterBlockedId : ℕ := 0
  afterRoomHoldId : ℕ := 0

/-- What a call returns. -/
structure ReleaseReport where
  released : ℕ
  batchSize : ℕ
  hasMore : Bool
  cursors : HoldCursors

namespace HoldTables

variable (s : HoldTables) (now : Instant) (holdMinutes : ℤ) (batchSize : ℤ)

/-- `max(1, min(batch_size, 100))`. -/
def batch (batchSize : ℤ) : ℕ := (max 1 (min batchSize 100)).toNat

/-- The rows of `expired_blocked`. -/
def expiredBlocked (cursors : HoldCursors) : List BlockedDate :=
  (dateSweep holdMinutes).page s.blockedDates now cursors.afterBlockedId (batch batchSize)

/-- The rows of `expired_room_holds`. -/
def expiredRoomHolds (cursors : HoldCursors) : List HoldRow :=
  holdSweep.page s.roomHolds now cursors.afterRoomHoldId (batch batchSize)

/-- The ids of the dates a call deletes. -/
def deletedDates (cursors : HoldCursors) : List ℕ :=
  (s.expiredBlocked now holdMinutes batchSize cursors).map BlockedDate.id

/-- The ids of the holds a call marks. -/
def markedHolds (cursors : HoldCursors) : List ℕ :=
  (s.expiredRoomHolds now batchSize cursors).map HoldRow.id

/-- Delete these dates and mark these holds. -/
def settle (dates holds : List ℕ) : HoldTables where
  blockedDates := s.blockedDates.filter (fun blocked => blocked.id ∉ dates)
  roomHolds := s.roomHolds.map (fun row => if row.id ∈ holds then row.markExpired else row)
  dates_nodup := s.dates_nodup.sublist (List.filter_sublist.map _)
  holds_nodup := by
    have hsame : (s.roomHolds.map
        (fun row => if row.id ∈ holds then row.markExpired else row)).map HoldRow.id =
          s.roomHolds.map HoldRow.id := by
      rw [List.map_map]
      exact List.map_congr_left (fun row _ => markExpired_id holds row)
    rw [hsame]
    exact s.holds_nodup
  dates_positive := fun blocked hblocked =>
    s.dates_positive blocked (List.mem_of_mem_filter hblocked)
  holds_positive := by
    intro row hrow
    obtain ⟨found, hfound, rfl⟩ := List.mem_map.mp hrow
    rw [markExpired_id]
    exact s.holds_positive found hfound

/-- `release_expired_holds`. -/
def releaseExpiredHolds (cursors : HoldCursors) : ReleaseReport × HoldTables :=
  let expiredBlocked := s.expiredBlocked now holdMinutes batchSize cursors
  let expiredRoomHolds := s.expiredRoomHolds now batchSize cursors
  ({ released := expiredBlocked.length + expiredRoomHolds.length
     batchSize := batch batchSize
     hasMore := batch batchSize ≤ expiredBlocked.length ∨
       batch batchSize ≤ expiredRoomHolds.length
     cursors :=
      { afterBlockedId :=
          (dateSweep holdMinutes).cursor expiredBlocked cursors.afterBlockedId (batch batchSize)
        afterRoomHoldId :=
          holdSweep.cursor expiredRoomHolds cursors.afterRoomHoldId (batch batchSize) } },
    s.settle (s.deletedDates now holdMinutes batchSize cursors)
      (s.markedHolds now batchSize cursors))

end HoldTables

/-- What the calls of a task did: the ids each call processed, one call after the other, the
number of calls and the tables at the end. -/
structure SweepLog where
  dates : List ℕ
  holds : List ℕ
  calls : ℕ
  tables : HoldTables

/-- The log with what was processed before. -/
def SweepLog.before (log : SweepLog) (dates holds : List ℕ) : SweepLog :=
  { log with dates := dates ++ log.dates, holds := holds ++ log.holds }

/-- The log of the later calls with that of one call before. -/
def SweepLog.called (log : SweepLog) (dates holds : List ℕ) : SweepLog :=
  { log.before dates holds with calls := log.calls + 1 }

namespace HoldTables

/-- Call `release_expired_holds` with the cursors it returned until `has_more` is false; `none`
when the fuel does not suffice. The calls see the given times. -/
def sweepExpired (holdMinutes batchSize : ℤ) :
    ℕ → HoldTables → (ℕ → Instant) → HoldCursors → Option SweepLog
  | 0, _, _, _ => none
  | fuel + 1, s, clock, cursors =>
    let dates := s.deletedDates (clock 0) holdMinutes batchSize cursors
    let holds := s.markedHolds (clock 0) batchSize cursors
    let (report, t) := s.releaseExpiredHolds (clock 0) holdMinutes batchSize cursors
    if report.hasMore then
      (sweepExpired holdMinutes batchSize fuel t (fun i => clock (i + 1)) report.cursors).map
        (fun log => log.called dates holds)
    else some ⟨dates, holds, 1, t⟩

/-! ## Both sweeps -/

theorem dateSweep_settleAll (holdMinutes : ℤ) (rows : List BlockedDate) (dates : List ℕ) :
    (dateSweep holdMinutes).settleAll rows dates =
      rows.filter (fun blocked => blocked.id ∉ dates) := by
  rw [Sweep.settleAll, ← List.filterMap_eq_filter]
  refine List.filterMap_congr (fun blocked _ => ?_)
  by_cases h : blocked.id ∈ dates <;> simp [dateSweep, h, Option.guard]

theorem holdSweep_settleAll (rows : List HoldRow) (holds : List ℕ) :
    holdSweep.settleAll rows holds =
      rows.map (fun row => if row.id ∈ holds then row.markExpired else row) := by
  rw [Sweep.settleAll, ← List.filterMap_eq_map]
  refine List.filterMap_congr (fun row _ => ?_)
  by_cases h : row.id ∈ holds <;> simp [holdSweep, h]

/-- The calls of a task that began on `s`: each processed row is one that was due, and none
is processed twice. -/
structure Progress (s : HoldTables) (holdMinutes : ℤ) (first last : Instant)
    (cursors : HoldCursors) (dates holds : List ℕ) : Prop where
  dates : (dateSweep holdMinutes).Progress s.blockedDates first last cursors.afterBlockedId dates
  holds : holdSweep.Progress s.roomHolds first last cursors.afterRoomHoldId holds

/-- Every row due at first is processed exactly once, no row is that was not due at last, and
the others are as they were. -/
structure Swept (s : HoldTables) (holdMinutes : ℤ) (first last : Instant) (log : SweepLog) :
    Prop where
  dates : (dateSweep holdMinutes).Settles s.blockedDates first last log.dates
  holds : holdSweep.Settles s.roomHolds first last log.holds
  tables : log.tables = s.settle log.dates log.holds

variable {s : HoldTables} {holdMinutes batchSize : ℤ} {first last now : Instant}
  {cursors : HoldCursors} {dates holds : List ℕ}

theorem one_le_batch (batchSize : ℤ) : 1 ≤ batch batchSize := by
  unfold batch
  omega

theorem settle_expiredBlocked (s : HoldTables) (dates holds : List ℕ) :
    (s.settle dates holds).expiredBlocked now holdMinutes batchSize
    cursors = (dateSweep holdMinutes).page ((dateSweep holdMinutes).settleAll s.blockedDates dates)
      now cursors.afterBlockedId (batch batchSize) := by
  rw [dateSweep_settleAll]
  rfl

theorem settle_expiredRoomHolds (s : HoldTables) (dates holds : List ℕ) :
    (s.settle dates holds).expiredRoomHolds now batchSize cursors =
    holdSweep.page (holdSweep.settleAll s.roomHolds holds) now cursors.afterRoomHoldId
      (batch batchSize) := by
  rw [holdSweep_settleAll]
  rfl

/-- After a call the tables are those of the beginning with what was processed so far
settled. -/
theorem settle_release (s : HoldTables) (dates holds : List ℕ) (now : Instant)
    (holdMinutes batchSize : ℤ) (cursors : HoldCursors) :
    ((s.settle dates holds).releaseExpiredHolds now holdMinutes batchSize cursors).2 = s.settle
      (dates ++ (s.settle dates holds).deletedDates now holdMinutes batchSize cursors)
      (holds ++ (s.settle dates holds).markedHolds now batchSize cursors) := by
  have hdates := Sweep.settleAll_page (dateSweep holdMinutes) s.blockedDates dates now
    cursors.afterBlockedId (batch batchSize)
  have hholds := Sweep.settleAll_page holdSweep s.roomHolds holds now cursors.afterRoomHoldId
    (batch batchSize)
  rw [← settle_expiredBlocked s dates holds, dateSweep_settleAll, dateSweep_settleAll,
    dateSweep_settleAll] at hdates
  rw [← settle_expiredRoomHolds s dates holds, holdSweep_settleAll, holdSweep_settleAll,
    holdSweep_settleAll] at hholds
  simp only [releaseExpiredHolds, settle, HoldTables.mk.injEq]
  exact ⟨hdates, hholds⟩

/-- A further call keeps the progress of both sweeps. -/
theorem Progress.step (batchSize : ℤ)
    (h : Progress s holdMinutes first last cursors dates holds) (hfirst : first ≤ now)
      (hlast : last ≤ now) :
    Progress s holdMinutes first now
      ((s.settle dates holds).releaseExpiredHolds now holdMinutes batchSize cursors).1.cursors
      (dates ++ (s.settle dates holds).deletedDates now holdMinutes batchSize cursors)
      (holds ++ (s.settle dates holds).markedHolds now batchSize cursors) := by
  have hdates := h.dates.step (n := batch batchSize) s.dates_nodup hfirst hlast
  have hholds := h.holds.step (n := batch batchSize) s.holds_nodup hfirst hlast
  rw [← settle_expiredBlocked s dates holds] at hdates
  rw [← settle_expiredRoomHolds s dates holds] at hholds
  exact ⟨hdates, hholds⟩

/-- After a call without more to come both sweeps are over. -/
theorem Progress.finish (h : Progress s holdMinutes first last cursors dates holds)
    (hfirst : first ≤ now) (hlast : last ≤ now)
    (hend : ((s.settle dates holds).releaseExpiredHolds now holdMinutes batchSize
      cursors).1.hasMore = false) :
    (dateSweep holdMinutes).Settles s.blockedDates first now
        (dates ++ (s.settle dates holds).deletedDates now holdMinutes batchSize cursors) ∧
      holdSweep.Settles s.roomHolds first now
        (holds ++ (s.settle dates holds).markedHolds now batchSize cursors) := by
  simp only [releaseExpiredHolds, decide_eq_false_iff_not, not_or, not_le] at hend
  rw [deletedDates, markedHolds]
  rw [settle_expiredBlocked s dates holds, settle_expiredRoomHolds s dates holds] at hend ⊢
  exact ⟨h.dates.finish s.dates_nodup hfirst hlast hend.1,
    h.holds.finish s.holds_nodup hfirst hlast hend.2⟩

theorem processed_of_hasMore
    (hmore : (s.releaseExpiredHolds now holdMinutes batchSize cursors).1.hasMore = true) :
    0 < (s.deletedDates now holdMinutes batchSize cursors).length +
      (s.markedHolds now batchSize cursors).length := by
  have hbatch := one_le_batch batchSize
  simp only [releaseExpiredHolds, decide_eq_true_eq] at hmore
  rw [deletedDates, markedHolds, List.length_map, List.length_map]
  omega

/-- From any point of the task on: the fuel is the number of rows not processed yet, and one
more. -/
theorem sweepExpired_progress (batchSize : ℤ) (fuel : ℕ) :
    ∀ (clock : ℕ → Instant) (last : Instant) (cursors : HoldCursors) (dates holds : List ℕ),
      Monotone clock → first ≤ clock 0 → last ≤ clock 0 →
      Progress s holdMinutes first last cursors dates holds →
      s.blockedDates.length + s.roomHolds.length < fuel + (dates.length + holds.length) →
      ∃ log, sweepExpired holdMinutes batchSize fuel (s.settle dates holds) clock cursors =
          some log ∧ 0 < log.calls ∧
        Swept s holdMinutes first (clock (log.calls - 1)) (log.before dates holds) := by
  induction fuel with
  | zero =>
    intro clock last cursors dates holds _ _ _ h hfuel
    have hdates := h.dates.length_le
    have hholds := h.holds.length_le
    omega
  | succ fuel ih =>
    intro clock last cursors dates holds hclock hfirst hlast h hfuel
    have hstep := h.step batchSize hfirst hlast
    have htables := settle_release s dates holds (clock 0) holdMinutes batchSize cursors
    by_cases hmore : ((s.settle dates holds).releaseExpiredHolds (clock 0) holdMinutes batchSize
        cursors).1.hasMore = true
    · have hprocessed := processed_of_hasMore hmore
      obtain ⟨log, hlog, hcalls, hswept⟩ := ih (fun i => clock (i + 1)) (clock 0) _ _ _
        (fun i j hij => hclock (Nat.add_le_add_right hij 1))
        (hfirst.trans (hclock (Nat.zero_le 1))) (hclock (Nat.zero_le 1)) hstep (by
          rw [List.length_append, List.length_append]
          omega)
      rw [← htables] at hlog
      refine ⟨log.called ((s.settle dates holds).deletedDates (clock 0) holdMinutes
        batchSize cursors)
        ((s.settle dates holds).markedHolds (clock 0) batchSize cursors), ?_, Nat.succ_pos _, ?_⟩
      · simp only [sweepExpired, hmore, if_true, hlog, Option.map_some]
      · have hlater : clock (log.calls - 1 + 1) = clock (log.calls + 1 - 1) := by
          congr 1
          omega
        simp only [hlater] at hswept
        simp only [SweepLog.called, SweepLog.before, ← List.append_assoc]
        exact ⟨hswept.dates, hswept.holds, hswept.tables⟩
    · have hfinish := h.finish hfirst hlast (Bool.eq_false_iff.mpr hmore)
      refine ⟨⟨(s.settle dates holds).deletedDates (clock 0) holdMinutes batchSize cursors,
        (s.settle dates holds).markedHolds (clock 0) batchSize cursors, 1,
        ((s.settle dates holds).releaseExpiredHolds (clock 0) holdMinutes batchSize cursors).2⟩,
        ?_, Nat.one_pos, ?_⟩
      · simp only [sweepExpired, hmore]
        rfl
      · exact ⟨hfinish.1, hfinish.2, htables⟩

theorem settle_nil (s : HoldTables) : s.settle [] [] = s := by
  simp [settle]

/-- The cleanup task comes to an end, whatever the batch size and however the clock moves
between its calls. Every row due at the first call is processed exactly once, however many
share a deadline; no row that was not due by the last call is processed, and the others are
as they were. -/
theorem release_expired_holds_sweeps (s : HoldTables) (holdMinutes batchSize : ℤ)
    (clock : ℕ → Instant) (hclock : Monotone clock) :
    ∃ fuel log, sweepExpired holdMinutes batchSize fuel s clock {} = some log ∧ 0 < log.calls ∧
      Swept s holdMinutes (clock 0) (clock (log.calls - 1)) log := by
  have hstart : Progress s holdMinutes (clock 0) (clock 0) {} [] [] :=
    ⟨Sweep.Progress.start s.dates_positive _, Sweep.Progress.start s.holds_positive _⟩
  obtain ⟨log, hlog, hcalls, hswept⟩ := sweepExpired_progress batchSize
    (s.blockedDates.length + s.roomHolds.length + 1) clock (clock 0) {} [] [] hclock le_rfl le_rfl
    hstart (by simp)
  rw [settle_nil] at hlog
  exact ⟨_, log, hlog, hcalls, hswept⟩

/-! ## Three holds of one deadline -/

theorem tiedHold_dates : (10 : ℤ) < 11 := by decide

/-- A hold with its deadline at 100 minutes. -/
def tiedHold : RoomHold :=
  { propertyId := 1, roomTypeId := none, guestUserId := some 5, checkIn := 10, checkOut := 11
    units := 1, expiresAt := 6000000000, dates_valid := tiedHold_dates }

/-- Three holds that share a deadline, a temporary date and one the owner blocked. -/
def tiedTables : HoldTables where
  blockedDates := [⟨9, 1, 10, .temporaryHold, none, some 5, 0⟩,
    ⟨4, 1, 12, .ownerBlocked, none, none, 0⟩]
  roomHolds := [⟨7, tiedHold⟩, ⟨2, tiedHold⟩, ⟨5, tiedHold⟩]
  dates_nodup := by decide
  holds_nodup := by decide
  dates_positive := by decide
  holds_positive := by decide

/-- In pages of two the task needs two calls at the deadline, and takes each hold once. -/
theorem tied_holds_swept :
    (∃ log, sweepExpired 15 2 9 tiedTables (fun _ => 6000000000) {} = some log ∧
      log.dates = [9] ∧ log.holds = [2, 5, 7] ∧ log.calls = 2) ∧
    ∃ fuel log, sweepExpired 15 2 fuel tiedTables (fun _ => 6000000000) {} = some log ∧
      0 < log.calls ∧ Swept tiedTables 15 6000000000 6000000000 log := by
  refine ⟨?_, release_expired_holds_sweeps tiedTables 15 2 (fun _ => 6000000000) monotone_const⟩
  have hrun : (sweepExpired 15 2 9 tiedTables (fun _ => 6000000000) {}).any
      (fun log => log.dates = [9] ∧ log.holds = [2, 5, 7] ∧ log.calls = 2) = true := by
    decide +kernel
  obtain ⟨log, hlog, hids⟩ := (Option.any_eq_true _ _).mp hrun
  exact ⟨log, hlog, by simpa using hids⟩

end HoldTables

end Afcon360.Accommodation
