import Afcon360.Accommodation.HoldSweep
import Afcon360.Accommodation.Overbooking

/-!
# Expiry of holds

A hold on a room type with several units is backed by an inventory block, any other hold
by the blocked dates of the property. No row says to which hold it belongs. Two routines
end the holds that are due: `expire_room_holds` goes through the holds and deletes what
looks like theirs, `release_expired_holds` goes through the dates by their age and through
the holds by their deadline, a page at a time.

Both routines are followed here to their end, alone; the second one is `sweepExpired` on the
two tables it reads. They mark the same holds; which units
become free is another matter, and `holdExpiry_iff` says when both do what they are for.
-/

namespace Afcon360.Accommodation

open Foundation

namespace RoomHold

/-- The hold has time left. -/
def isOpen (now : Instant) (hold : RoomHold) : Bool :=
  hold.status = .active ∧ now < hold.expiresAt

/-- The blocks `expire_room_holds` deletes for a hold. -/
def releasesBlock (hold : RoomHold) (block : InventoryBlock) : Bool :=
  hold.roomTypeId = some block.roomTypeId ∧ block.dateRangeStart = hold.checkIn ∧
    block.dateRangeEnd = hold.checkOut ∧ (hold.bookingId = none ∨ block.bookingId = hold.bookingId)

/-- The dates `expire_room_holds` deletes for a hold. -/
def releasesDate (hold : RoomHold) (blocked : BlockedDate) : Bool :=
  blocked.propertyId = hold.propertyId ∧ covers hold.checkIn hold.checkOut blocked.blockedDate ∧
    blocked.reason = .temporaryHold ∧ blocked.createdBy = hold.guestUserId

end RoomHold

namespace Inventory

variable {s : Inventory} {now : Instant} {hold : RoomHold} {blocked : BlockedDate}
  {block : InventoryBlock} {i : ℕ}

/-! ## The routines to their end -/

/-- Take up the operation under way until there is none; `none` when the fuel does not
suffice. -/
def runToEnd : ℕ → Inventory → Option Inventory
  | 0, s => if s.underWay.isEmpty then some s else none
  | fuel + 1, s => if s.underWay.isEmpty then some s else runToEnd fuel (s.after (.finish 0))

/-- `expire_room_holds` with no other operation under way. -/
def expireToEnd (s : Inventory) (now : Instant) : Option Inventory :=
  runToEnd s.holds.length ({ s with underWay := [] }.after (.expireRoomHolds now))

/-- The temporary dates that are old enough for `release_expired_holds`. -/
def isOldDate (now : Instant) (holdMinutes : ℕ) (blocked : BlockedDate) : Bool :=
  blocked.reason = .temporaryHold ∧ blocked.createdAt < now - holdMinutes * 60000000

/-- Their ids, in the order of the table. -/
def oldDates (s : Inventory) (now : Instant) (holdMinutes : ℕ) : List ℕ :=
  (s.blockedDates.filter (isOldDate now holdMinutes)).map BlockedDate.id

/-- The places of the holds that are due. -/
def dueHolds (s : Inventory) (now : Instant) : List ℕ :=
  (List.range s.holds.length).filter (fun i => s.holds[i]?.any (RoomHold.isDue now))

/-- The cleanup task: pages of `release_expired_holds`, each after the last row of a full
page. The id of a hold is one more than its place. -/
def releasePages (now : Instant) (holdMinutes batchSize : ℕ) :
    ℕ → Inventory → ℕ → ℕ → Option Inventory
  | 0, _, _, _ => none
  | fuel + 1, s, afterBlockedId, afterRoomHoldId =>
    let batch := max 1 (min batchSize 100)
    let dates := ((s.oldDates now holdMinutes).filter (fun id => afterBlockedId < id)).take batch
    let holds := ((s.dueHolds now).filter (fun i => afterRoomHoldId < i + 1)).take batch
    let t := s.releaseExpiredHolds now holdMinutes batchSize afterBlockedId afterRoomHoldId
    if batch ≤ dates.length ∨ batch ≤ holds.length then
      releasePages now holdMinutes batchSize fuel t
        (if batch ≤ dates.length then dates.getLastD 0 else afterBlockedId)
        (if batch ≤ holds.length then holds.getLastD 0 + 1 else afterRoomHoldId)
    else some t

def releaseToEnd (s : Inventory) (now : Instant) (holdMinutes batchSize : ℕ) : Option Inventory :=
  releasePages now holdMinutes batchSize (s.blockedDates.length + s.holds.length + 1) s 0 0

/-! ## What is asked -/

/-- The block is one `create_hold` wrote for this hold. -/
def withholdsBlock (s : Inventory) (hold : RoomHold) (block : InventoryBlock) : Bool :=
  s.multiUnit hold.roomTypeId = some block.roomTypeId ∧ block.dateRangeStart = hold.checkIn ∧
    block.dateRangeEnd = hold.checkOut ∧ block.unitsBlocked = hold.units ∧
    block.reason = .temporaryHold ∧ block.bookingId = hold.bookingId

/-- The date is one `create_hold` wrote for this hold. -/
def withholdsDate (s : Inventory) (hold : RoomHold) (blocked : BlockedDate) : Bool :=
  s.multiUnit hold.roomTypeId = none ∧ blocked.propertyId = hold.propertyId ∧
    covers hold.checkIn hold.checkOut blocked.blockedDate ∧ blocked.reason = .temporaryHold ∧
    blocked.bookingId = hold.bookingId ∧ blocked.createdBy = hold.guestUserId

/-- After a routine went from `s` to `t` no unit is withheld by a hold that was due, and
holds with time left are as they were. -/
structure HoldsSettled (s t : Inventory) (now : Instant) : Prop where
  freed : ∀ hold ∈ s.holds, hold.isDue now →
    (∀ block ∈ t.blocks, ¬ s.withholdsBlock hold block) ∧
    (∀ blocked ∈ t.blockedDates, ¬ s.withholdsDate hold blocked)
  kept : ∀ (i : ℕ) (hold : RoomHold), s.holds[i]? = some hold → hold.isOpen now →
    t.holds[i]? = some hold ∧
    (∀ block ∈ s.blocks, s.withholdsBlock hold block → block ∈ t.blocks) ∧
    (∀ blocked ∈ s.blockedDates, s.withholdsDate hold blocked → blocked ∈ t.blockedDates)

/-- A routine that went from `s` to `t` ended the hold and freed its units. -/
def Released (s t : Inventory) (i : ℕ) : Prop :=
  ∃ hold, s.holds[i]? = some hold ∧ hold.status = .active ∧
    (∀ row, t.holds[i]? = some row → row.status ≠ .active) ∧
    (∀ block ∈ t.blocks, ¬ s.withholdsBlock hold block) ∧
    (∀ blocked ∈ t.blockedDates, ¬ s.withholdsDate hold blocked)

/-- Both routines come to an end, settle the holds and agree. -/
def HoldExpiry (s : Inventory) (now : Instant) (holdMinutes batchSize : ℕ) : Prop :=
  ∃ expired released : Inventory, s.expireToEnd now = some expired ∧
    s.releaseToEnd now holdMinutes batchSize = some released ∧
    HoldsSettled s expired now ∧ HoldsSettled s released now ∧
    ∀ i, Released s expired i ↔ Released s released i

/-- The hold that is due shares with the other one what `expire_room_holds` goes by, and
the other one has rows. -/
def Entangled (s : Inventory) (due other : RoomHold) : Prop :=
  (∃ block ∈ s.blocks, s.withholdsBlock other block ∧ due.roomTypeId = some block.roomTypeId ∧
    due.checkIn = other.checkIn ∧ due.checkOut = other.checkOut ∧
    (due.bookingId = none ∨ other.bookingId = due.bookingId)) ∨
  (∃ blocked ∈ s.blockedDates, s.withholdsDate other blocked ∧
    due.propertyId = other.propertyId ∧ due.guestUserId = other.guestUserId ∧
    covers due.checkIn due.checkOut blocked.blockedDate)

/-- When the routines do what they are for. -/
structure ExpiryFits (s : Inventory) (now : Instant) (holdMinutes : ℕ) : Prop where
  /-- No hold that is due is entangled with one that has time left. -/
  apart : ∀ due ∈ s.holds, due.isDue now → ∀ other ∈ s.holds, other.isOpen now →
    ¬ s.Entangled due other
  /-- No hold that is due is backed by a block. -/
  unblocked : ∀ hold ∈ s.holds, hold.isDue now → ∀ block ∈ s.blocks, ¬ s.withholdsBlock hold block
  /-- The dates of the holds that are due are old. -/
  old : ∀ hold ∈ s.holds, hold.isDue now → ∀ blocked ∈ s.blockedDates,
    s.withholdsDate hold blocked → blocked.createdAt < now - holdMinutes * 60000000
  /-- The dates of the holds with time left are not. -/
  young : ∀ hold ∈ s.holds, hold.isOpen now → ∀ blocked ∈ s.blockedDates,
    s.withholdsDate hold blocked → now - holdMinutes * 60000000 ≤ blocked.createdAt

/-- The dates are listed by their ids, which are unique and not zero. -/
def DatesById (s : Inventory) : Prop := (0 :: s.blockedDates.map BlockedDate.id).Pairwise (· < ·)

instance (s : Inventory) : Decidable s.DatesById :=
  inferInstanceAs (Decidable ((0 :: s.blockedDates.map BlockedDate.id).Pairwise (· < ·)))

/-! ## The end of `expire_room_holds` -/

/-- The holds, those at these places marked. -/
def marks (holds : List RoomHold) (ids : List ℕ) : List RoomHold :=
  holds.mapIdx (fun i row => if i ∈ ids then { row with status := .expired } else row)

theorem marks_nil (holds : List RoomHold) : marks holds [] = holds := by
  simp [marks, List.mapIdx_eq_iff]

theorem marks_marks (holds : List RoomHold) (ids more : List ℕ) :
    marks (marks holds ids) more = marks holds (ids ++ more) := by
  rw [marks, marks, marks, List.mapIdx_mapIdx]
  congr 1
  funext i row
  by_cases h : i ∈ ids <;> by_cases h' : i ∈ more <;> simp [h, h']

theorem marks_getElem? (holds : List RoomHold) (ids : List ℕ) (i : ℕ) :
    (marks holds ids)[i]? =
      holds[i]?.map (fun row => if i ∈ ids then { row with status := .expired } else row) := by
  rw [marks, List.getElem?_mapIdx]

/-- No hold at these places deletes the block. -/
def sparesBlock (holds : List RoomHold) (ids : List ℕ) (block : InventoryBlock) : Bool :=
  ids.all (fun i => holds[i]?.all (fun hold => !hold.releasesBlock block))

def sparesDate (holds : List RoomHold) (ids : List ℕ) (blocked : BlockedDate) : Bool :=
  ids.all (fun i => holds[i]?.all (fun hold => !hold.releasesDate blocked))

theorem dropHeldDates_eq (s : Inventory) (hold : RoomHold) :
    s.dropHeldDates hold =
      { s with blockedDates :=
        s.blockedDates.filter (fun blocked => !hold.releasesDate blocked) } := by
  simp only [dropHeldDates, RoomHold.releasesDate, decide_not]

theorem releaseRoomTypeBlocks_eq (s : Inventory) {roomTypeId : ℕ}
    (h : hold.roomTypeId = some roomTypeId) :
    s.releaseRoomTypeBlocks roomTypeId hold.checkIn hold.checkOut hold.bookingId =
      { s with blocks := s.blocks.filter (fun block => !hold.releasesBlock block) } := by
  simp only [releaseRoomTypeBlocks, RoomHold.releasesBlock, h, Option.some.injEq, decide_not,
    eq_comm]

/-- The holds are read with their marks, which no deletion looks at. -/
theorem runToEnd_expireHolds (holds : List RoomHold) (rest : List ℕ) :
    ∀ (s : Inventory) (done marked : List ℕ) (fuel : ℕ), s.underWay = [] →
      s.holds = marks holds done → (∀ i ∈ rest, i < holds.length) → rest.length ≤ fuel →
      runToEnd fuel (s.expireHolds marked rest) = some
        { s with
          blocks := s.blocks.filter (sparesBlock holds rest)
          blockedDates := s.blockedDates.filter (sparesDate holds rest)
          holds := marks holds (done ++ marked ++ rest) } := by
  induction rest with
  | nil =>
    intro s done marked fuel hidle hholds _ _
    have hend : runToEnd fuel (s.markExpired marked) = some (s.markExpired marked) := by
      cases fuel <;> simp [runToEnd, markExpired, hidle]
    rw [expireHolds, hend, markExpired]
    have hmarks : (s.holds.mapIdx fun i row =>
        if i ∈ marked then { row with status := HoldStatus.expired } else row) =
          marks holds (done ++ marked) := by
      rw [hholds, ← marks_marks, marks, marks]
    rw [hmarks, List.append_nil]
    have hblocks : s.blocks.filter (sparesBlock holds []) = s.blocks := by
      simp [sparesBlock]
    have hdates : s.blockedDates.filter (sparesDate holds []) = s.blockedDates := by
      simp [sparesDate]
    rw [hblocks, hdates]
  | cons id rest ih =>
    intro s done marked fuel hidle hholds hbound hfuel
    obtain ⟨row, hrow⟩ : ∃ row, holds[id]? = some row :=
      ⟨_, List.getElem?_eq_getElem (hbound id List.mem_cons_self)⟩
    have hbound' : ∀ i ∈ rest, i < holds.length :=
      fun i hi => hbound i (List.mem_cons_of_mem _ hi)
    obtain ⟨hold, hhold, hroom, hblock, hdate⟩ : ∃ hold, s.holds[id]? = some hold ∧
        hold.roomTypeId = row.roomTypeId ∧ hold.releasesBlock = row.releasesBlock ∧
        hold.releasesDate = row.releasesDate := by
      rw [hholds, marks_getElem?, hrow, Option.map_some]
      refine ⟨_, rfl, ?_⟩
      split <;> exact ⟨rfl, rfl, rfl⟩
    have hspareDate : ∀ dates : List BlockedDate,
        (dates.filter (fun blocked => !hold.releasesDate blocked)).filter (sparesDate holds rest) =
          dates.filter (sparesDate holds (id :: rest)) := by
      intro dates
      rw [List.filter_filter]
      refine List.filter_congr (fun blocked _ => ?_)
      simp [sparesDate, hrow, hdate, Bool.and_comm]
    have hspareBlock : ∀ blocks : List InventoryBlock,
        (blocks.filter (fun block => !hold.releasesBlock block)).filter (sparesBlock holds rest) =
          blocks.filter (sparesBlock holds (id :: rest)) := by
      intro blocks
      rw [List.filter_filter]
      refine List.filter_congr (fun block _ => ?_)
      simp [sparesBlock, hrow, hblock, Bool.and_comm]
    rw [expireHolds, hhold]
    cases hroomType : hold.roomTypeId with
    | none =>
      simp only [hroomType]
      rw [ih (s.dropHeldDates hold) done (marked ++ [id]) fuel hidle hholds hbound'
        (Nat.le_of_succ_le hfuel), dropHeldDates_eq]
      have hnone : s.blocks.filter (fun block => !hold.releasesBlock block) = s.blocks := by
        rw [List.filter_eq_self]
        intro block _
        simp [RoomHold.releasesBlock, hroomType]
      simp only [hspareDate]
      rw [← hspareBlock, hnone]
      simp
    | some roomTypeId =>
      obtain ⟨fuel, rfl⟩ : ∃ fuel', fuel = fuel' + 1 :=
        ⟨fuel - 1, by simp only [List.length_cons] at hfuel; omega⟩
      simp only [hroomType]
      rw [releaseRoomTypeBlocks_eq _ hroomType, dropHeldDates_eq]
      have hmarked : marks s.holds marked = marks holds (done ++ marked) := by
        rw [hholds, marks_marks]
      simp only [runToEnd, suspend, markExpired, hidle, List.nil_append, List.isEmpty_cons,
        Bool.false_eq_true, if_false, after, List.getElem?_cons_zero, forget,
        List.eraseIdx_zero, List.tail_cons, resume, orElse]
      rw [ih _ (done ++ marked) [id] fuel rfl hmarked hbound' (Nat.le_of_succ_le_succ hfuel)]
      simp [hspareDate, hspareBlock]

theorem dueHolds_lt (h : i ∈ s.dueHolds now) :
    i < s.holds.length :=
  List.mem_range.mp (List.mem_filter.mp h).1

theorem mem_dueHolds :
    i ∈ s.dueHolds now ↔ ∃ hold, s.holds[i]? = some hold ∧ hold.isDue now = true := by
  rw [dueHolds, List.mem_filter, List.mem_range]
  constructor
  · rintro ⟨-, h⟩
    cases hhold : s.holds[i]? with
    | none => simp [hhold] at h
    | some hold => exact ⟨hold, rfl, by simpa [hhold] using h⟩
  · rintro ⟨hold, hhold, hdue⟩
    exact ⟨(List.getElem?_eq_some_iff.mp hhold).1, by simp [hhold, hdue]⟩

theorem expireToEnd_eq (s : Inventory) (now : Instant) :
    s.expireToEnd now = some
      { s with
        blocks := s.blocks.filter (sparesBlock s.holds (s.dueHolds now))
        blockedDates := s.blockedDates.filter (sparesDate s.holds (s.dueHolds now))
        holds := marks s.holds (s.dueHolds now)
        underWay := [] } := by
  have hlength : (s.dueHolds now).length ≤ s.holds.length := by
    refine le_trans (List.length_filter_le _ _) ?_
    rw [List.length_range]
  rw [expireToEnd]
  exact runToEnd_expireHolds s.holds (s.dueHolds now) { s with underWay := [] } [] [] _ rfl
    (marks_nil _).symm (fun i hi => dueHolds_lt hi) hlength

/-! ## The end of `release_expired_holds` -/

/-- The holds with their ids, which are one more than their places. -/
def holdRows (holds : List RoomHold) : List HoldRow := holds.mapIdx (fun i hold => ⟨i + 1, hold⟩)

theorem mem_holdRows {holds : List RoomHold} {row : HoldRow} :
    row ∈ holdRows holds ↔ ∃ i, holds[i]? = some row.hold ∧ row.id = i + 1 := by
  rw [holdRows, List.mem_mapIdx]
  constructor
  · rintro ⟨i, hlt, rfl⟩
    exact ⟨i, List.getElem?_eq_getElem hlt, rfl⟩
  · rintro ⟨i, hhold, hid⟩
    obtain ⟨hlt, hrow⟩ := List.getElem?_eq_some_iff.mp hhold
    exact ⟨i, hlt, by rw [hrow, ← hid]⟩

theorem holdRows_pairwise (holds : List RoomHold) :
    ((holdRows holds).map HoldRow.id).Pairwise (· < ·) := by
  have hids : (holdRows holds).map HoldRow.id = (List.range holds.length).map (· + 1) := by
    refine List.ext_getElem? (fun i => ?_)
    by_cases h : i < holds.length <;> simp [holdRows, h]
  rw [hids, List.pairwise_map]
  exact List.pairwise_lt_range.imp (fun h => Nat.succ_lt_succ h)

/-- The tables that `release_expired_holds` reads. -/
def holdTables (s : Inventory) (hids : s.DatesById) : HoldTables where
  blockedDates := s.blockedDates
  roomHolds := holdRows s.holds
  dates_nodup := (List.pairwise_cons.mp hids).2.imp Nat.ne_of_lt
  holds_nodup := (holdRows_pairwise s.holds).imp Nat.ne_of_lt
  dates_positive := fun _ hblocked =>
    (List.pairwise_cons.mp hids).1 _ (List.mem_map_of_mem hblocked)
  holds_positive := by
    intro row hrow
    obtain ⟨i, -, hid⟩ := mem_holdRows.mp hrow
    omega

theorem dueHolds_pairwise (s : Inventory) (now : Instant) :
    (s.dueHolds now).Pairwise (· < ·) :=
  List.pairwise_lt_range.filter _

theorem holdRows_due (s : Inventory) (now : Instant) :
    ((holdRows s.holds).filter (holdSweep.due now)).map HoldRow.id =
      (s.dueHolds now).map (· + 1) := by
  refine List.Pairwise.eq_of_mem_iff (r := (· < ·)) ?_ ?_ ?_
  · exact (holdRows_pairwise s.holds).sublist (List.filter_sublist.map _)
  · exact List.pairwise_map.mpr ((s.dueHolds_pairwise now).imp (fun h => Nat.succ_lt_succ h))
  · intro id
    simp only [List.mem_map, List.mem_filter, mem_holdRows, mem_dueHolds]
    constructor
    · rintro ⟨row, ⟨⟨i, hhold, hid⟩, hdue⟩, rfl⟩
      exact ⟨i, ⟨row.hold, hhold, hdue⟩, hid.symm⟩
    · rintro ⟨i, ⟨hold, hhold, hdue⟩, rfl⟩
      exact ⟨⟨i + 1, hold⟩, ⟨⟨i, hhold, rfl⟩, hdue⟩, rfl⟩

section Release

variable (hids : s.DatesById) (holdMinutes batchSize afterBlockedId afterRoomHoldId : ℕ)

theorem batch_eq : HoldTables.batch batchSize = max 1 (min batchSize 100) := by
  unfold HoldTables.batch
  omega

theorem deletedDates_eq :
    (s.holdTables hids).deletedDates now holdMinutes batchSize ⟨afterBlockedId, afterRoomHoldId⟩ =
      ((s.oldDates now holdMinutes).filter (fun id => afterBlockedId < id)).take
        (max 1 (min batchSize 100)) := by
  rw [HoldTables.deletedDates, HoldTables.expiredBlocked, batch_eq]
  exact (dateSweep holdMinutes).page_keys_of_sorted s.blockedDates now afterBlockedId _
    (List.pairwise_cons.mp hids).2

theorem markedHolds_eq :
    (s.holdTables hids).markedHolds now batchSize ⟨afterBlockedId, afterRoomHoldId⟩ =
      (((s.dueHolds now).filter (fun i => afterRoomHoldId < i + 1)).take
        (max 1 (min batchSize 100))).map (· + 1) := by
  rw [HoldTables.markedHolds, HoldTables.expiredRoomHolds, batch_eq]
  refine (holdSweep.page_keys_of_sorted (holdRows s.holds) now afterRoomHoldId _
    (holdRows_pairwise s.holds)).trans ?_
  rw [show holdSweep.key = HoldRow.id from rfl, holdRows_due, List.filter_map, List.map_take]
  rfl


/-- One page, in terms of the rows to be done. -/
theorem releaseExpiredHolds_eq :
    s.releaseExpiredHolds now holdMinutes batchSize afterBlockedId afterRoomHoldId =
      { s with
        blockedDates := s.blockedDates.filter (fun blocked => blocked.id ∉
          ((s.oldDates now holdMinutes).filter (fun id => afterBlockedId < id)).take
            (max 1 (min batchSize 100)))
        holds := marks s.holds
          (((s.dueHolds now).filter (fun i => afterRoomHoldId < i + 1)).take
            (max 1 (min batchSize 100))) } := by
  have hdates : (s.blockedDates.filter (fun blocked => blocked.reason = .temporaryHold ∧
      blocked.createdAt < now - holdMinutes * 60000000 ∧ afterBlockedId < blocked.id)).map
        BlockedDate.id = (s.oldDates now holdMinutes).filter (fun id => afterBlockedId < id) := by
    rw [oldDates, List.filter_map, List.filter_filter]
    congr 1
    refine List.filter_congr (fun blocked _ => ?_)
    simp only [isOldDate, Function.comp, ← Bool.decide_and, decide_eq_decide]
    tauto
  have hholds : (List.range s.holds.length).filter (fun i => afterRoomHoldId < i + 1 ∧
      s.holds[i]?.any (fun hold => hold.status = .active ∧ hold.expiresAt ≤ now)) =
        (s.dueHolds now).filter (fun i => afterRoomHoldId < i + 1) := by
    rw [dueHolds, List.filter_filter]
    refine List.filter_congr (fun i _ => ?_)
    rw [Bool.decide_and, Bool.decide_eq_true]
    rfl
  simp only [releaseExpiredHolds, markExpired, marks]
  rw [hdates, hholds]

theorem holdRows_marks (holds : List RoomHold) (places : List ℕ) :
    (holdRows holds).map (fun row => if row.id ∈ places.map (· + 1) then row.markExpired else row) =
      holdRows (marks holds places) := by
  refine List.ext_getElem? (fun i => ?_)
  simp only [holdRows, marks, List.getElem?_map, List.getElem?_mapIdx]
  cases holds[i]? with
  | none => rfl
  | some hold => by_cases h : i ∈ places <;> simp [h, HoldRow.markExpired]

/-- One call of `release_expired_holds` on the inventory is one on its tables. -/
theorem releaseExpiredHolds_tables {t : Inventory}
    (ht : s.releaseExpiredHolds now holdMinutes batchSize afterBlockedId afterRoomHoldId = t) :
    ∃ htids : t.DatesById,
      ((s.holdTables hids).releaseExpiredHolds now holdMinutes batchSize
        ⟨afterBlockedId, afterRoomHoldId⟩).2 = t.holdTables htids := by
  rw [releaseExpiredHolds_eq] at ht
  subst ht
  refine ⟨List.Pairwise.sublist ((List.filter_sublist.map _).cons_cons 0) hids, ?_⟩
  simp only [HoldTables.releaseExpiredHolds, deletedDates_eq, markedHolds_eq, HoldTables.settle]
  simp only [holdTables, holdRows_marks]

/-- Whether there may be more to do, and where the next call starts. -/
theorem releaseExpiredHolds_report {dates places : List ℕ}
    (hdates : ((s.oldDates now holdMinutes).filter (fun id => afterBlockedId < id)).take
      (max 1 (min batchSize 100)) = dates)
    (hplaces : ((s.dueHolds now).filter (fun i => afterRoomHoldId < i + 1)).take
      (max 1 (min batchSize 100)) = places) :
    let report := ((s.holdTables hids).releaseExpiredHolds now holdMinutes batchSize
      ⟨afterBlockedId, afterRoomHoldId⟩).1
    (report.hasMore = true ↔ max 1 (min batchSize 100) ≤ dates.length ∨
      max 1 (min batchSize 100) ≤ places.length) ∧
    report.cursors =
      ⟨if max 1 (min batchSize 100) ≤ dates.length then dates.getLastD 0 else afterBlockedId,
        if max 1 (min batchSize 100) ≤ places.length then places.getLastD 0 + 1
        else afterRoomHoldId⟩ := by
  have hdeleted := (deletedDates_eq hids holdMinutes batchSize _ afterRoomHoldId).trans hdates
  have hmarked := @markedHolds_eq s now hids batchSize afterBlockedId afterRoomHoldId
  rw [hplaces] at hmarked
  generalize hbatch : max 1 (min batchSize 100) = batch
  have hpos : 1 ≤ batch := hbatch ▸ Nat.le_max_left _ _
  rw [HoldTables.deletedDates] at hdeleted
  rw [HoldTables.markedHolds] at hmarked
  have hdatesLength := congrArg List.length hdeleted
  have hplacesLength := congrArg List.length hmarked
  rw [List.length_map] at hdatesLength
  rw [List.length_map, List.length_map] at hplacesLength
  simp only [HoldTables.releaseExpiredHolds, batch_eq, hbatch, Sweep.cursor, hdatesLength,
    hplacesLength, decide_eq_true_eq, true_and]
  rw [show (dateSweep holdMinutes).key = BlockedDate.id from rfl, hdeleted,
    show holdSweep.key = HoldRow.id from rfl, hmarked]
  congr 1
  · split
    · rename_i hfull
      cases dates with
      | nil => simp at hfull; omega
      | cons id rest => rw [List.getLastD_cons, List.getLastD_cons]
    · rfl
  · split
    · rename_i hfull
      cases places with
      | nil => simp at hfull; omega
      | cons i rest =>
        rw [List.map_cons, List.getLastD_cons, List.getLastD_cons, List.getLastD_eq_getLast?,
          List.getLast?_map, List.getLastD_eq_getLast?]
        exact Option.getD_map _ _ _
    · rfl

end Release

/-- The pages are those of the sweep. -/
theorem releasePages_eq (now : Instant) (holdMinutes batchSize fuel : ℕ) :
    ∀ (s : Inventory) (hids : s.DatesById) (afterBlockedId afterRoomHoldId : ℕ) (log : SweepLog),
      HoldTables.sweepExpired holdMinutes batchSize fuel (s.holdTables hids) (fun _ => now)
        ⟨afterBlockedId, afterRoomHoldId⟩ = some log →
      releasePages now holdMinutes batchSize fuel s afterBlockedId afterRoomHoldId = some
        { s with
          blockedDates := s.blockedDates.filter (fun blocked => blocked.id ∉ log.dates)
          holds := marks s.holds (log.holds.map Nat.pred) } := by
  induction fuel with
  | zero =>
    intro s hids afterBlockedId afterRoomHoldId log hlog
    cases hlog
  | succ fuel ih =>
    intro s hids afterBlockedId afterRoomHoldId log hlog
    have hreport := @releaseExpiredHolds_report s now hids holdMinutes batchSize afterBlockedId
      afterRoomHoldId _ _ rfl rfl
    obtain ⟨htids, htables⟩ := @releaseExpiredHolds_tables s now hids holdMinutes batchSize
      afterBlockedId afterRoomHoldId _ rfl
    have hpage := @releaseExpiredHolds_eq s now holdMinutes batchSize afterBlockedId afterRoomHoldId
    have hdates := @deletedDates_eq s now hids holdMinutes batchSize afterBlockedId afterRoomHoldId
    have hholds := @markedHolds_eq s now hids batchSize afterBlockedId afterRoomHoldId
    simp only [releasePages]
    generalize ((s.oldDates now holdMinutes).filter (fun id => afterBlockedId < id)).take
      (max 1 (min batchSize 100)) = dates at hreport hpage hdates ⊢
    generalize ((s.dueHolds now).filter (fun i => afterRoomHoldId < i + 1)).take
      (max 1 (min batchSize 100)) = places at hreport hpage hholds ⊢
    have hplaces : (places.map (· + 1)).map Nat.pred = places := by
      rw [List.map_map]
      exact List.map_id places
    rw [HoldTables.sweepExpired] at hlog
    simp only [htables, hdates, hholds] at hlog
    by_cases hmore : ((s.holdTables hids).releaseExpiredHolds now holdMinutes batchSize
        ⟨afterBlockedId, afterRoomHoldId⟩).1.hasMore = true
    · rw [if_pos hmore, Option.map_eq_some_iff] at hlog
      obtain ⟨later, hlater, rfl⟩ := hlog
      rw [hreport.2] at hlater
      rw [if_pos (hreport.1.mp hmore), ih _ htids _ _ later hlater, hpage]
      simp only [SweepLog.called, SweepLog.before, List.filter_filter, marks_marks, List.map_append,
        hplaces, List.mem_append, not_or, Bool.decide_and, Bool.and_comm]
    · rw [if_neg hmore] at hlog
      cases hlog
      rw [if_neg (fun h => hmore (hreport.1.mpr h))]
      simp only [hpage, hplaces]

theorem releaseToEnd_eq (s : Inventory) (now : Instant) (holdMinutes batchSize : ℕ)
    (hids : s.DatesById) :
    s.releaseToEnd now holdMinutes batchSize = some
      { s with
        blockedDates := s.blockedDates.filter (fun blocked => !isOldDate now holdMinutes blocked)
        holds := marks s.holds (s.dueHolds now) } := by
  have hstart : HoldTables.Progress (s.holdTables hids) holdMinutes now now {} [] [] :=
    ⟨Sweep.Progress.start (s.holdTables hids).dates_positive _,
      Sweep.Progress.start (s.holdTables hids).holds_positive _⟩
  obtain ⟨log, hlog, -, hswept⟩ := HoldTables.sweepExpired_progress batchSize
    (s.blockedDates.length + s.holds.length + 1) (fun _ => now) now {} [] [] monotone_const le_rfl
    le_rfl hstart (by simp [holdTables, holdRows])
  rw [HoldTables.settle_nil] at hlog
  rw [releaseToEnd, releasePages_eq now holdMinutes batchSize _ s hids 0 0 log hlog]
  congr 2
  · refine List.filter_congr (fun blocked hblocked => ?_)
    rw [decide_not, Bool.not_inj_iff, Bool.eq_iff_iff, decide_eq_true_iff]
    exact hswept.dates.mem_iff (s.holdTables hids).dates_nodup hblocked
  · have hplaces : ∀ i, i ∈ log.holds.map Nat.pred ↔ i ∈ s.dueHolds now := by
      intro i
      rw [List.mem_map, mem_dueHolds]
      constructor
      · rintro ⟨_, hid, rfl⟩
        obtain ⟨row, hrow, rfl, hdue⟩ := hswept.holds.justified _ hid
        obtain ⟨place, hhold, hplace⟩ := mem_holdRows.mp hrow
        refine ⟨row.hold, ?_, hdue⟩
        rw [show holdSweep.key row = place + 1 from hplace]
        exact hhold
      · rintro ⟨hold, hhold, hdue⟩
        exact ⟨i + 1, hswept.holds.complete ⟨i + 1, hold⟩ (mem_holdRows.mpr ⟨i, hhold, rfl⟩) hdue,
          rfl⟩
    simp only [marks, hplaces]

/-! ## What becomes of the holds -/

/-- Nothing that is due releases it. -/
theorem forall_dueHolds (releases : RoomHold → Bool) :
    (∀ i ∈ s.dueHolds now, (s.holds[i]?.all fun hold => !releases hold) = true) ↔
      ∀ hold ∈ s.holds, hold.isDue now → ¬ releases hold := by
  constructor
  · intro h hold hhold hdue
    obtain ⟨i, hi⟩ := List.mem_iff_getElem?.mp hhold
    simpa [hi] using h i (mem_dueHolds.mpr ⟨hold, hi, hdue⟩)
  · intro h i hi
    obtain ⟨hold, hhold, hdue⟩ := mem_dueHolds.mp hi
    simpa [hhold] using h hold (List.mem_of_getElem? hhold) hdue

theorem mem_filter_sparesBlock :
    block ∈ s.blocks.filter (sparesBlock s.holds (s.dueHolds now)) ↔
      block ∈ s.blocks ∧ ∀ hold ∈ s.holds, hold.isDue now → ¬ hold.releasesBlock block := by
  rw [List.mem_filter, sparesBlock, List.all_eq_true]
  exact and_congr_right fun _ => forall_dueHolds (·.releasesBlock block)

theorem mem_filter_sparesDate :
    blocked ∈ s.blockedDates.filter (sparesDate s.holds (s.dueHolds now)) ↔
      blocked ∈ s.blockedDates ∧ ∀ hold ∈ s.holds, hold.isDue now →
        ¬ hold.releasesDate blocked := by
  rw [List.mem_filter, sparesDate, List.all_eq_true]
  exact and_congr_right fun _ => forall_dueHolds (·.releasesDate blocked)

theorem multiUnit_eq_some {roomTypeId : Option ℕ} {id : ℕ}
    (h : s.multiUnit roomTypeId = some id) : roomTypeId = some id :=
  (Option.filter_eq_some_iff.mp h).1

/-- What was written for a hold is among what is deleted for it. -/
theorem releasesBlock_of_withholds
    (h : s.withholdsBlock hold block) : hold.releasesBlock block := by
  simp only [withholdsBlock, decide_eq_true_eq] at h
  obtain ⟨hunit, hstart, hend, -, -, hbooking⟩ := h
  simp [RoomHold.releasesBlock, multiUnit_eq_some hunit, hstart, hend, hbooking]

theorem releasesDate_of_withholds
    (h : s.withholdsDate hold blocked) : hold.releasesDate blocked := by
  simp only [withholdsDate, decide_eq_true_eq] at h
  obtain ⟨-, hproperty, hcovers, hreason, -, hcreated⟩ := h
  simp [RoomHold.releasesDate, hproperty, hcovers, hreason, hcreated]

theorem marks_open (hhold : s.holds[i]? = some hold) (hopen : hold.isOpen now) :
    (marks s.holds (s.dueHolds now))[i]? = some hold := by
  have hnot : i ∉ s.dueHolds now := by
    intro hi
    obtain ⟨row, hrow, hdue⟩ := mem_dueHolds.mp hi
    rw [hhold] at hrow
    cases hrow
    simp only [RoomHold.isDue, RoomHold.isOpen, decide_eq_true_eq] at hdue hopen
    exact absurd hdue.2 (not_le.mpr hopen.2)
  rw [marks_getElem?, hhold, Option.map_some, if_neg hnot]

theorem marks_due (hhold : s.holds[i]? = some hold) (hdue : hold.isDue now) :
    (marks s.holds (s.dueHolds now))[i]? = some { hold with status := .expired } := by
  have hi : i ∈ s.dueHolds now := mem_dueHolds.mpr ⟨hold, hhold, hdue⟩
  rw [marks_getElem?, hhold, Option.map_some, if_pos hi]

/-- After a routine that marks what is due and settles the holds, exactly the holds that
were due are released. -/
theorem released_iff {s t : Inventory}
    (hmarks : t.holds = marks s.holds (s.dueHolds now)) (hsettled : HoldsSettled s t now) (i : ℕ) :
    Released s t i ↔ i ∈ s.dueHolds now := by
  constructor
  · rintro ⟨hold, hhold, hactive, hended, -⟩
    by_contra hnot
    have hopen : hold.isOpen now := by
      have hlater : ¬ hold.isDue now := fun hdue => hnot (mem_dueHolds.mpr ⟨hold, hhold, hdue⟩)
      simp only [RoomHold.isDue, RoomHold.isOpen, decide_eq_true_eq, hactive, true_and] at hlater ⊢
      exact not_le.mp hlater
    exact hended hold (hsettled.kept i hold hhold hopen).1 hactive
  · intro hi
    obtain ⟨hold, hhold, hdue⟩ := mem_dueHolds.mp hi
    have hactive : hold.status = .active := by
      simp only [RoomHold.isDue, decide_eq_true_eq] at hdue
      exact hdue.1
    refine ⟨hold, hhold, hactive, ?_, hsettled.freed hold (List.mem_of_getElem? hhold) hdue⟩
    intro row hrow
    rw [hmarks, marks_due hhold hdue] at hrow
    cases hrow
    simp

/-- A block of the other hold is deleted for the one that is due. -/
theorem entangled_of_block {due other : RoomHold}
    (hblock : block ∈ s.blocks) (hother : s.withholdsBlock other block)
    (hdue : due.releasesBlock block) : s.Entangled due other := by
  refine .inl ⟨block, hblock, hother, ?_⟩
  simp only [withholdsBlock, RoomHold.releasesBlock, decide_eq_true_eq] at hother hdue
  obtain ⟨-, hstart, hend, -, -, hbooking⟩ := hother
  obtain ⟨hroom, hstart', hend', hbooking'⟩ := hdue
  exact ⟨hroom, hstart'.symm.trans hstart, hend'.symm.trans hend, by rwa [← hbooking]⟩

theorem entangled_of_date {due other : RoomHold}
    (hblocked : blocked ∈ s.blockedDates) (hother : s.withholdsDate other blocked)
    (hdue : due.releasesDate blocked) : s.Entangled due other := by
  refine .inr ⟨blocked, hblocked, hother, ?_⟩
  simp only [withholdsDate, RoomHold.releasesDate, decide_eq_true_eq] at hother hdue
  obtain ⟨-, hproperty, -, -, -, hcreated⟩ := hother
  obtain ⟨hproperty', hcovers, -, hcreated'⟩ := hdue
  exact ⟨hproperty'.symm.trans hproperty, hcreated'.symm.trans hcreated, hcovers⟩

/-- `expire_room_holds` frees what is due; it spares the other holds if none of them is
entangled with one that is due. -/
theorem expired_settled_iff {s t : Inventory} (ht : s.expireToEnd now = some t) :
    HoldsSettled s t now ↔ ∀ due ∈ s.holds, due.isDue now → ∀ other ∈ s.holds,
      other.isOpen now → ¬ s.Entangled due other := by
  rw [expireToEnd_eq] at ht
  cases ht
  constructor
  · rintro ⟨-, kept⟩ due hdueMem hdue other hotherMem hopen (⟨block, hblock, hother, hroom, hin,
      hout, hbooking⟩ | ⟨blocked, hblocked, hother, hproperty, hguest, hcovers⟩)
    · obtain ⟨i, hi⟩ := List.mem_iff_getElem?.mp hotherMem
      have hkept := (kept i other hi hopen).2.1 block hblock hother
      refine (mem_filter_sparesBlock.mp hkept).2 due hdueMem hdue ?_
      simp only [withholdsBlock, decide_eq_true_eq] at hother
      obtain ⟨-, hstart, hend, -, -, hown⟩ := hother
      simp only [RoomHold.releasesBlock, decide_eq_true_eq]
      exact ⟨hroom, hstart.trans hin.symm, hend.trans hout.symm, by rwa [hown]⟩
    · obtain ⟨i, hi⟩ := List.mem_iff_getElem?.mp hotherMem
      have hkept := (kept i other hi hopen).2.2 blocked hblocked hother
      refine (mem_filter_sparesDate.mp hkept).2 due hdueMem hdue ?_
      simp only [withholdsDate, decide_eq_true_eq] at hother
      obtain ⟨-, hplace, -, hreason, -, hcreated⟩ := hother
      simp only [RoomHold.releasesDate, decide_eq_true_eq]
      exact ⟨hplace.trans hproperty.symm, hcovers, hreason, hcreated.trans hguest.symm⟩
  · intro apart
    refine ⟨?_, ?_⟩
    · intro hold hhold hdue
      refine ⟨?_, ?_⟩
      · intro block hblock hwithholds
        exact (mem_filter_sparesBlock.mp hblock).2 hold hhold hdue
          (releasesBlock_of_withholds hwithholds)
      · intro blocked hblocked hwithholds
        exact (mem_filter_sparesDate.mp hblocked).2 hold hhold hdue
          (releasesDate_of_withholds hwithholds)
    · intro i hold hhold hopen
      have hmem := List.mem_of_getElem? hhold
      refine ⟨marks_open hhold hopen, ?_, ?_⟩
      · intro block hblock hwithholds
        refine mem_filter_sparesBlock.mpr ⟨hblock, fun due hdueMem hdue hreleases => ?_⟩
        exact apart due hdueMem hdue hold hmem hopen
          (entangled_of_block hblock hwithholds hreleases)
      · intro blocked hblocked hwithholds
        refine mem_filter_sparesDate.mpr ⟨hblocked, fun due hdueMem hdue hreleases => ?_⟩
        exact apart due hdueMem hdue hold hmem hopen
          (entangled_of_date hblocked hwithholds hreleases)

theorem isOldDate_iff (h : s.withholdsDate hold blocked) (now : Instant) (holdMinutes : ℕ) :
    isOldDate now holdMinutes blocked = true ↔
      blocked.createdAt < now - holdMinutes * 60000000 := by
  simp only [withholdsDate, decide_eq_true_eq] at h
  simp [isOldDate, h.2.2.2.1]

/-- `release_expired_holds` leaves all blocks and goes by the age of the dates. -/
theorem released_settled_iff {s t : Inventory} {holdMinutes batchSize : ℕ}
    (hids : s.DatesById) (ht : s.releaseToEnd now holdMinutes batchSize = some t) :
    HoldsSettled s t now ↔
      (∀ hold ∈ s.holds, hold.isDue now → ∀ block ∈ s.blocks, ¬ s.withholdsBlock hold block) ∧
      (∀ hold ∈ s.holds, hold.isDue now → ∀ blocked ∈ s.blockedDates,
        s.withholdsDate hold blocked → blocked.createdAt < now - holdMinutes * 60000000) ∧
      (∀ hold ∈ s.holds, hold.isOpen now → ∀ blocked ∈ s.blockedDates,
        s.withholdsDate hold blocked → now - holdMinutes * 60000000 ≤ blocked.createdAt) := by
  rw [releaseToEnd_eq _ _ _ _ hids] at ht
  cases ht
  have hleft : ∀ blocked, blocked ∈ s.blockedDates.filter
    (fun row => !isOldDate now holdMinutes row) ↔
      blocked ∈ s.blockedDates ∧ ¬ isOldDate now holdMinutes blocked = true := by
    intro blocked
    rw [List.mem_filter, Bool.not_eq_true', Bool.not_eq_true]
  constructor
  · rintro ⟨freed, kept⟩
    refine ⟨fun hold hhold hdue => (freed hold hhold hdue).1, ?_, ?_⟩
    · intro hold hhold hdue blocked hblocked hwithholds
      rw [← isOldDate_iff hwithholds]
      by_contra hyoung
      exact (freed hold hhold hdue).2 blocked ((hleft blocked).mpr ⟨hblocked, hyoung⟩) hwithholds
    · intro hold hhold hopen blocked hblocked hwithholds
      obtain ⟨i, hi⟩ := List.mem_iff_getElem?.mp hhold
      have hkept := (hleft blocked).mp ((kept i hold hi hopen).2.2 blocked hblocked hwithholds)
      rw [isOldDate_iff hwithholds] at hkept
      exact not_lt.mp hkept.2
  · rintro ⟨unblocked, old, young⟩
    refine ⟨?_, ?_⟩
    · intro hold hhold hdue
      refine ⟨unblocked hold hhold hdue, ?_⟩
      intro blocked hblocked hwithholds
      obtain ⟨hmem, hyoung⟩ := (hleft blocked).mp hblocked
      exact hyoung ((isOldDate_iff hwithholds now holdMinutes).mpr
        (old hold hhold hdue blocked hmem hwithholds))
    · intro i hold hhold hopen
      have hmem := List.mem_of_getElem? hhold
      refine ⟨marks_open hhold hopen, fun block hblock _ => hblock, ?_⟩
      intro blocked hblocked hwithholds
      refine (hleft blocked).mpr ⟨hblocked, ?_⟩
      rw [isOldDate_iff hwithholds]
      exact not_lt.mpr (young hold hmem hopen blocked hblocked hwithholds)

/-- Both routines come to an end, free the units of the holds that are due and of no
others, and agree, exactly when no hold that is due is backed by a block or entangled with
one that has time left, and the age of the dates tells the ones from the others. -/
theorem holdExpiry_iff (s : Inventory) (now : Instant) (holdMinutes batchSize : ℕ)
    (hids : s.DatesById) :
    s.HoldExpiry now holdMinutes batchSize ↔ s.ExpiryFits now holdMinutes := by
  have hexpired := s.expireToEnd_eq now
  have hreleased := s.releaseToEnd_eq now holdMinutes batchSize hids
  constructor
  · rintro ⟨expired, released, hexpired, hreleased, settled, settled', -⟩
    obtain ⟨unblocked, old, young⟩ := (released_settled_iff hids hreleased).mp settled'
    exact ⟨(expired_settled_iff hexpired).mp settled, unblocked, old, young⟩
  · rintro ⟨apart, unblocked, old, young⟩
    have settled := (expired_settled_iff hexpired).mpr apart
    have settled' := (released_settled_iff hids hreleased).mpr ⟨unblocked, old, young⟩
    refine ⟨_, _, hexpired, hreleased, settled, settled', fun i => ?_⟩
    rw [released_iff rfl settled, released_iff rfl settled']

/-! ## Holds on one house -/

/-- A property with two rooms of one type. -/
def twinRooms : Inventory := { roomTypes := [{ propertyId := 0, totalUnits := 2, maxGuests := 2 }] }

def twinHold : HoldRequest :=
  { propertyId := 0, checkIn := 10, checkOut := 12, createdBy := 4, roomTypeId := some 0,
    units := 1,
    expiresAt := 900000000 }

/-- One room is held for fifteen minutes. -/
def twinHeld : Inventory := twinRooms.after (.createHold twinHold 0)

/-- A property without room types, held for the same time. -/
def houseHeld : Inventory :=
  ({ roomTypes := [] } : Inventory).after (.createHold { twinHold with roomTypeId := none } 0)
    |>.after (.finish 0)

theorem holdExpiry_iff_houseHeld : houseHeld.HoldExpiry 900000001 15 25 :=
  (holdExpiry_iff houseHeld 900000001 15 25 (by decide)).mpr
    { apart := by
        intro due _ _ other hother hopen
        exact absurd hopen ((by decide : ∀ hold ∈ houseHeld.holds, ¬ hold.isOpen 900000001)
          other hother)
      unblocked := by decide
      old := by decide
      young := by decide }

/-- The block of the hold outlives the cleanup task. -/
theorem released_hold_keeps_block : ¬ twinHeld.HoldExpiry 900000001 15 25 := by
  rintro ⟨expired, released, -, hreleased, -, settled, -⟩
  have hunblocked := ((released_settled_iff (by decide) hreleased).mp settled).1
  exact absurd hunblocked (by decide)

end Inventory

end Afcon360.Accommodation
