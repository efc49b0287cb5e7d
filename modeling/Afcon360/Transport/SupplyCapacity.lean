import Afcon360.Transport.VehicleWindows

/-!
# Reservations within the declared supply

The slices of a pool do not overlap, so an instant lies in at most one of them. Two
creations whose windows share an instant have both locked the slice of that instant before
they count, hence one of them has committed before the other counts. A count over the part
of a slice inside the window bounds what covers any single instant of that part, and slices
are never removed.

All of this rests on slices being apart, and `register_supply` only looks for an overlap
before it inserts: two registrations that look before either has committed both go through.
-/

namespace Afcon360.Transport

open Foundation

namespace ReservationTables

variable (tables : ReservationTables)

/-- The declared slices of a pool do not overlap. -/
def SuppliesApart : Prop :=
  ∀ (i j : ℕ) (first second : ProviderOfferingSupply), tables.supplies[i]? = some first →
    tables.supplies[j]? = some second → i ≠ j → first.pool = second.pool →
    first.isDeleted = false → second.isDeleted = false →
    overlaps first.windowStart first.windowEnd second.windowStart second.windowEnd = false

/-- The active lines of a pool that cover an instant. -/
def covering (pool : Pool) (instant : ℤ) : ℕ :=
  tables.lines.countP (fun line => tables.drawsOn pool line &&
    covers line.windowStart line.windowEnd instant)

/-- At every instant of a slice the active lines of its pool stay within its units. -/
def WithinSupply : Prop :=
  ∀ supply ∈ tables.supplies, supply.isDeleted = false → ∀ instant,
    covers supply.windowStart supply.windowEnd instant = true →
    (tables.covering supply.pool instant : ℤ) ≤ supply.totalUnits

/-- A slice of the pool covers the instant. -/
def SuppliedAt (pool : Pool) (instant : ℤ) : Prop :=
  ∃ supply ∈ tables.supplies, supply.pool = pool ∧ supply.isDeleted = false ∧
    covers supply.windowStart supply.windowEnd instant = true

/-- Every instant of a reservation's window lies in a slice of its pool. -/
def WindowsSupplied : Prop :=
  ∀ row ∈ tables.reservations, row.isDeleted = false → ∀ instant,
    covers row.windowStart row.windowEnd instant = true → tables.SuppliedAt row.pool instant

/-- Tables to start from: the three properties, every line with a header and in the header's
window. -/
structure Supplied : Prop where
  linked : tables.Linked
  windows : ∀ line ∈ tables.lines, ∀ row, tables.reservations[line.reservationId]? = some row →
    line.windowStart = row.windowStart ∧ line.windowEnd = row.windowEnd
  apart : tables.SuppliesApart
  within : tables.WithinSupply
  windowsSupplied : tables.WindowsSupplied

/-- The part of a slice inside a window has been counted with room for the request. -/
def Counted (request : ReservationRequest) (entry : SupplyRow) : Prop :=
  min entry.1.windowEnd request.windowEnd.instant ≤
      max entry.1.windowStart request.windowStart.instant ∨
    tables.countCommitted request.pool (max entry.1.windowStart request.windowStart.instant)
        (min entry.1.windowEnd request.windowEnd.instant) + request.requiredQuantity ≤
      entry.1.totalUnits

/-- The rows a supply statement has returned. -/
def RowsFit (request : ReservationRequest) (rows : List SupplyRow) : Prop :=
  ∀ entry ∈ rows, tables.supplies[entry.2]? = some entry.1 ∧ entry.1.pool = request.pool ∧
    entry.1.isDeleted = false

end ReservationTables

/-- The rows cover the window of the request. -/
def WindowCovered (request : ReservationRequest) (rows : List SupplyRow) : Prop :=
  ∀ instant, covers request.windowStart.instant request.windowEnd.instant instant = true →
    ∃ entry ∈ rows, covers entry.1.windowStart entry.1.windowEnd instant = true

/-- What a creation has to be in order for the supply, by its stage. -/
def CreateStage.SupplyFit (tables : ReservationTables) (request : ReservationRequest) :
    CreateStage → Prop
  | .supplyRead _ rows => tables.RowsFit request rows
  | .counting _ rows remaining => tables.RowsFit request rows ∧ WindowCovered request rows ∧
      ∀ entry ∈ rows, entry ∈ remaining ∨ tables.Counted request entry
  | .inserted rows row => tables.RowsFit request rows ∧ WindowCovered request rows ∧
      (∀ entry ∈ rows, tables.Counted request entry) ∧ row.pool = request.pool ∧
      row.windowStart = request.windowStart.instant ∧ row.windowEnd = request.windowEnd.instant
  | _ => True

/-- A checked request: its window is not empty and it asks for as many units as it has lines. -/
structure ReservationRequest.Checked (request : ReservationRequest) : Prop where
  window : request.windowStart.instant < request.windowEnd.instant
  lines : (request.lineVehicles.length : ℤ) = request.requiredQuantity

def ReservationCall.SupplyFit (tables : ReservationTables) : ReservationCall → Prop
  | .create request _ _ stage => request.Checked ∧ stage.SupplyFit tables request
  | .register supply stage => stage.underWay = true → 0 < supply.totalUnits
  | _ => True

theorem ReservationRequest.checked_of_check {request : ReservationRequest}
    {context : ReservationContext} {found : ℕ × TransportOffering}
    (h : request.check context = .ok found) : request.Checked := by
  unfold check at h
  split at h
  · cases h
  split at h
  · cases h
  rename_i hwindow
  split at h
  · cases h
  rename_i hquantity
  split at h
  · cases h
  split at h
  · cases h
  split at h
  · cases h
  split at h
  · cases h
  split at h
  · cases h
  rename_i hvehicles
  refine ⟨by omega, ?_⟩
  unfold lineVehicles
  cases hspecific : request.isSpecific with
  | true =>
    simp only [hspecific, true_and, not_or, not_not] at hvehicles
    simpa using hvehicles.2
  | false =>
    simp only [Bool.false_eq_true, if_false, List.length_replicate]
    omega

/-- The coverage loop: every instant from the cursor to the end of the window lies in one of
the rows. -/
theorem covered_of_assert {windowEnd cursor : ℤ} {rows : List SupplyRow}
    (h : assertContinuousCoverage windowEnd cursor rows = .ok ()) (instant : ℤ)
    (hinstant : covers cursor windowEnd instant = true) :
    ∃ entry ∈ rows, covers entry.1.windowStart entry.1.windowEnd instant = true := by
  simp only [covers, decide_eq_true_eq] at hinstant
  induction rows generalizing cursor with
  | nil =>
    simp only [assertContinuousCoverage] at h
    split at h
    · cases h
    · omega
  | cons entry rest ih =>
    obtain ⟨slice, position⟩ := entry
    have tail : ∀ cursor', assertContinuousCoverage windowEnd cursor' rest = .ok () →
        cursor' ≤ instant → ∃ entry ∈ (slice, position) :: rest,
          covers entry.1.windowStart entry.1.windowEnd instant = true := by
      intro cursor' hrest hle
      obtain ⟨entry, hentry, hcovers⟩ := ih hrest ⟨hle, hinstant.2⟩
      exact ⟨entry, List.mem_cons_of_mem _ hentry, hcovers⟩
    simp only [assertContinuousCoverage] at h
    split at h
    · exact tail cursor h hinstant.1
    · split at h
      · cases h
      · -- an instant before the end of this slice lies in it
        by_cases hslice : instant < slice.windowEnd
        · refine ⟨(slice, position), List.mem_cons_self, ?_⟩
          simp only [covers, decide_eq_true_eq]
          omega
        · split at h
          · omega
          · exact tail _ h (by omega)

namespace ReservationDesk

variable {context : ReservationContext} {digest : CanonicalRequest → String}
variable {s t : ReservationDesk} {place : ℕ} {tables : ReservationTables}
variable {request : ReservationRequest}

theorem rowsFit_overlappingSupplies (request : ReservationRequest) (start stop : ℤ) :
    tables.RowsFit request (tables.overlappingSupplies request.pool start stop) := by
  intro entry hentry
  unfold ReservationTables.overlappingSupplies at hentry
  rw [List.mem_insertionSort] at hentry
  obtain ⟨hmem, hcond⟩ := List.mem_filter.mp hentry
  simp only [Bool.and_eq_true, decide_eq_true_eq, Bool.not_eq_true'] at hcond
  exact ⟨List.mem_zipIdx_iff_getElem?.mp hmem, hcond.1.1, hcond.1.2⟩

/-- A creation that goes on stays in order. -/
theorem supplyFit_createStep {user : ℕ} {offering : TransportOffering} {stage stage' : CreateStage}
    (step : CreateStep context digest s place request user offering stage stage')
    (fit : stage.SupplyFit s.tables request) : stage'.SupplyFit s.tables request := by
  cases step with
  | wait => exact fit
  | readSupply decision => exact rowsFit_overlappingSupplies request _ _
  | lockSupply decision rows hfree hcover =>
    exact ⟨fit, fun instant hinstant => covered_of_assert hcover instant hinstant,
      fun entry hentry => .inl hentry⟩
  | count decision rows remaining entry hcount =>
    obtain ⟨rowsFit, covered, counted⟩ := fit
    refine ⟨rowsFit, covered, ?_⟩
    intro other hother
    obtain hmem | hdone := counted other hother
    · obtain rfl | hrest := List.mem_cons.mp hmem
      · exact .inr hcount
      · exact .inl hrest
    · exact .inr hdone
  | insert decision rows row hcreated hused hfree =>
    obtain ⟨rowsFit, covered, counted⟩ := fit
    obtain ⟨-, rfl⟩ := ReservationRequest.created_eq_ok hcreated
    refine ⟨rowsFit, covered, ?_, rfl, rfl, rfl⟩
    intro entry hentry
    obtain hmem | hdone := counted entry hentry
    · cases hmem
    · exact hdone
  | fail => trivial
  | replay => trivial
  | decide => trivial
  | lockVehicles => trivial
  | capacityMode => trivial
  | checkVehicles => trivial

/-! ## A new reservation -/

section

variable {row : TransportReservation} {rows : List SupplyRow}

variable {entry : SupplyRow} {new : ReservationTables} {stage : CreateStage}

/-- The new lines that a condition on the window counts: all or none of them. -/
theorem countP_materialiseLines (tables : ReservationTables) (row : TransportReservation)
    (pool : Pool) (cond : ℤ → ℤ → Bool) :
    (request.materialiseLines tables.reservations.length).countP (fun line =>
      (tables.insertReservation row request).drawsOn pool line &&
        cond line.windowStart line.windowEnd) =
      if row.isDeleted = false ∧ row.pool = pool ∧
          cond request.windowStart.instant request.windowEnd.instant = true then
        request.lineVehicles.length
      else 0 := by
  have hlines : ∀ line ∈ request.materialiseLines tables.reservations.length,
      ((tables.insertReservation row request).drawsOn pool line &&
        cond line.windowStart line.windowEnd) =
      (!row.isDeleted && decide (row.pool = pool) &&
        cond request.windowStart.instant request.windowEnd.instant) := by
    intro line hline
    obtain ⟨hid, hstart, hend, -⟩ := ReservationTables.mem_materialiseLines hline
    have hactive : (line.state.active && !line.isDeleted) = true := by
      obtain ⟨vehicle, -, rfl⟩ := List.mem_map.mp hline
      rfl
    unfold ReservationTables.drawsOn
    rw [hactive, ReservationTables.headerOf_insert_new hid, hstart, hend, Bool.true_and]
  rw [List.countP_congr (fun line hline => by rw [hlines line hline])]
  by_cases hcond : row.isDeleted = false ∧ row.pool = pool ∧
      cond request.windowStart.instant request.windowEnd.instant = true
  · rw [if_pos hcond]
    simp [hcond, ReservationRequest.materialiseLines]
  · rw [if_neg hcond]
    refine List.countP_eq_zero.mpr ?_
    intro line _ htrue
    simp only [Bool.and_eq_true, Bool.not_eq_true', decide_eq_true_eq] at htrue
    exact hcond ⟨htrue.1.1, htrue.1.2, htrue.2⟩

/-- The lines of a pool after an insertion, counted by a condition on their window. -/
theorem countP_insert (linked : tables.Linked) (row : TransportReservation) (pool : Pool)
    (cond : ℤ → ℤ → Bool) :
    (tables.insertReservation row request).lines.countP (fun line =>
      (tables.insertReservation row request).drawsOn pool line &&
        cond line.windowStart line.windowEnd) =
      tables.lines.countP (fun line => tables.drawsOn pool line &&
        cond line.windowStart line.windowEnd) +
      if row.isDeleted = false ∧ row.pool = pool ∧
          cond request.windowStart.instant request.windowEnd.instant = true then
        request.lineVehicles.length
      else 0 := by
  rw [← countP_materialiseLines tables row pool cond]
  rw [show (tables.insertReservation row request).lines =
    tables.lines ++ request.materialiseLines tables.reservations.length from rfl,
      List.countP_append]
  congr 1
  refine List.countP_congr ?_
  intro line hline
  rw [ReservationTables.drawsOn_insert_old pool (linked line hline)]

/-- The row that covers an instant of a window is the slice of that instant. -/
theorem entry_unique (entry' : SupplyRow) {instant : ℤ} (apart : tables.SuppliesApart)
    (hentry : tables.supplies[entry.2]? = some entry.1)
    (hentry' : tables.supplies[entry'.2]? = some entry'.1) (hpool : entry.1.pool = entry'.1.pool)
    (hdel : entry.1.isDeleted = false) (hdel' : entry'.1.isDeleted = false)
    (hcovers : covers entry.1.windowStart entry.1.windowEnd instant = true)
    (hcovers' : covers entry'.1.windowStart entry'.1.windowEnd instant = true) :
    entry.2 = entry'.2 := by
  by_contra hne
  have hmeet := overlaps_of_covers hcovers hcovers'
  rw [apart entry.2 entry'.2 entry.1 entry'.1 hentry hentry' hne hpool hdel hdel'] at hmeet
  cases hmeet

/-- An instant of the window and of a counted slice has room for the request. -/
theorem covering_of_counted {instant : ℤ} (counted : tables.Counted request entry)
    (hwindow : covers request.windowStart.instant request.windowEnd.instant instant = true)
    (hslice : covers entry.1.windowStart entry.1.windowEnd instant = true) :
    (tables.covering request.pool instant : ℤ) + request.requiredQuantity ≤
      entry.1.totalUnits := by
  have hpart : covers (max entry.1.windowStart request.windowStart.instant)
      (min entry.1.windowEnd request.windowEnd.instant) instant = true := by
    simp only [covers, decide_eq_true_eq] at hwindow hslice ⊢
    omega
  have hle : tables.covering request.pool instant ≤ tables.countCommitted request.pool
      (max entry.1.windowStart request.windowStart.instant)
      (min entry.1.windowEnd request.windowEnd.instant) := by
    refine List.countP_mono_left ?_
    intro line _ hline
    rw [Bool.and_eq_true] at hline ⊢
    exact ⟨hline.1, overlaps_of_covers hline.2 hpart⟩
  obtain hempty | hroom := counted
  · simp only [covers, decide_eq_true_eq] at hpart
    omega
  · omega

theorem supplied_insert (whole : tables.Supplied) (checked : request.Checked)
    (fit : (CreateStage.inserted rows row).SupplyFit tables request) :
    (tables.insertReservation row request).Supplied := by
  obtain ⟨rowsFit, covered, counted, hpool, hstart, hend⟩ := fit
  refine ⟨whole.linked.insert, ?_, whole.apart, ?_, ?_⟩
  · intro line hline header hheader
    simp only [ReservationTables.insertReservation, List.mem_append] at hline hheader
    obtain hold | hnew := hline
    · rw [List.getElem?_append_left (whole.linked line hold)] at hheader
      exact whole.windows line hold header hheader
    · obtain ⟨hid, hstart', hend', -⟩ := ReservationTables.mem_materialiseLines hnew
      rw [hid, List.getElem?_concat_length, Option.some.injEq] at hheader
      rw [← hheader, hstart, hend]
      exact ⟨hstart', hend'⟩
  · intro supply hsupply hdel instant hinstant
    have hbefore := whole.within supply hsupply hdel instant hinstant
    unfold ReservationTables.covering at hbefore ⊢
    rw [countP_insert whole.linked row supply.pool (fun start stop => covers start stop instant)]
    split
    · rename_i hnew
      obtain ⟨position, hposition⟩ := List.mem_iff_getElem?.mp hsupply
      obtain ⟨entry, hentry, hcovers⟩ := covered instant hnew.2.2
      obtain ⟨hget, hpool', hdel'⟩ := rowsFit entry hentry
      have hsame : entry.2 = position := entry_unique (supply, position)
        whole.apart hget hposition (hpool'.trans (hpool.symm.trans hnew.2.1)) hdel' hdel
          hcovers hinstant
      have hslice : entry.1 = supply := by
        rw [hsame] at hget
        exact Option.some.inj (hget.symm.trans hposition)
      have hroom := covering_of_counted (counted entry hentry) hnew.2.2 hcovers
      rw [hslice, ← hpool, hnew.2.1] at hroom
      unfold ReservationTables.covering at hroom
      have := checked.lines
      omega
    · simpa using hbefore
  · intro header hheader hdel instant hinstant
    simp only [ReservationTables.insertReservation, List.mem_append, List.mem_singleton] at hheader
    obtain hold | rfl := hheader
    · exact whole.windowsSupplied header hold hdel instant hinstant
    · rw [hstart, hend] at hinstant
      obtain ⟨entry, hentry, hcovers⟩ := covered instant hinstant
      obtain ⟨hget, hpool', hdel'⟩ := rowsFit entry hentry
      exact ⟨entry.1, List.mem_of_getElem? hget, hpool'.trans hpool.symm, hdel', hcovers⟩

/-! ## The other calls -/

theorem counted_insert {request' : ReservationRequest}
    (linked : tables.Linked) (counted : tables.Counted request' entry)
    (none' : ∀ instant, covers request'.windowStart.instant request'.windowEnd.instant instant =
      true → covers entry.1.windowStart entry.1.windowEnd instant = true →
      covers request.windowStart.instant request.windowEnd.instant instant = true →
      row.pool = request'.pool → False) (checked : request.Checked) :
    (tables.insertReservation row request).Counted request' entry := by
  obtain hempty | hroom := counted
  · exact .inl hempty
  · by_cases hempty : min entry.1.windowEnd request'.windowEnd.instant ≤
        max entry.1.windowStart request'.windowStart.instant
    · exact .inl hempty
    · refine .inr ?_
      unfold ReservationTables.countCommitted at hroom ⊢
      rw [countP_insert linked row request'.pool (fun start stop => overlaps start stop
        (max entry.1.windowStart request'.windowStart.instant)
        (min entry.1.windowEnd request'.windowEnd.instant)), if_neg]
      · simpa using hroom
      · -- the first instant of the overlap lies in both windows and in the slice
        rintro ⟨-, hpool, hmeet⟩
        have hwindow := checked.window
        simp only [overlaps, decide_eq_true_eq] at hmeet
        refine none' (max request.windowStart.instant
          (max entry.1.windowStart request'.windowStart.instant)) ?_ ?_ ?_ hpool <;>
          simp only [covers, decide_eq_true_eq] <;> omega

theorem supplyFit_insert {request' : ReservationRequest}
    (linked : tables.Linked) (checked : request.Checked) (fit : stage.SupplyFit tables request')
    (none' : ∀ entry instant,
      (∃ decision rows remaining, stage = .counting decision rows remaining ∧
        entry ∈ rows) ∨ (∃ rows row', stage = .inserted rows row' ∧ entry ∈ rows) →
      tables.supplies[entry.2]? = some entry.1 → entry.1.pool = request'.pool →
      entry.1.isDeleted = false →
      covers entry.1.windowStart entry.1.windowEnd instant = true →
      covers request.windowStart.instant request.windowEnd.instant instant = true →
      row.pool = request'.pool → False) :
    stage.SupplyFit (tables.insertReservation row request) request' := by
  cases stage with
  | supplyRead decision rows => exact fit
  | counting decision rows remaining =>
    obtain ⟨rowsFit, covered, counted⟩ := fit
    refine ⟨rowsFit, covered, ?_⟩
    intro entry hentry
    obtain ⟨hget, hpool, hdel⟩ := rowsFit entry hentry
    obtain hmem | hdone := counted entry hentry
    · exact .inl hmem
    · exact .inr (counted_insert linked hdone (fun instant _ hslice hwindow hrow =>
        none' entry instant (.inl ⟨decision, rows, remaining, rfl, hentry⟩) hget hpool hdel hslice
          hwindow hrow) checked)
  | inserted rows row' =>
    obtain ⟨rowsFit, covered, counted, hfields⟩ := fit
    refine ⟨rowsFit, covered, ?_, hfields⟩
    intro entry hentry
    obtain ⟨hget, hpool, hdel⟩ := rowsFit entry hentry
    exact counted_insert linked (counted entry hentry) (fun instant _ hslice hwindow hrow =>
      none' entry instant (.inr ⟨rows, row', rfl, hentry⟩) hget hpool hdel hslice hwindow hrow)
      checked
  | _ => trivial

theorem holds_supply {user : ℕ} {offering : TransportOffering}
    (h : (∃ decision rows remaining, stage = .counting decision rows remaining ∧ entry ∈ rows) ∨
      (∃ rows row', stage = .inserted rows row' ∧ entry ∈ rows)) :
    (ReservationCall.create request user offering stage).holds (.supply entry.2) = true := by
  have hany : ∀ rows : List SupplyRow, entry ∈ rows →
      rows.any (fun other => ReservationRow.supply entry.2 = .supply other.2) = true :=
    fun rows hentry => List.any_eq_true.mpr ⟨entry, hentry, by simp⟩
  rcases h with ⟨decision, rows, remaining, rfl, hentry⟩ | ⟨rows, row', rfl, hentry⟩ <;>
    simp only [ReservationCall.holds, CreateStage.holds, hany rows hentry, Bool.or_true,
      Bool.true_or]

theorem counted_shrink (shrinks : Shrinks tables new)
    (counted : tables.Counted request entry) : new.Counted request entry := by
  obtain hempty | hroom := counted
  · exact .inl hempty
  · refine .inr ?_
    have := shrinks.countP_le request.pool (fun start stop => overlaps start stop
      (max entry.1.windowStart request.windowStart.instant)
      (min entry.1.windowEnd request.windowEnd.instant))
    unfold ReservationTables.countCommitted at hroom ⊢
    omega

theorem supplyFit_shrink (shrinks : Shrinks tables new) (fit : stage.SupplyFit tables request) :
    stage.SupplyFit new request := by
  have rowsFit : ∀ rows, tables.RowsFit request rows → new.RowsFit request rows := by
    intro rows h entry hentry
    rw [shrinks.supplies]
    exact h entry hentry
  cases stage with
  | supplyRead decision rows => exact rowsFit rows fit
  | counting decision rows remaining =>
    exact ⟨rowsFit rows fit.1, fit.2.1,
      fun entry hentry => (fit.2.2 entry hentry).imp_right (counted_shrink shrinks)⟩
  | inserted rows row =>
    exact ⟨rowsFit rows fit.1, fit.2.1,
      fun entry hentry => counted_shrink shrinks (fit.2.2.1 entry hentry), fit.2.2.2⟩
  | _ => trivial

theorem supplied_shrink (shrinks : Shrinks tables new)
    (whole : tables.Supplied) : new.Supplied := by
  refine ⟨whole.linked.shrink shrinks, ?_, ?_, ?_, ?_⟩
  · obtain ⟨f, hf, kept⟩ := shrinks.lines
    intro line hline row hrow
    rw [hf] at hline
    obtain ⟨old, hold, rfl⟩ := List.mem_map.mp hline
    obtain ⟨row', hrow', hterms⟩ := shrinks.row_of hrow
    rw [(kept old).reservationId] at hrow'
    rw [(kept old).windowStart, (kept old).windowEnd,
      TransportReservation.windowStart_of_terms hterms,
      TransportReservation.windowEnd_of_terms hterms]
    exact whole.windows old hold row' hrow'
  · unfold ReservationTables.SuppliesApart
    rw [shrinks.supplies]
    exact whole.apart
  · intro supply hsupply hdel instant hinstant
    rw [shrinks.supplies] at hsupply
    have hbefore := whole.within supply hsupply hdel instant hinstant
    have := shrinks.countP_le supply.pool (fun start stop => covers start stop instant)
    unfold ReservationTables.covering at hbefore ⊢
    omega
  · intro row hrow hdel instant hinstant
    obtain ⟨position, hposition⟩ := List.mem_iff_getElem?.mp hrow
    obtain ⟨row', hrow', hterms⟩ := shrinks.row_of hposition
    rw [TransportReservation.windowStart_of_terms hterms,
      TransportReservation.windowEnd_of_terms hterms] at hinstant
    rw [TransportReservation.isDeleted_of_terms hterms] at hdel
    rw [TransportReservation.pool_of_terms hterms]
    unfold ReservationTables.SuppliedAt
    rw [shrinks.supplies]
    exact whole.windowsSupplied row' (List.mem_of_getElem? hrow') hdel instant hinstant

/-- Another slice that meets no slice of its pool: no line can draw on it yet. -/
theorem supplied_register {supply : ProviderOfferingSupply} (whole : tables.Supplied)
    (units : 0 < supply.totalUnits)
    (clear : tables.overlappingSupplies supply.pool supply.windowStart supply.windowEnd = []) :
    ({ tables with supplies := tables.supplies ++ [supply] } : ReservationTables).Supplied := by
  have apart : ∀ other ∈ tables.supplies, other.pool = supply.pool → other.isDeleted = false →
      overlaps other.windowStart other.windowEnd supply.windowStart supply.windowEnd = false := by
    intro other hother hpool hdel
    obtain ⟨position, hposition⟩ := List.mem_iff_getElem?.mp hother
    by_contra hmeet
    have hmem : (other, position) ∈
        tables.overlappingSupplies supply.pool supply.windowStart supply.windowEnd := by
      unfold ReservationTables.overlappingSupplies
      rw [List.mem_insertionSort]
      refine List.mem_filter.mpr ⟨List.mem_zipIdx_iff_getElem?.mpr hposition, ?_⟩
      simpa [hpool, hdel] using hmeet
    rw [clear] at hmem
    cases hmem
  refine ⟨whole.linked, whole.windows, ?_, ?_, ?_⟩
  · intro i j first second hfirst hsecond hne hpool hdel hdel'
    rcases getElem?_append_cases hfirst with hold | ⟨hi, rfl⟩ <;>
      obtain hold' | ⟨hj, rfl⟩ := getElem?_append_cases hsecond
    · exact whole.apart i j first second hold hold' hne hpool hdel hdel'
    · exact apart first (List.mem_of_getElem? hold) hpool hdel
    · rw [overlaps_comm]
      exact apart second (List.mem_of_getElem? hold') hpool.symm hdel'
    · omega
  · intro other hother hdel instant hinstant
    obtain hold | hnew := List.mem_append.mp hother
    · exact whole.within other hold hdel instant hinstant
    · obtain rfl := List.mem_singleton.mp hnew
      -- a line of the pool at this instant would have a slice there already
      have hnone : tables.covering other.pool instant = 0 := by
        refine List.countP_eq_zero.mpr ?_
        intro line hline htrue
        simp only [Bool.and_eq_true] at htrue
        obtain ⟨hdraws, hcovers⟩ := htrue
        unfold ReservationTables.drawsOn ReservationTables.headerOf at hdraws
        simp only [Bool.and_eq_true] at hdraws
        obtain ⟨header, hheader, hcond⟩ := (Option.any_eq_true _ _).mp hdraws.2
        simp only [Bool.and_eq_true, Bool.not_eq_true', decide_eq_true_eq] at hcond
        obtain ⟨hstart, hend⟩ := whole.windows line hline header hheader
        rw [hstart, hend] at hcovers
        obtain ⟨slice, hslice, hpool, hdel', hcovers'⟩ := whole.windowsSupplied header
          (List.mem_of_getElem? hheader) hcond.1 instant hcovers
        have hmeet := overlaps_of_covers hcovers' hinstant
        rw [apart slice hslice (hpool.trans hcond.2) hdel'] at hmeet
        cases hmeet
      have hzero : (({ tables with supplies := tables.supplies ++ [other] } :
          ReservationTables).covering other.pool instant : ℤ) = 0 := by exact_mod_cast hnone
      omega
  · intro row hrow hdel instant hinstant
    obtain ⟨slice, hslice, hrest⟩ := whole.windowsSupplied row hrow hdel instant hinstant
    exact ⟨slice, List.mem_append_left _ hslice, hrest⟩

end

/-- When a registration commits, still no slice of its pool meets its window. -/
def noSliceBetween (s : ReservationDesk) : Move → Bool
  | .commit place =>
    match s.calls[place]? with
    | some (.register supply .checked) =>
      (s.tables.overlappingSupplies supply.pool supply.windowStart supply.windowEnd).isEmpty
    | _ => true
  | _ => true

theorem keeps_supplied :
    Keeps context digest (fun s move => noSliceBetween s move = true) ReservationTables.Supplied
      ReservationCall.SupplyFit where
  begin := by
    intro s move call _ hbegin
    cases begins_of_beginCall hbegin with
    | create hcheck => exact ⟨ReservationRequest.checked_of_check hcheck, trivial⟩
    | unregistered => exact fun hunder => by cases hunder
    | register hwindow hunits => exact fun _ => hunits
    | _ => trivial
  next := by
    intro s place call _ fit
    cases call with
    | create request user offering stage =>
      exact ⟨fit.1, supplyFit_createStep
        (createNext_step s place request user offering stage) fit.2⟩
    | register supply stage =>
      intro hunder
      refine fit ?_
      cases stage <;> simp_all [registerNext, RegisterStage.underWay]
    | _ => trivial
  abort := by
    intro tables call fit
    cases call with
    | create request user offering stage =>
      refine ⟨fit.1, ?_⟩
      cases hstage : stage.underWay with
      | true => trivial
      | false => exact fit.2
    | register supply stage =>
      intro hunder
      cases hstage : stage.underWay with
      | true => exact fit hstage
      | false => simp [hstage] at hunder
    | _ => trivial
  commit := by
    intro s place call call' tables hguard locked order hcall hcommit
    rcases commit_cases hcommit with ⟨request, user, offering, rows, row, rfl, rfl, rfl⟩ |
        ⟨supply, rfl, rfl, rfl⟩ | ⟨shrinks, hcreate, hregister⟩
    · obtain ⟨checked, fit⟩ := order.each place _ hcall
      refine ⟨supplied_insert order.whole checked fit, ⟨checked, trivial⟩, ?_⟩
      intro q other hother hne hfit
      cases other with
      | create request' user' offering' stage' =>
        refine ⟨hfit.1, supplyFit_insert order.whole.linked checked hfit.2 ?_⟩
        -- both calls would hold the slice of the instant
        intro entry instant hstage hget hpool hdel hslice hwindow hrow
        obtain ⟨rowsFit, covered, -, hpool', -⟩ := fit
        obtain ⟨entry', hentry', hslice'⟩ := covered instant hwindow
        obtain ⟨hget', hpool'', hdel'⟩ := rowsFit entry' hentry'
        have hsame := entry_unique _ order.whole.apart hget hget'
          (hpool.trans (hrow.symm.trans (hpool'.trans hpool''.symm))) hdel hdel' hslice hslice'
        refine hne (locked q place _ _ (.supply entry.2) hother hcall (holds_supply hstage) ?_)
        rw [hsame]
        exact holds_supply (.inr ⟨rows, row, rfl, hentry'⟩)
      | register supply stage => exact hfit
      | _ => trivial
    · have hclear : s.tables.overlappingSupplies supply.pool supply.windowStart supply.windowEnd =
          [] := by
        simpa [noSliceBetween, hcall] using hguard
      refine ⟨supplied_register order.whole (order.each place _ hcall rfl) hclear, ?_, ?_⟩
      · intro hunder
        cases hunder
      intro q other _ _ hfit
      have rowsFit : ∀ request rows, s.tables.RowsFit request rows →
          ({ s.tables with supplies := s.tables.supplies ++ [supply] } :
            ReservationTables).RowsFit request rows := by
        intro request rows h entry hentry
        obtain ⟨hget, hrest⟩ := h entry hentry
        refine ⟨?_, hrest⟩
        exact (List.getElem?_append_left (List.getElem?_eq_some_iff.mp hget).1).trans hget
      cases other with
      | create request user offering stage =>
        refine ⟨hfit.1, ?_⟩
        cases stage with
        | supplyRead decision rows => exact rowsFit request rows hfit.2
        | counting decision rows remaining =>
          exact ⟨rowsFit request rows hfit.2.1, hfit.2.2⟩
        | inserted rows row => exact ⟨rowsFit request rows hfit.2.1, hfit.2.2⟩
        | _ => trivial
      | register supply' stage => exact hfit
      | _ => trivial
    · refine ⟨supplied_shrink shrinks order.whole, ?_, ?_⟩
      · cases call' with
        | create request user offering stage => exact (hcreate _ _ _ _ rfl).elim
        | register supply stage => exact (hregister _ _ rfl).elim
        | _ => trivial
      · intro q other _ _ hfit
        cases other with
        | create request user offering stage => exact ⟨hfit.1, supplyFit_shrink shrinks hfit.2⟩
        | register supply stage => exact hfit
        | _ => trivial

/-- In every interleaving in which no overlapping slice is committed between the check of a
registration and its insert: the slices of a pool are apart, the active lines at an instant
of a slice stay within its units, and every instant of an active reservation's window lies in
a slice of its pool. -/
theorem reservations_within_supply (context : ReservationContext)
    (digest : CanonicalRequest → String) (start t : ReservationDesk) (moves : List Move)
    (whole : start.tables.Supplied) (idle : start.calls = [])
    (run : Run (Guarded (fun s move => noSliceBetween s move = true) (step context digest))
      start moves t) :
    t.tables.SuppliesApart ∧ t.tables.WithinSupply ∧
      ∀ row ∈ t.tables.reservations, row.isDeleted = false → row.state.consumesCapacity = true →
        ∀ instant, covers row.windowStart row.windowEnd instant = true →
          t.tables.SuppliedAt row.pool instant :=
  have supplied := (keeps_supplied.run_idle run idle whole).2.whole
  ⟨supplied.apart, supplied.within,
    fun row hrow hdel _ instant => supplied.windowsSupplied row hrow hdel instant⟩

/-! ## Two registrations at once -/

/-- A request of a user for some units of the operator. -/
def unitsRequest (user : ℕ) (key : String) (units : ℤ) (start stop : ℤ) : ReservationRequest where
  actor := some user
  offeringCode := "van"
  providerType := "organisation"
  providerId := 3
  windowStart := ⟨start, some 0⟩
  windowEnd := ⟨stop, some 0⟩
  requiredQuantity := units
  mode := "capacity"
  idempotencyKey := key
  paymentTiming := some "INVOICE"

/-- One registration after the other, with a reservation of two units between them. -/
def supplyInTurn : List Move :=
  [.register ⟨vanPool, 0, 1000, 2, false⟩, .next 0, .commit 0,
   .create (unitsRequest 1 "a" 2 100 200), .next 1, .next 1, .next 1, .next 1, .next 1, .next 1,
   .commit 1,
   .register ⟨vanPool, 1000, 2000, 1, false⟩, .next 2, .commit 2]

theorem reservations_within_supply_in_turn :
    let t := supplyInTurn.foldl (after operatorContext fun _ => "") ⟨{}, []⟩
    t.tables.covering vanPool 150 = 2 ∧ t.tables.SuppliesApart ∧ t.tables.WithinSupply :=
  have supplied := reservations_within_supply operatorContext (fun _ => "") ⟨{}, []⟩ _ supplyInTurn
    ⟨by simp [ReservationTables.Linked], by simp, by simp [ReservationTables.SuppliesApart],
      by simp [ReservationTables.WithinSupply], by simp [ReservationTables.WindowsSupplied]⟩ rfl
    (Run.guarded_foldl (by decide +kernel))
  ⟨by decide +kernel, supplied.1, supplied.2.1⟩

/-- Two registrations that have both looked for an overlap; between their commits a
reservation takes the two units of the first slice. -/
def supplyRace : List Move :=
  [.register ⟨vanPool, 0, 1000, 2, false⟩, .register ⟨vanPool, 0, 1000, 1, false⟩,
   .next 0, .next 1, .commit 0,
   .create (unitsRequest 1 "a" 2 100 200), .next 2, .next 2, .next 2, .next 2, .next 2, .next 2,
   .commit 2, .commit 1]

theorem supply_overlaps :
    let t := supplyRace.foldl (after operatorContext fun _ => "") ⟨{}, []⟩
    ¬ t.tables.SuppliesApart ∧ ¬ t.tables.WithinSupply := by
  constructor
  · intro apart
    have hmeet := apart 0 1 ⟨vanPool, 0, 1000, 2, false⟩ ⟨vanPool, 0, 1000, 1, false⟩
      (by decide +kernel) (by decide +kernel) (by decide) rfl rfl rfl
    simp [overlaps] at hmeet
  · intro within
    have hunits := within ⟨vanPool, 0, 1000, 1, false⟩ (by decide +kernel) rfl 150 (by decide)
    exact absurd hunits (by decide +kernel)

end ReservationDesk

end Afcon360.Transport
