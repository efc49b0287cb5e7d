import Afcon360.Transport.ReservationLocks

/-!
# What the calls do to headers and lines

The terms of a reservation are fixed at its creation; a call changes its state, its
obligation and what has been received. Cancellations, expiries and callbacks shrink the
tables: the terms and the slices stay, and a line stays as it is or becomes cancelled. Only
the creation of a reservation adds lines, and they belong to the new header.
-/

namespace Afcon360.Transport

open Foundation

/-- The part of a header that no call changes. -/
def TransportReservation.terms (row : TransportReservation) : TransportReservation :=
  { row with
    state := .draft
    obligationState := .unpaid
    amountReceived := 0
    walletTransactionReference := none }

namespace TransportReservation

variable {row row' : TransportReservation}

theorem pool_of_terms (h : row'.terms = row.terms) : row'.pool = row.pool :=
  (congrArg pool h : row'.terms.pool = row.terms.pool)

theorem isDeleted_of_terms (h : row'.terms = row.terms) : row'.isDeleted = row.isDeleted :=
  (congrArg isDeleted h : row'.terms.isDeleted = row.terms.isDeleted)

theorem windowStart_of_terms (h : row'.terms = row.terms) : row'.windowStart = row.windowStart :=
  (congrArg windowStart h : row'.terms.windowStart = row.terms.windowStart)

theorem windowEnd_of_terms (h : row'.terms = row.terms) : row'.windowEnd = row.windowEnd :=
  (congrArg windowEnd h : row'.terms.windowEnd = row.terms.windowEnd)

/-- A callback that commits leaves the terms of the row. -/
theorem record_terms {taken : Bool} {change : ObligationChange}
    (h : row.record taken change = .ok row') : row'.terms = row.terms := by
  unfold record at h
  split at h
  · cases h
  · split at h <;> cases h <;> rfl

end TransportReservation

/-- The line as it is or cancelled. -/
def KeptLine (old new : TransportReservationLine) : Prop :=
  new = old ∨ new = { old with state := .cancelled }

/-- The terms and the slices stay, and lines are kept or cancelled. -/
structure Shrinks (old new : ReservationTables) : Prop where
  supplies : new.supplies = old.supplies
  terms : ∀ i : ℕ, (new.reservations[i]?).map TransportReservation.terms =
    (old.reservations[i]?).map TransportReservation.terms
  lines : ∃ f : TransportReservationLine → TransportReservationLine,
    new.lines = old.lines.map f ∧ ∀ line, KeptLine line (f line)

namespace Shrinks

variable {old middle new tables : ReservationTables} {row row' : TransportReservation} {i : ℕ}

theorem refl (tables : ReservationTables) : Shrinks tables tables :=
  ⟨rfl, fun _ => rfl, id, by simp, fun _ => .inl rfl⟩

theorem trans (first : Shrinks old middle) (second : Shrinks middle new) : Shrinks old new where
  supplies := second.supplies.trans first.supplies
  terms := fun i => (second.terms i).trans (first.terms i)
  lines := by
    obtain ⟨f, hf, kept⟩ := first.lines
    obtain ⟨g, hg, kept'⟩ := second.lines
    refine ⟨g ∘ f, by rw [hg, hf, List.map_map], ?_⟩
    intro line
    have hfirst := kept line
    have hsecond := kept' (f line)
    simp only [KeptLine, Function.comp_apply] at *
    obtain hline | hline := hfirst
    · rw [hline] at hsecond ⊢
      exact hsecond
    · rw [hline] at hsecond ⊢
      rcases hsecond with hline' | hline' <;> exact .inr hline'

theorem release (tables : ReservationTables) (target : ReservationState) (reservationId : ℕ) :
    Shrinks tables (tables.release target reservationId) where
  supplies := rfl
  terms := by
    intro i
    simp only [ReservationTables.release, List.getElem?_modify]
    cases tables.reservations[i]? with
    | none => simp
    | some row =>
      by_cases hi : reservationId = i <;> simp [hi, TransportReservation.terms]
  lines := by
    refine ⟨_, rfl, ?_⟩
    intro line
    by_cases hline : line.reservationId = reservationId ∧ line.state.active = true
    · rw [if_pos hline]
      exact .inr rfl
    · rw [if_neg hline]
      exact .inl rfl

theorem foldl_release (tables : ReservationTables) (target : ReservationState) (ids : List ℕ) :
    Shrinks tables (ids.foldl (fun tables id => tables.release target id) tables) := by
  induction ids generalizing tables with
  | nil => exact refl tables
  | cons id rest ih => exact (release tables target id).trans (ih _)

theorem putReservation (hrow : tables.reservations[i]? = some row)
    (hterms : row'.terms = row.terms) : Shrinks tables (tables.putReservation i row') where
  supplies := rfl
  terms := by
    intro j
    simp only [ReservationTables.putReservation]
    by_cases hij : i = j
    · subst hij
      rw [List.getElem?_set_self (List.getElem?_eq_some_iff.mp hrow).1, hrow]
      simp [hterms]
    · rw [List.getElem?_set_ne hij]
  lines := ⟨id, by simp [ReservationTables.putReservation], fun _ => .inl rfl⟩

theorem row_of (shrinks : Shrinks old new) (h : new.reservations[i]? = some row') :
    ∃ row, old.reservations[i]? = some row ∧ row'.terms = row.terms := by
  have hterms := shrinks.terms i
  rw [h, Option.map_some] at hterms
  obtain ⟨row, hrow, hsame⟩ := Option.map_eq_some_iff.mp hterms.symm
  exact ⟨row, hrow, hsame.symm⟩

theorem length (shrinks : Shrinks old new) : new.reservations.length = old.reservations.length := by
  have hterms : new.reservations.map TransportReservation.terms =
      old.reservations.map TransportReservation.terms := by
    apply List.ext_getElem?
    intro i
    rw [List.getElem?_map, List.getElem?_map, shrinks.terms i]
  simpa using congrArg List.length hterms

/-- A condition on the terms of the header. -/
theorem headerOf {line line' : TransportReservationLine} {cond : TransportReservation → Bool}
    (shrinks : Shrinks old new) (hcond : ∀ row row' : TransportReservation,
      row'.terms = row.terms → cond row' = cond row)
        (hid : line'.reservationId = line.reservationId) :
    new.headerOf line' cond = old.headerOf line cond := by
  have hterms := shrinks.terms line.reservationId
  unfold ReservationTables.headerOf
  rw [hid]
  cases hold : old.reservations[line.reservationId]? with
  | none =>
    rw [hold] at hterms
    simp [Option.map_eq_none_iff.mp hterms]
  | some row =>
    rw [hold] at hterms
    obtain ⟨row', hrow', hsame⟩ := Option.map_eq_some_iff.mp hterms
    simp [hrow', hcond row row' hsame, TransportReservation.isDeleted_of_terms hsame]

end Shrinks

namespace KeptLine

variable {old new : TransportReservationLine}

theorem reservationId (kept : KeptLine old new) : new.reservationId = old.reservationId := by
  rcases kept with rfl | rfl <;> rfl

theorem vehicleId (kept : KeptLine old new) : new.vehicleId = old.vehicleId := by
  rcases kept with rfl | rfl <;> rfl

theorem windowStart (kept : KeptLine old new) : new.windowStart = old.windowStart := by
  rcases kept with rfl | rfl <;> rfl

theorem windowEnd (kept : KeptLine old new) : new.windowEnd = old.windowEnd := by
  rcases kept with rfl | rfl <;> rfl

theorem active (kept : KeptLine old new)
    (h : (new.state.active && !new.isDeleted) = true) :
    (old.state.active && !old.isDeleted) = true := by
  obtain rfl | rfl := kept
  · exact h
  · cases h

end KeptLine

namespace Shrinks

variable {old new : ReservationTables} {line line' : TransportReservationLine}

theorem live (shrinks : Shrinks old new) (kept : KeptLine line line')
    (h : new.live line' = true) : old.live line = true := by
  unfold ReservationTables.live at h ⊢
  rw [Bool.and_eq_true] at h ⊢
  refine ⟨kept.active h.1, ?_⟩
  rw [← shrinks.headerOf (fun _ _ _ => rfl) kept.reservationId]
  exact h.2

theorem drawsOn (shrinks : Shrinks old new) (kept : KeptLine line line') {pool : Pool}
    (h : new.drawsOn pool line' = true) : old.drawsOn pool line = true := by
  unfold ReservationTables.drawsOn at h ⊢
  rw [Bool.and_eq_true] at h ⊢
  refine ⟨kept.active h.1, ?_⟩
  rw [← shrinks.headerOf ?_ kept.reservationId]
  · exact h.2
  · intro row row' hterms
    rw [TransportReservation.pool_of_terms hterms]

/-- No more lines of a pool meet a condition on their window. -/
theorem countP_le (shrinks : Shrinks old new) (pool : Pool) (cond : ℤ → ℤ → Bool) :
    new.lines.countP (fun line => new.drawsOn pool line && cond line.windowStart line.windowEnd) ≤
      old.lines.countP
        (fun line => old.drawsOn pool line && cond line.windowStart line.windowEnd) := by
  obtain ⟨f, hf, kept⟩ := shrinks.lines
  rw [hf, List.countP_map]
  refine List.countP_mono_left ?_
  intro line _ hline
  simp only [Function.comp_apply, Bool.and_eq_true] at hline ⊢
  rw [(kept line).windowStart, (kept line).windowEnd] at hline
  exact ⟨shrinks.drawsOn (kept line) hline.1, hline.2⟩

end Shrinks

/-! ## A new reservation -/

namespace ReservationTables

variable {tables : ReservationTables} {request : ReservationRequest} {row : TransportReservation}
variable {line : TransportReservationLine}

/-- Every line has a header. -/
def Linked (tables : ReservationTables) : Prop :=
  ∀ line ∈ tables.lines, line.reservationId < tables.reservations.length

theorem mem_materialiseLines {reservationId : ℕ}
    (h : line ∈ request.materialiseLines reservationId) :
    line.reservationId = reservationId ∧ line.windowStart = request.windowStart.instant ∧
      line.windowEnd = request.windowEnd.instant ∧ line.vehicleId ∈ request.lineVehicles := by
  unfold ReservationRequest.materialiseLines at h
  obtain ⟨vehicle, hvehicle, rfl⟩ := List.mem_map.mp h
  exact ⟨rfl, rfl, rfl, hvehicle⟩

theorem headerOf_insert_old (hline : line.reservationId < tables.reservations.length)
    (cond : TransportReservation → Bool) :
    (tables.insertReservation row request).headerOf line cond = tables.headerOf line cond := by
  unfold headerOf insertReservation
  rw [List.getElem?_append_left hline]

theorem headerOf_insert_new (hline : line.reservationId = tables.reservations.length)
    (cond : TransportReservation → Bool) :
    (tables.insertReservation row request).headerOf line cond = (!row.isDeleted && cond row) := by
  unfold headerOf insertReservation
  rw [hline, List.getElem?_concat_length]
  rfl

theorem live_insert_old (hline : line.reservationId < tables.reservations.length) :
    (tables.insertReservation row request).live line = tables.live line := by
  unfold live
  rw [headerOf_insert_old hline]

theorem drawsOn_insert_old (pool : Pool)
    (hline : line.reservationId < tables.reservations.length) :
    (tables.insertReservation row request).drawsOn pool line = tables.drawsOn pool line := by
  unfold drawsOn
  rw [headerOf_insert_old hline]

theorem Linked.insert (linked : tables.Linked) :
    (tables.insertReservation row request).Linked := by
  intro line hline
  simp only [insertReservation, List.mem_append, List.length_append,
    List.length_singleton] at hline ⊢
  obtain hold | hnew := hline
  · have := linked line hold
    omega
  · have := (mem_materialiseLines hnew).1
    omega

theorem Linked.shrink {new : ReservationTables} (linked : tables.Linked)
    (shrinks : Shrinks tables new) : new.Linked := by
  intro line hline
  obtain ⟨f, hf, kept⟩ := shrinks.lines
  rw [hf] at hline
  obtain ⟨old, hold, rfl⟩ := List.mem_map.mp hline
  rw [(kept old).reservationId, shrinks.length]
  exact linked old hold

end ReservationTables

/-! ## The three kinds of commits -/

namespace ReservationDesk

variable {s : ReservationDesk} {place : ℕ} {call call' : ReservationCall}
variable {tables : ReservationTables}

/-- A commit creates a reservation, adds a slice or shrinks the tables. -/
theorem commit_cases (h : s.commitCall place call = some (tables, call')) :
    (∃ request user offering rows row, call = .create request user offering (.inserted rows row) ∧
      tables = s.tables.insertReservation row request ∧
      call' = .create request user offering (.created s.tables.reservations.length)) ∨
    (∃ supply, call = .register supply .checked ∧
      tables = { s.tables with supplies := s.tables.supplies ++ [supply] } ∧
      call' = .register supply .returned) ∨
    (Shrinks s.tables tables ∧
      (∀ request user offering stage, call' ≠ .create request user offering stage) ∧
      ∀ supply stage, call' ≠ .register supply stage) := by
  cases commitCall_step h with
  | create request user offering rows row =>
    exact .inl ⟨request, user, offering, rows, row, rfl, rfl, rfl⟩
  | register supply => exact .inr (.inl ⟨supply, rfl, rfl, rfl⟩)
  | cancel reservationId actor vehicles =>
    exact .inr (.inr ⟨.release s.tables .cancelled reservationId, by simp, by simp⟩)
  | expire now limit vehicles expired =>
    exact .inr (.inr ⟨.foldl_release s.tables .expired expired, by simp, by simp⟩)
  | event reservationId event seen row result change hfree hrow hrecord =>
    exact .inr (.inr ⟨.putReservation hrow (TransportReservation.record_terms hrecord),
      by simp, by simp⟩)
  | eventFailed reservationId event seen change error =>
    exact .inr (.inr ⟨.refl s.tables, by simp, by simp⟩)

end ReservationDesk

end Afcon360.Transport
