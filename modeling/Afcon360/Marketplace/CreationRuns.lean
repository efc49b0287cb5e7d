import Afcon360.Marketplace.Creation

/-!
# Runs of `create_invoice`

Whatever the interleaving, an invoice is unique for its key and for its service
reference, an answer carries the terms that were asked for, and terms that differ
raise the conflict. A key is bound to the invoice it created and to no other: a call
that finds its invoice by the reference leaves its own key free.
-/

namespace Afcon360.Marketplace

open Foundation Wallet

namespace InvoiceTable

variable {table table' : InvoiceTable} {row other : InvoiceRow} {session writer : ℕ} {key : String}
  {terms : Terms}

theorem mem_visible :
    row ∈ table.visible session ↔
      row ∈ table.rows ∧ (row.writer = none ∨ row.writer = some session) := by
  simp [visible, InvoiceRow.visibleTo]

theorem eq_of_key (hrow : row ∈ table.rows) (hother : other ∈ table.rows)
    (h : row.idempotencyKey = other.idempotencyKey) : row = other :=
  List.inj_on_of_nodup_map table.uniqueKey hrow hother h

theorem eq_of_reference (hrow : row ∈ table.rows) (hother : other ∈ table.rows)
    (h : row.reference = other.reference) : row = other :=
  List.inj_on_of_nodup_map table.uniqueReference hrow hother h

theorem findKey_some (h : table.findKey session key = some row) :
    row ∈ table.visible session ∧ row.idempotencyKey = key :=
  ⟨List.mem_of_find?_eq_some h, by simpa using List.find?_some h⟩

theorem findKey_none (h : table.findKey session key = none) :
    ∀ row ∈ table.visible session, row.idempotencyKey ≠ key := by
  intro row hrow
  simpa using List.find?_eq_none.mp h row hrow

theorem findReference_some (h : table.findReference session terms = some row) :
    row ∈ table.visible session ∧ row.reference = terms.reference :=
  ⟨List.mem_of_find?_eq_some h, by simpa using List.find?_some h⟩

theorem findReference_none (h : table.findReference session terms = none) :
    ∀ row ∈ table.visible session, row.reference ≠ terms.reference := by
  intro row hrow
  simpa using List.find?_eq_none.mp h row hrow

theorem insert?_rows (h : table.insert? row = some table') : table'.rows = table.rows ++ [row] := by
  unfold insert? at h
  split at h
  · cases h
    rfl
  · cases h

theorem mem_rollback :
    row ∈ (table.rollback session).rows ↔ row ∈ table.rows ∧ row.writer ≠ some session := by
  simp [rollback]

theorem of_mem_commit (h : row ∈ (table.commit session).rows) :
    ∃ old ∈ table.rows, old.id = row.id ∧ old.terms = row.terms := by
  obtain ⟨old, hold, rfl⟩ := List.mem_map.mp h
  refine ⟨old, hold, ?_⟩
  split <;> exact ⟨rfl, rfl⟩

theorem mem_commit (h : row ∈ table.rows) (hwriter : row.writer ≠ some session) :
    row ∈ (table.commit session).rows :=
  List.mem_map.mpr ⟨row, h, if_neg hwriter⟩

theorem mem_commit_own (h : row ∈ table.rows) (hwriter : row.writer = some session) :
    { row with writer := none } ∈ (table.commit session).rows :=
  List.mem_map.mpr ⟨row, h, if_pos hwriter⟩

end InvoiceTable

namespace InvoiceDesk

variable {s t : InvoiceDesk} {session : ℕ} {call : CreationCall}

/-- Two calls that succeeded with one key returned one invoice. -/
def OneInvoicePerKey (s : InvoiceDesk) : Prop :=
  ∀ done ∈ s.log, ∀ done' ∈ s.log, ∀ id id', done.outcome = .ok id → done'.outcome = .ok id' →
    done.key = done'.key → id = id'

/-- What holds of the invoices and the answers. -/
structure Consistent (s : InvoiceDesk) : Prop where
  /-- At most one invoice has a key. -/
  keys : ∀ row ∈ s.table.rows, ∀ row' ∈ s.table.rows,
    row.idempotencyKey = row'.idempotencyKey → row = row'
  /-- At most one invoice has a service reference. -/
  references : ∀ row ∈ s.table.rows, ∀ row' ∈ s.table.rows, row.reference = row'.reference →
    row = row'
  /-- A call that succeeded returned an invoice with the terms it asked for. -/
  terms : ∀ done ∈ s.log, ∀ id, done.outcome = .ok id →
    ∃ row ∈ s.table.rows, row.id = id ∧ row.writer = none ∧ row.terms = done.terms
  /-- Two calls that succeeded with one key returned one invoice, unless they asked for
  different references and one of the invoices has another key: it was found by its
  reference. -/
  same : ∀ done ∈ s.log, ∀ done' ∈ s.log, ∀ id id', done.outcome = .ok id →
    done'.outcome = .ok id' → done.key = done'.key →
      id = id' ∨ (done.terms.reference ≠ done'.terms.reference ∧
        ∃ row ∈ s.table.rows, (row.id = id ∨ row.id = id') ∧ row.idempotencyKey ≠ done.key)
  /-- A call that found an invoice with its key or reference and other terms raised the
  conflict. -/
  conflict : ∀ done ∈ s.log,
    (∃ row ∈ done.stored, row.Meets done.key done.terms ∧ row.terms ≠ done.terms) →
      done.outcome = .error idempotencyConflict
  /-- A call that raised stored nothing. -/
  unchanged : ∀ done ∈ s.log, ∀ e, done.outcome = .error e → ∀ row ∈ s.table.rows,
    row.id ≠ done.number
  /-- A call whose insert was in conflict found the invoice in its way. -/
  resolved : ∀ done ∈ s.log, done.outcome ≠ .error conflictUnresolved

/-- A stored invoice stands in the way of the call. -/
def Clashes (stored : List InvoiceRow) (key : String) (terms : Terms) : Prop :=
  ∃ row ∈ stored, row.Meets key terms ∧ row.terms ≠ terms

/-- The answer to a call is right, with the invoice it names held by a writer allowed to
it. -/
structure Right (rows : List InvoiceRow) (writers : Option ℕ → Prop) (done : Creation) : Prop where
  terms : ∀ id, done.outcome = .ok id →
    ∃ row ∈ rows, row.id = id ∧ writers row.writer ∧ row.terms = done.terms
  conflict : Clashes done.stored done.key done.terms → done.outcome = .error idempotencyConflict
  unchanged : ∀ e, done.outcome = .error e → ∀ row ∈ rows, row.id ≠ done.number
  resolved : done.outcome ≠ .error conflictUnresolved

/-- What the lookups so far have excluded. -/
def Excluded (stored : List InvoiceRow) (key : String) (terms : Terms) : CreationPhase → Prop
  | .findKey => True
  | .findReference => ∀ row ∈ stored, row.idempotencyKey ≠ key
  | _ => ∀ row ∈ stored, ¬ row.Meets key terms

/-- What a conflicting insert has shown. -/
def Blocked (visible : List InvoiceRow) (key : String) (terms : Terms) : CreationPhase → Prop
  | .resolveKey => ∃ row ∈ visible, row.Meets key terms
  | .resolveReference => ∃ row ∈ visible, row.reference = terms.reference
  | _ => True

theorem Blocked.mono {visible visible' : List InvoiceRow} {key : String} {terms : Terms}
    {phase : CreationPhase} (h : Blocked visible key terms phase)
    (hsees : ∀ row ∈ visible, row ∈ visible') : Blocked visible' key terms phase := by
  cases phase <;> first
    | trivial
    | obtain ⟨row, hrow, hmeets⟩ := h
      exact ⟨row, hsees row hrow, hmeets⟩

/-- A call in progress: its number is its own, its session still sees what it saw at
the beginning, and the lookups so far found nothing there. -/
structure Running (s : InvoiceDesk) (session : ℕ) (call : CreationCall) : Prop where
  fresh : call.number < s.next
  unused : ∀ row ∈ s.table.rows, row.id ≠ call.number
  unlogged : ∀ done ∈ s.log, done.number ≠ call.number
  normal : call.terms.Normal
  stored : ∀ row ∈ call.stored, row ∈ s.table.visible session
  excluded : Excluded call.stored call.key call.terms call.phase
  blocked : Blocked (s.table.visible session) call.key call.terms call.phase

structure Inv (s : InvoiceDesk) : Prop where
  normal : ∀ row ∈ s.table.rows, row.terms.Normal
  ids : ∀ row ∈ s.table.rows, row.id < s.next
  numbers : ∀ done ∈ s.log, done.number < s.next
  running : ∀ session call, s.calls session = some call → Running s session call
  distinct : ∀ session session' call call', s.calls session = some call →
    s.calls session' = some call' → call.number = call'.number → session = session'
  provisional : ∀ entry ∈ s.provisional, (∃ id, entry.2.outcome = .ok id) ∧
    entry.2.number < s.next ∧
    (∀ session call, s.calls session = some call → entry.2.number ≠ call.number) ∧
    Right s.table.rows (fun writer => writer = none ∨ writer = some entry.1) entry.2
  log : ∀ done ∈ s.log, Right s.table.rows (fun writer => writer = none) done

theorem of_update_none {calls : ℕ → Option CreationCall} {session' : ℕ}
    (h : Function.update calls session none session' = some call) :
    session' ≠ session ∧ calls session' = some call := by
  rw [Function.update_apply] at h
  split at h
  · cases h
  · rename_i hne
    exact ⟨hne, h⟩

theorem of_update_some {calls : ℕ → Option CreationCall} {session' : ℕ} {new : CreationCall}
    (h : Function.update calls session (some new) session' = some call) :
    (session' = session ∧ call = new) ∨ (session' ≠ session ∧ calls session' = some call) := by
  rw [Function.update_apply] at h
  split at h
  · rename_i heq
    exact .inl ⟨heq, (Option.some.inj h).symm⟩
  · rename_i hne
    exact .inr ⟨hne, h⟩

section Primitives

theorem Inv.drop (inv : Inv s) (session : ℕ) :
    Inv { s with calls := Function.update s.calls session none } where
  normal := inv.normal
  ids := inv.ids
  numbers := inv.numbers
  running := by
    intro session' other h
    obtain ⟨-, h⟩ := of_update_none h
    exact { inv.running session' other h with }
  distinct := by
    intro session' session'' other other' h h'
    exact inv.distinct _ _ _ _ (of_update_none h).2 (of_update_none h').2
  provisional := by
    intro entry hentry
    obtain ⟨hok, hnumber, hapart, hright⟩ := inv.provisional entry hentry
    exact ⟨hok, hnumber, fun session' other h => hapart session' other (of_update_none h).2, hright⟩
  log := inv.log

/-- The call of a session goes on. -/
theorem Inv.goOn (inv : Inv s) (hcall : s.calls session = some call) {phase : CreationPhase}
    (hexcluded : Excluded call.stored call.key call.terms phase)
    (hblocked : Blocked (s.table.visible session) call.key call.terms phase) :
    Inv (s.goOn session call phase) where
  normal := inv.normal
  ids := inv.ids
  numbers := inv.numbers
  running := by
    intro session' other h
    obtain ⟨rfl, rfl⟩ | ⟨-, h⟩ := of_update_some h
    · exact { inv.running session' call hcall with excluded := hexcluded, blocked := hblocked }
    · exact { inv.running session' other h with }
  distinct := by
    intro session' session'' other other' h h' hnumber
    rcases of_update_some h with ⟨rfl, rfl⟩ | ⟨-, hold⟩ <;>
      obtain ⟨rfl, rfl⟩ | ⟨-, hold'⟩ := of_update_some h'
    · rfl
    · exact inv.distinct _ _ _ _ hcall hold' hnumber
    · exact inv.distinct _ _ _ _ hold hcall hnumber
    · exact inv.distinct _ _ _ _ hold hold' hnumber
  provisional := by
    intro entry hentry
    obtain ⟨hok, hnumber, hapart, hright⟩ := inv.provisional entry hentry
    refine ⟨hok, hnumber, ?_, hright⟩
    intro session' other h
    obtain ⟨rfl, rfl⟩ | ⟨-, h⟩ := of_update_some h
    · exact hapart session' call hcall
    · exact hapart session' other h
  log := inv.log

theorem Inv.record (inv : Inv s) {done : Creation} (hnumber : done.number < s.next)
    (hapart : ∀ session call, s.calls session = some call → done.number ≠ call.number)
    (hright : Right s.table.rows (fun writer => writer = none) done) :
    Inv { s with log := s.log ++ [done] } where
  normal := inv.normal
  ids := inv.ids
  numbers := by
    intro other hother
    obtain hother | hother := List.mem_append.mp hother
    · exact inv.numbers other hother
    · rw [List.mem_singleton.mp hother]
      exact hnumber
  running := by
    intro session call h
    refine { inv.running session call h with unlogged := ?_ }
    intro other hother
    obtain hother | hother := List.mem_append.mp hother
    · exact (inv.running session call h).unlogged other hother
    · rw [List.mem_singleton.mp hother]
      exact hapart session call h
  distinct := inv.distinct
  provisional := inv.provisional
  log := by
    intro other hother
    obtain hother | hother := List.mem_append.mp hother
    · exact inv.log other hother
    · rw [List.mem_singleton.mp hother]
      exact hright

/-- An answer in an open transaction. -/
theorem Inv.recordProvisional (inv : Inv s) {entry : ℕ × Creation} {id : ℕ}
    (hok : entry.2.outcome = .ok id) (hnumber : entry.2.number < s.next)
    (hapart : ∀ session call, s.calls session = some call → entry.2.number ≠ call.number)
    (hright : Right s.table.rows (fun writer => writer = none ∨ writer = some entry.1) entry.2) :
    Inv { s with provisional := s.provisional ++ [entry] } := by
  refine { inv with
    running := fun session call h => { inv.running session call h with }
    provisional := ?_ }
  intro other hother
  obtain hother | hother := List.mem_append.mp hother
  · exact inv.provisional other hother
  · rw [List.mem_singleton.mp hother]
    exact ⟨⟨id, hok⟩, hnumber, hapart, hright⟩

/-- A row whose number no answer and no call in progress has. -/
theorem Inv.append (inv : Inv s) {row : InvoiceRow} {table : InvoiceTable}
    (hrows : table.rows = s.table.rows ++ [row]) (hnormal : row.terms.Normal)
    (hid : row.id < s.next)
    (hapart : ∀ session call, s.calls session = some call → row.id ≠ call.number)
    (hunlogged : ∀ done ∈ s.log, done.number ≠ row.id) :
    Inv { s with table } := by
  have hmem : ∀ other ∈ table.rows, other ∈ s.table.rows ∨ other = row := by
    intro other hother
    rw [hrows] at hother
    obtain hother | hother := List.mem_append.mp hother
    · exact .inl hother
    · exact .inr (List.mem_singleton.mp hother)
  have hkept : ∀ other ∈ s.table.rows, other ∈ table.rows := by
    intro other hother
    rw [hrows]
    exact List.mem_append_left _ hother
  refine ⟨?_, ?_, inv.numbers, ?_, inv.distinct, ?_, ?_⟩
  · intro other hother
    obtain hother | rfl := hmem other hother
    · exact inv.normal other hother
    · exact hnormal
  · intro other hother
    obtain hother | rfl := hmem other hother
    · exact inv.ids other hother
    · exact hid
  · intro session call h
    have hrunning := inv.running session call h
    have hsees : ∀ other ∈ s.table.visible session, other ∈ table.visible session := by
      intro other hother
      obtain ⟨hother, hvisible⟩ := InvoiceTable.mem_visible.mp hother
      exact InvoiceTable.mem_visible.mpr ⟨hkept other hother, hvisible⟩
    refine { hrunning with
      unused := ?_
      stored := fun other hother => hsees other (hrunning.stored other hother)
      blocked := hrunning.blocked.mono hsees }
    intro other hother
    obtain hother | rfl := hmem other hother
    · exact hrunning.unused other hother
    · exact hapart session call h
  · intro entry hentry
    obtain ⟨⟨id, hok⟩, hnumber, hentryapart, hright⟩ := inv.provisional entry hentry
    refine ⟨⟨id, hok⟩, hnumber, hentryapart, ?_, hright.conflict, ?_, hright.resolved⟩
    · intro id hid
      obtain ⟨other, hother, hrest⟩ := hright.terms id hid
      exact ⟨other, hkept other hother, hrest⟩
    · intro e he
      rw [hok] at he
      cases he
  · intro done hdone
    have hright := inv.log done hdone
    refine ⟨?_, hright.conflict, ?_, hright.resolved⟩
    · intro id hid
      obtain ⟨other, hother, hrest⟩ := hright.terms id hid
      exact ⟨other, hkept other hother, hrest⟩
    · intro e he other hother
      obtain hother | rfl := hmem other hother
      · exact hright.unchanged e he other hother
      · exact (hunlogged done hdone).symm

end Primitives

section Calls

/-- After the call of a session has ended, no other call has its number. -/
theorem Inv.apart (inv : Inv s) (hcall : s.calls session = some call) :
    ∀ session' other, Function.update s.calls session none session' = some other →
      call.number ≠ other.number := by
  intro session' other h hnumber
  obtain ⟨hne, h⟩ := of_update_none h
  exact hne (inv.distinct _ _ _ _ hcall h hnumber).symm

/-- A call may raise what it likes if no stored invoice clashes with it, and the conflict
in any case. -/
theorem Inv.raise (inv : Inv s) (hcall : s.calls session = some call) {e : InvoiceError}
    (h : Clashes call.stored call.key call.terms → e = idempotencyConflict)
    (hresolved : e ≠ conflictUnresolved) : Inv (s.raise session call e) := by
  have hrunning := inv.running session call hcall
  refine (inv.drop session).record hrunning.fresh (inv.apart hcall) ⟨?_, ?_, ?_, ?_⟩
  · intro id hid
    cases hid
  · intro hclash
    exact congrArg Except.error (h hclash)
  · intro _ _ row hrow
    exact hrunning.unused row hrow
  · intro he
    exact hresolved (Except.error.inj he)

/-- A call may return an invoice it sees with the terms it asks for, if no stored
invoice clashes with it. -/
theorem Inv.answer (inv : Inv s) (hcall : s.calls session = some call) {row : InvoiceRow}
    (hrow : row ∈ s.table.visible session) (hterms : row.terms = call.terms)
    (hclear : ¬ Clashes call.stored call.key call.terms) : Inv (s.answer session call row) := by
  have hrunning := inv.running session call hcall
  obtain ⟨hmem, hwriter⟩ := InvoiceTable.mem_visible.mp hrow
  have hright : ∀ writers : Option ℕ → Prop, writers row.writer →
      Right s.table.rows writers (call.ends (.ok row.id)) := by
    intro writers hallowed
    refine ⟨?_, fun hclash => absurd hclash hclear, ?_, nofun⟩
    · intro id hid
      exact ⟨row, hmem, Except.ok.inj hid, hallowed, hterms⟩
    · intro e he
      cases he
  unfold InvoiceDesk.answer
  split
  · rename_i hnone
    exact (inv.drop session).record hrunning.fresh (inv.apart hcall) (hright _ hnone)
  · exact (inv.drop session).recordProvisional rfl hrunning.fresh (inv.apart hcall)
      (hright _ hwriter)

theorem Inv.compare (inv : Inv s) (hcall : s.calls session = some call) {row : InvoiceRow}
    (hrow : row ∈ s.table.visible session)
    (hfound : row.terms = call.terms → ¬ Clashes call.stored call.key call.terms) :
    Inv (s.compare session call row) := by
  have hnormal := inv.normal row (InvoiceTable.mem_visible.mp hrow).1
  unfold InvoiceDesk.compare
  split
  · rename_i hmatch
    have hterms := hnormal.match_iff.mp hmatch
    exact inv.answer hcall hrow hterms (hfound hterms)
  · exact inv.raise hcall (fun _ => rfl) (by decide)

/-- An invoice with the reference and the terms of the call leaves no other that clashes, if it
has the key or none has. -/
theorem Inv.clear (inv : Inv s) (hcall : s.calls session = some call) {row : InvoiceRow}
    (hrow : row ∈ s.table.visible session) (hterms : row.terms = call.terms)
    (hkey : row.idempotencyKey = call.key ∨
      ∀ other ∈ call.stored, other.idempotencyKey ≠ call.key) :
    ¬ Clashes call.stored call.key call.terms := by
  rintro ⟨other, hother, hmeets, hdiffers⟩
  have hmem := (InvoiceTable.mem_visible.mp hrow).1
  have hothermem := (InvoiceTable.mem_visible.mp
    ((inv.running session call hcall).stored other hother)).1
  have hsame : other = row := by
    obtain hmeets | hmeets := hmeets
    · obtain hkey | hnokey := hkey
      · exact InvoiceTable.eq_of_key hothermem hmem (hmeets.trans hkey.symm)
      · exact absurd hmeets (hnokey other hother)
    · exact InvoiceTable.eq_of_reference hothermem hmem
        (hmeets.trans (congrArg Terms.reference hterms).symm)
  exact hdiffers (hsame ▸ hterms)

theorem not_clashes {stored : List InvoiceRow} {key : String} {terms : Terms}
    (h : ∀ row ∈ stored, ¬ row.Meets key terms) : ¬ Clashes stored key terms := by
  rintro ⟨row, hrow, hmeets, -⟩
  exact h row hrow hmeets

end Calls

section Transactions

theorem Inv.rollback (inv : Inv s) (session : ℕ) : Inv (s.rollback session) := by
  have hrows : ∀ row ∈ (s.table.rollback session).rows, row ∈ s.table.rows :=
    fun row hrow => (InvoiceTable.mem_rollback.mp hrow).1
  have hkept : ∀ row ∈ s.table.rows, row.writer ≠ some session →
      row ∈ (s.table.rollback session).rows :=
    fun row hrow hwriter => InvoiceTable.mem_rollback.mpr ⟨hrow, hwriter⟩
  refine ⟨fun row hrow => inv.normal row (hrows row hrow), fun row hrow =>
    inv.ids row (hrows row hrow),
    inv.numbers, ?_, (inv.drop session).distinct, ?_, ?_⟩
  · intro session' other h
    obtain ⟨hne, h⟩ := of_update_none h
    have hrunning := inv.running session' other h
    have hsees : ∀ row ∈ s.table.visible session', row ∈ (s.table.rollback session).visible
      session' := by
      intro row hrow
      obtain ⟨hmem, hvisible⟩ := InvoiceTable.mem_visible.mp hrow
      refine InvoiceTable.mem_visible.mpr ⟨hkept row hmem ?_, hvisible⟩
      rcases hvisible with hvisible | hvisible <;> rw [hvisible]
      · exact Option.some_ne_none session |>.symm
      · intro hsame
        exact hne (Option.some.inj hsame)
    exact { hrunning with
      unused := fun row hrow => hrunning.unused row (hrows row hrow)
      stored := fun row hrow => hsees row (hrunning.stored row hrow)
      blocked := hrunning.blocked.mono hsees }
  · intro entry hentry
    obtain ⟨hentry, hne⟩ := List.mem_filter.mp hentry
    have hne : entry.1 ≠ session := by simpa using hne
    obtain ⟨hok, hnumber, hapart, hright⟩ := inv.provisional entry hentry
    refine ⟨hok, hnumber, fun session' other h => hapart session' other (of_update_none h).2,
      ?_, hright.conflict, fun e he row hrow => hright.unchanged e he row (hrows row hrow),
      hright.resolved⟩
    intro id hid
    obtain ⟨row, hmem, hrowid, hwriter, hterms⟩ := hright.terms id hid
    refine ⟨row, hkept row hmem ?_, hrowid, hwriter, hterms⟩
    rcases hwriter with hwriter | hwriter <;> rw [hwriter]
    · exact Option.some_ne_none session |>.symm
    · intro hsame
      exact hne (Option.some.inj hsame)
  · intro done hdone
    have hright := inv.log done hdone
    refine ⟨?_, hright.conflict, fun e he row hrow => hright.unchanged e he row (hrows row hrow),
      hright.resolved⟩
    intro id hid
    obtain ⟨row, hmem, hrowid, hwriter, hterms⟩ := hright.terms id hid
    refine ⟨row, hkept row hmem ?_, hrowid, hwriter, hterms⟩
    rw [hwriter]
    exact Option.some_ne_none session |>.symm

theorem Right.commit {writers writers' : Option ℕ → Prop} {done : Creation}
    (h : Right s.table.rows writers done)
    (hrow : ∀ row ∈ s.table.rows, writers row.writer →
      ∃ new ∈ (s.table.commit session).rows, new.id = row.id ∧ writers' new.writer ∧
        new.terms = row.terms) :
    Right (s.table.commit session).rows writers' done where
  terms := by
    intro id hid
    obtain ⟨row, hmem, rfl, hwriter, hterms⟩ := h.terms id hid
    obtain ⟨new, hnew, hnewid, hnewwriter, hnewterms⟩ := hrow row hmem hwriter
    exact ⟨new, hnew, hnewid, hnewwriter, hnewterms.trans hterms⟩
  conflict := h.conflict
  unchanged := by
    intro e he row hmem
    obtain ⟨old, hold, hid, -⟩ := InvoiceTable.of_mem_commit hmem
    rw [← hid]
    exact h.unchanged e he old hold
  resolved := h.resolved

theorem Inv.commit (inv : Inv s) (session : ℕ) : Inv (s.commit session) := by
  unfold InvoiceDesk.commit
  split
  · exact inv
  · rename_i hidle
    have hother : ∀ {session' call}, s.calls session' = some call → session' ≠ session := by
      rintro session' call h rfl
      rw [hidle] at h
      cases h
    have hlogged : ∀ done ∈ s.log ++ (s.provisional.filter (fun entry => entry.1 = session)).map
        Prod.snd, done ∈ s.log ∨ ∃ entry ∈ s.provisional, entry.1 = session ∧ entry.2 = done := by
      intro done hdone
      obtain hdone | hdone := List.mem_append.mp hdone
      · exact .inl hdone
      · obtain ⟨entry, hentry, rfl⟩ := List.mem_map.mp hdone
        obtain ⟨hentry, hsession⟩ := List.mem_filter.mp hentry
        exact .inr ⟨entry, hentry, by simpa using hsession, rfl⟩
    have hfixed : ∀ {row : InvoiceRow} {session' : ℕ}, session' ≠ session → row ∈ s.table.rows →
        (row.writer = none ∨ row.writer = some session') → row ∈ (s.table.commit session).rows := by
      intro row session' hne hmem hwriter
      refine InvoiceTable.mem_commit hmem ?_
      rcases hwriter with hwriter | hwriter <;> rw [hwriter]
      · exact (Option.some_ne_none session).symm
      · intro hsame
        exact hne (Option.some.inj hsame)
    have hstands : ∀ row ∈ s.table.rows, row.writer = none ∨ row.writer = some session →
        ∃ new ∈ (s.table.commit session).rows, new.id = row.id ∧ new.writer = none ∧
          new.terms = row.terms := by
      intro row hmem hwriter
      obtain hwriter | hwriter := hwriter
      · refine ⟨row, InvoiceTable.mem_commit hmem ?_, rfl, hwriter, rfl⟩
        rw [hwriter]
        exact (Option.some_ne_none session).symm
      · exact ⟨_, InvoiceTable.mem_commit_own hmem hwriter, rfl, rfl, rfl⟩
    refine ⟨?_, ?_, ?_, ?_, inv.distinct, ?_, ?_⟩
    · intro row hrow
      obtain ⟨old, hold, -, hterms⟩ := InvoiceTable.of_mem_commit hrow
      rw [← hterms]
      exact inv.normal old hold
    · intro row hrow
      obtain ⟨old, hold, hid, -⟩ := InvoiceTable.of_mem_commit hrow
      rw [← hid]
      exact inv.ids old hold
    · intro done hdone
      obtain hdone | ⟨entry, hentry, -, rfl⟩ := hlogged done hdone
      · exact inv.numbers done hdone
      · exact (inv.provisional entry hentry).2.1
    · intro session' call h
      have hrunning := inv.running session' call h
      have hsees : ∀ row ∈ s.table.visible session',
          row ∈ (s.table.commit session).visible session' := by
        intro row hrow
        obtain ⟨hmem, hvisible⟩ := InvoiceTable.mem_visible.mp hrow
        exact InvoiceTable.mem_visible.mpr ⟨hfixed (hother h) hmem hvisible, hvisible⟩
      refine { hrunning with
        unused := ?_
        unlogged := ?_
        stored := fun row hrow => hsees row (hrunning.stored row hrow)
        blocked := hrunning.blocked.mono hsees }
      · intro row hrow
        obtain ⟨old, hold, hid, -⟩ := InvoiceTable.of_mem_commit hrow
        rw [← hid]
        exact hrunning.unused old hold
      · intro done hdone
        obtain hdone | ⟨entry, hentry, -, rfl⟩ := hlogged done hdone
        · exact hrunning.unlogged done hdone
        · exact (inv.provisional entry hentry).2.2.1 session' call h
    · intro entry hentry
      obtain ⟨hentry, hne⟩ := List.mem_filter.mp hentry
      have hne : entry.1 ≠ session := by simpa using hne
      obtain ⟨hok, hnumber, hapart, hright⟩ := inv.provisional entry hentry
      refine ⟨hok, hnumber, hapart, hright.commit ?_⟩
      intro row hmem hwriter
      exact ⟨row, hfixed hne hmem hwriter, rfl, hwriter, rfl⟩
    · intro done hdone
      obtain hdone | ⟨entry, hentry, rfl, rfl⟩ := hlogged done hdone
      · exact (inv.log done hdone).commit (fun row hmem hwriter => hstands row hmem (.inl hwriter))
      · exact (inv.provisional entry hentry).2.2.2.commit hstands

end Transactions

section Steps

theorem Inv.insertRow (inv : Inv s) (hcall : s.calls session = some call) (market : Market)
    (hexcluded : ∀ row ∈ call.stored, ¬ row.Meets call.key call.terms) :
    Inv (s.insertRow session call market) := by
  have hrunning := inv.running session call hcall
  have hclear := not_clashes hexcluded
  unfold InvoiceDesk.insertRow
  split
  · -- The transaction is over; the call raises in what is left of it.
    have hrolled := inv.rollback session
    refine (hrolled.drop session).record hrunning.fresh ?_ ⟨?_, ?_, ?_, nofun⟩
    · intro session' other h
      exact inv.apart hcall session' other (of_update_none h).2
    · intro id hid
      cases hid
    · intro hclash
      exact absurd hclash hclear
    · intro _ _ row hrow
      exact hrunning.unused row (InvoiceTable.mem_rollback.mp hrow).1
  · split
    · rename_i hany
      obtain ⟨row, hrow, hmeets⟩ := List.any_eq_true.mp hany
      exact inv.goOn hcall hexcluded ⟨row, hrow, of_decide_eq_true hmeets⟩
    · dsimp only
      split
      · exact inv
      · rename_i table hinsert
        have hrows := InvoiceTable.insert?_rows hinsert
        have hinserted : Inv { s with table, calls := Function.update s.calls session none } :=
          (inv.drop session).append hrows hrunning.normal hrunning.fresh (inv.apart hcall)
            hrunning.unlogged
        unfold InvoiceDesk.answer
        rw [if_neg (Option.some_ne_none session)]
        refine hinserted.recordProvisional rfl hrunning.fresh (inv.apart hcall)
          ⟨?_, ?_, ?_, nofun⟩
        · intro id hid
          refine ⟨⟨call.number, call.key, call.terms, some session⟩, ?_, Except.ok.inj hid,
            .inr rfl, rfl⟩
          show _ ∈ table.rows
          rw [hrows]
          exact List.mem_append_right _ List.mem_cons_self
        · intro hclash
          exact absurd hclash hclear
        · intro e he
          cases he

/-- The checks do not raise what only a conflicting insert may. -/
theorem checkTerms_error {market : Market} {terms : Terms} {e : InvoiceError}
    (h : checkTerms market terms = .error e) : e ≠ conflictUnresolved := by
  rintro rfl
  obtain h | ⟨-, -, h⟩ := bind_eq_error.mp h
  · unfold checkMethod at h
    split at h
    · cases h
    · simp [bind_eq_error, conflictUnresolved] at h
  · split at h
    · simp [bind_eq_error, conflictUnresolved] at h
    · cases h

theorem Inv.advance (inv : Inv s) (session : ℕ) (market : Market) :
    Inv (s.advance session market) := by
  unfold InvoiceDesk.advance
  split
  · exact inv
  · rename_i call hcall
    have hrunning := inv.running session call hcall
    have hstored := hrunning.stored
    have hexcluded := hrunning.excluded
    have hblocked := hrunning.blocked
    split <;> rename_i hphase <;> rw [hphase] at hexcluded hblocked
    · split
      · rename_i row hfind
        obtain ⟨hrow, hkey⟩ := InvoiceTable.findKey_some hfind
        exact inv.compare hcall hrow (inv.clear hcall hrow · (.inl hkey))
      · rename_i hfind
        exact inv.goOn hcall
          (fun row hrow => InvoiceTable.findKey_none hfind row (hstored row hrow)) trivial
    · split
      · rename_i row hfind
        exact inv.compare hcall (InvoiceTable.findReference_some hfind).1
          (inv.clear hcall (InvoiceTable.findReference_some hfind).1 · (.inr hexcluded))
      · rename_i hfind
        refine inv.goOn hcall ?_ trivial
        intro row hrow hmeets
        obtain hmeets | hmeets := hmeets
        · exact hexcluded row hrow hmeets
        · exact InvoiceTable.findReference_none hfind row (hstored row hrow) hmeets
    · split
      · rename_i e hcheck
        exact inv.raise hcall (fun hclash => absurd hclash (not_clashes hexcluded))
          (checkTerms_error hcheck)
      · exact inv.goOn hcall hexcluded trivial
    · exact inv.insertRow hcall market hexcluded
    · split
      · rename_i row hfind
        exact inv.compare hcall (InvoiceTable.findKey_some hfind).1 (fun _ => not_clashes hexcluded)
      · rename_i hfind
        obtain ⟨row, hrow, hmeets⟩ := hblocked
        refine inv.goOn hcall hexcluded ⟨row, hrow, ?_⟩
        exact hmeets.resolve_left (InvoiceTable.findKey_none hfind row hrow)
    · split
      · rename_i row hfind
        exact inv.compare hcall (InvoiceTable.findReference_some hfind).1
          (fun _ => not_clashes hexcluded)
      · rename_i hfind
        obtain ⟨row, hrow, hreference⟩ := hblocked
        exact absurd hreference (InvoiceTable.findReference_none hfind row hrow)

theorem Inv.start (inv : Inv s) (session : ℕ) (request : CreationRequest) :
    Inv (s.start session request) := by
  unfold InvoiceDesk.start
  split
  · rename_i key terms hidle hnormalize
    have hnormal := CreationRequest.normalize_normal hnormalize
    have hold : ∀ {session' call}, s.calls session' = some call → call.number < s.next :=
      fun h => (inv.running _ _ h).fresh
    refine ⟨inv.normal, fun row hrow => Nat.lt_succ_of_lt (inv.ids row hrow),
      fun done hdone => Nat.lt_succ_of_lt (inv.numbers done hdone), ?_, ?_, ?_, inv.log⟩
    · intro session' call h
      obtain ⟨rfl, rfl⟩ | ⟨-, h⟩ := of_update_some h
      · exact ⟨Nat.lt_succ_self _, fun row hrow => (inv.ids row hrow).ne,
          fun done hdone => (inv.numbers done hdone).ne, hnormal, fun row hrow => hrow, trivial,
          trivial⟩
      · exact { inv.running session' call h with fresh := Nat.lt_succ_of_lt (hold h) }
    · intro session' session'' call call' h h' hnumber
      rcases of_update_some h with ⟨rfl, rfl⟩ | ⟨-, hcall⟩ <;>
        obtain ⟨rfl, rfl⟩ | ⟨-, hcall'⟩ := of_update_some h'
      · rfl
      · exact absurd hnumber.symm (hold hcall').ne
      · exact absurd hnumber (hold hcall).ne
      · exact inv.distinct _ _ _ _ hcall hcall' hnumber
    · intro entry hentry
      obtain ⟨hok, hnumber, hapart, hright⟩ := inv.provisional entry hentry
      refine ⟨hok, Nat.lt_succ_of_lt hnumber, ?_, hright⟩
      intro session' call h
      obtain ⟨rfl, rfl⟩ | ⟨-, h⟩ := of_update_some h
      · exact hnumber.ne
      · exact hapart session' call h
  · exact inv

theorem step_inv (s : InvoiceDesk) (a : Move) (t : InvoiceDesk) (inv : Inv s) (h : Step s a t) :
    Inv t := by
  obtain rfl := h
  cases a with
  | start session request => exact inv.start session request
  | advance session market => exact inv.advance session market
  | commit session => exact inv.commit session
  | rollback session => exact inv.rollback session

theorem inv_empty : Inv {} := by
  constructor <;> simp

theorem Inv.consistent (inv : Inv s) : s.Consistent where
  keys := fun row hrow row' hrow' h => InvoiceTable.eq_of_key hrow hrow' h
  references := fun row hrow row' hrow' h => InvoiceTable.eq_of_reference hrow hrow' h
  terms := fun done hdone => (inv.log done hdone).terms
  same := by
    intro done hdone done' hdone' id id' hok hok' hkey
    obtain ⟨row, hrow, rfl, -, hterms⟩ := (inv.log done hdone).terms id hok
    obtain ⟨row', hrow', rfl, -, hterms'⟩ := (inv.log done' hdone').terms id' hok'
    by_cases hsame : row = row'
    · exact .inl (congrArg InvoiceRow.id hsame)
    · refine .inr ⟨?_, ?_⟩
      · intro hreference
        refine hsame (InvoiceTable.eq_of_reference hrow hrow' ?_)
        rw [InvoiceRow.reference, InvoiceRow.reference, hterms, hterms', hreference]
      · by_cases hrowkey : row.idempotencyKey = done.key
        · refine ⟨row', hrow', .inr rfl, ?_⟩
          intro hrowkey'
          exact hsame (InvoiceTable.eq_of_key hrow hrow' (hrowkey.trans hrowkey'.symm))
        · exact ⟨row, hrow, .inl rfl, hrowkey⟩
  conflict := fun done hdone => (inv.log done hdone).conflict
  unchanged := fun done hdone => (inv.log done hdone).unchanged
  resolved := fun done hdone => (inv.log done hdone).resolved

end Steps

/-- The invoices and the answers are consistent after every interleaving. -/
theorem invoices_consistent {labels : List Move} (run : Run Step {} labels s) : s.Consistent :=
  (run.invariant Inv step_inv inv_empty).consistent

/-- A ride of 25 dollars, paid in cash by the user 7. -/
def rideRequest (key reference : String) : CreationRequest where
  idempotencyKey := key
  serviceCode := "transport"
  serviceReference := reference
  payerUserId := some 7
  amount := some 25
  currency := "usd"
  paymentMethod := "cash"

/-- Cash is accepted everywhere. -/
def cashMarket : Market where
  methodConfig := fun method =>
    if method = "cash" then some ⟨true, fun _ => true, supportedSettlementTimings, none, none, none⟩
    else none
  walletAccountAvailable := fun _ _ => false
  walletRequiresTransactionPin := fun _ => false
  userExists := fun _ => true

/-- A call that finds nothing, up to its insert. -/
def untilInsert (session : ℕ) (key reference : String) : List Move :=
  [.start session (rideRequest key reference), .advance session cashMarket,
    .advance session cashMarket, .advance session cashMarket]

/-- Two sessions ask for one ride with one key; both find nothing before either inserts. -/
def race : List Move :=
  untilInsert 0 "k-1" "ride-1" ++ untilInsert 1 "k-1" "ride-1" ++
    [.advance 0 cashMarket, .advance 1 cashMarket, .commit 0, .advance 1 cashMarket,
      .advance 1 cashMarket]

/-- The answers, each with its key. -/
def answers (s : InvoiceDesk) : List (String × Except InvoiceError ℕ) :=
  s.log.map (fun done => (done.key, done.outcome))

theorem mem_answers (key : String) (outcome : Except InvoiceError ℕ)
    (h : (key, outcome) ∈ s.answers) :
    ∃ done ∈ s.log, done.key = key ∧ done.outcome = outcome := by
  obtain ⟨done, hdone, hpair⟩ := List.mem_map.mp h
  exact ⟨done, hdone, Prod.mk.inj hpair⟩

/-- What `rideRequest` asks for. -/
def rideTerms (reference : String) : Terms where
  serviceCode := "transport"
  serviceReference := reference
  payerUserId := 7
  amount := 25
  currency := "USD"
  paymentMethod := "cash"
  settlementTiming := "pay_on_completion"
  serviceCountryCode := none
  payerCountryCode := none

/-- A session asks for a ride, with terms that are normalised already. -/
def startRide (s : InvoiceDesk) (session : ℕ) (key reference : String) : InvoiceDesk :=
  match s.calls session with
  | none =>
    { s with
      calls := Function.update s.calls session
        (some ⟨s.next, key, rideTerms reference, s.table.visible session, .findKey⟩)
      next := s.next + 1 }
  | some _ => s

theorem start_rideRequest {key reference : String}
    (h : (rideRequest key reference).normalize.toOption = some (key, rideTerms reference)) :
    s.start session (rideRequest key reference) = s.startRide session key reference := by
  unfold start startRide
  rw [eq_ok_of_toOption h]
  cases s.calls session <;> rfl

/-- The texts of a request are normalised once, not at every statement of its call. -/
theorem race_answers : (race.foldl move {}).answers = [("k-1", .ok 0), ("k-1", .ok 0)] := by
  have hride : (rideRequest "k-1" "ride-1").normalize.toOption =
      some ("k-1", rideTerms "ride-1") := by decide +kernel
  simp only [race, untilInsert, List.cons_append, List.nil_append, List.foldl_cons,
    List.foldl_nil, move, start_rideRequest hride]
  decide +kernel

/-- Both return the invoice of the first. -/
theorem invoices_consistent_race :
    (race.foldl move {}).answers = [("k-1", .ok 0), ("k-1", .ok 0)] ∧
      (race.foldl move {}).Consistent :=
  ⟨race_answers, invoices_consistent (Run.foldl move {} race)⟩

/-- The second key finds the ride of the first by its reference, and is then used for
another ride. -/
def reusedKey : List Move :=
  untilInsert 0 "k-1" "ride-1" ++ [.advance 0 cashMarket, .commit 0,
    .start 0 (rideRequest "k-2" "ride-1"), .advance 0 cashMarket, .advance 0 cashMarket] ++
    untilInsert 0 "k-2" "ride-2" ++ [.advance 0 cashMarket, .commit 0]

theorem reusedKey_answers :
    (reusedKey.foldl move {}).answers = [("k-1", .ok 0), ("k-2", .ok 0), ("k-2", .ok 2)] := by
  have hfirst : (rideRequest "k-1" "ride-1").normalize.toOption =
      some ("k-1", rideTerms "ride-1") := by decide +kernel
  have hsame : (rideRequest "k-2" "ride-1").normalize.toOption =
      some ("k-2", rideTerms "ride-1") := by decide +kernel
  have hother : (rideRequest "k-2" "ride-2").normalize.toOption =
      some ("k-2", rideTerms "ride-2") := by decide +kernel
  simp only [reusedKey, untilInsert, List.cons_append, List.nil_append, List.foldl_cons,
    List.foldl_nil, move, start_rideRequest hfirst, start_rideRequest hsame,
    start_rideRequest hother]
  decide +kernel

/-- Two calls succeed with one key and return different invoices. -/
theorem one_key_two_invoices : ¬ ∀ labels s, Run Step {} labels s → s.OneInvoicePerKey := by
  intro h
  have hone := h reusedKey _ (Run.foldl move {} reusedKey)
  have hanswers := reusedKey_answers
  generalize reusedKey.foldl move {} = s at hone hanswers
  obtain ⟨done, hdone, hkey, hok⟩ := mem_answers (s := s) "k-2" (.ok 0) (by rw [hanswers]; simp)
  obtain ⟨done', hdone', hkey', hok'⟩ :=
    mem_answers (s := s) "k-2" (.ok 2) (by rw [hanswers]; simp)
  exact absurd (hone done hdone done' hdone' 0 2 hok hok' (hkey.trans hkey'.symm)) (by decide)

end InvoiceDesk

end Afcon360.Marketplace
