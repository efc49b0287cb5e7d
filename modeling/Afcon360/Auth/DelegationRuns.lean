import Afcon360.Auth.Delegation

/-!
# Permissions over histories of calls

`Inv` ties the flag of a row to the history: a set flag means that the row was not revoked,
a cleared one that it was, or that it has expired by now. Together with the deadline, which
every reader looks at, the flag then decides nothing that the history does not.
-/

namespace Afcon360.Auth.Delegation

open Foundation

section

variable {env : DelegationEnv} {table table' : Delegations} {now later : Instant} {terms : Terms}
  {args : CreateArgs} {token reference reason : String} {revokedBy userId : ℕ} {row : Row}
  {scope : DelegationScope}

/-! ## One call -/

/-- A delegation that was created is lawful, and its row is the new one. -/
theorem createDelegation_ok (h : createDelegation env table now args token = .ok (terms, table')) :
    Lawful terms ∧ table.lookup terms.reference = none ∧
      table'.rows = table.rows ++ [{ toTerms := terms }] := by
  unfold createDelegation at h
  split at h
  · cases h
  · rename_i hscopes
    split at h
    · cases h
    · rename_i rule hrule
      simp only [check_bind_eq_ok, require_eq_ok] at h
      obtain ⟨hduration, happroval, h⟩ := h
      split at h
      · cases h
      · rename_i drafted hdrafted
        simp only [check_bind_eq_ok] at h
        obtain ⟨-, h⟩ := h
        split at h
        · cases h
        · rename_i inserted hinserted
          cases h
          obtain ⟨hfree, hrows⟩ := Table.insert?_eq_some_iff.mp hinserted
          refine ⟨?_, hfree, hrows⟩
          unfold CreateArgs.terms? at hdrafted
          split at hdrafted
          · cases hdrafted
            have happroved : rule.requiresApproval = true →
                ∃ approver, args.approvedBy = some approver ∧ approver ≠ 0 := by
              intro hrequired
              have hsome : args.approvedBy.filter (· ≠ 0) ≠ none := fun hnone =>
                happroval ⟨hrequired, hnone⟩
              obtain ⟨approver, happrover⟩ := Option.ne_none_iff_exists'.mp hsome
              obtain ⟨hgiven, hnonzero⟩ := Option.filter_eq_some_iff.mp happrover
              exact ⟨approver, hgiven, by simpa using hnonzero⟩
            refine ⟨⟨rule, hrule, ?_, ?_, happroved⟩, happroved⟩
            · intro text htext
              obtain ⟨scope, hscope, hvalue⟩ := List.mem_map.mp htext
              have hallowed := List.find?_eq_none.mp hscopes scope hscope
              exact ⟨scope, by simpa [canDelegate, hrule] using hallowed, hvalue⟩
            · have hhours := Int.mul_le_mul_of_nonneg_right hduration
                (by decide : (0 : ℤ) ≤ 3600000000)
              exact Int.add_le_add_left hhours now
          · cases hdrafted

theorem revokeDelegation_ok
    (h : revokeDelegation env table now reference revokedBy reason = .ok table') :
    ∃ i row, table.get? i = some row ∧ row.reference = reference ∧
      table' = table.modify i (Row.revoke now revokedBy reason) fun _ => rfl := by
  unfold revokeDelegation at h
  split at h
  · cases h
  · rename_i i row hfound
    simp only [check_bind_eq_ok] at h
    obtain ⟨-, -, h⟩ := h
    obtain ⟨hget, hkey⟩ := Table.lookup_eq_some_iff.mp hfound
    exact ⟨i, row, hget, hkey, (pure_eq_ok.mp h).symm⟩

/-- A row after the sweep or the listing: unchanged, or expired with its flag cleared. -/
theorem mem_expireWhere {among : Row → Bool} (h : row ∈ (expireWhere table now among).rows) :
    row ∈ table.rows ∨ ∃ old ∈ table.rows, row = old.expire ∧ old.expiresAt ≤ now := by
  obtain ⟨old, hold, rfl⟩ := List.mem_map.mp h
  split
  · rename_i hexpired
    exact .inr ⟨old, hold, rfl, hexpired.2⟩
  · exact .inl hold

theorem expireWhere_terms (among : Row → Bool) :
    (expireWhere table now among).rows.map Row.toTerms = table.rows.map Row.toTerms := by
  unfold expireWhere Table.rewrite
  rw [List.map_map]
  refine List.map_congr_left (fun row _ => ?_)
  simp only [Function.comp_apply]
  split <;> rfl

theorem modify_terms {i : ℕ} :
    (table.modify i (Row.revoke now revokedBy reason) fun _ => rfl).rows.map Row.toTerms =
      table.rows.map Row.toTerms := by
  apply List.ext_getElem?
  intro j
  simp only [Table.modify, List.getElem?_map, List.getElem?_modify]
  split
  · rw [Option.map_eq_map, Option.map_map]
    rfl
  · simp

/-! ## The invariant -/

/-- The rows are those granted, each lawful; flags agree with the history. -/
structure Inv (s : Office) : Prop where
  granted : s.table.rows.map Row.toTerms = s.granted
  lawful : ∀ terms ∈ s.granted, Lawful terms
  active : ∀ row ∈ s.table.rows, row.isActive = true → row.reference ∉ s.revoked
  inactive : ∀ row ∈ s.table.rows, row.isActive = false →
    row.reference ∈ s.revoked ∨ row.expiresAt ≤ s.clock
  known : ∀ reference ∈ s.revoked, ∃ row ∈ s.table.rows, row.reference = reference

variable {s t : Office} {labels more : List (Instant × DelegationCall)}

theorem Inv.opened (clock : Instant) : Inv (Office.opened clock) where
  granted := rfl
  lawful := by simp [Office.opened]
  active := by simp [Office.opened]
  inactive := by simp [Office.opened]
  known := by simp [Office.opened]

theorem Inv.waited (inv : Inv s) (hclock : s.clock ≤ now) : Inv { s with clock := now } where
  granted := inv.granted
  lawful := inv.lawful
  active := inv.active
  inactive := fun row hrow hflag => (inv.inactive row hrow hflag).imp_right (·.trans hclock)
  known := inv.known

theorem Inv.created (inv : Inv s) (hclock : s.clock ≤ now)
    (h : createDelegation env s.table now args token = .ok (terms, table')) :
    Inv { s with table := table', clock := now, granted := s.granted ++ [terms] } := by
  obtain ⟨hlawful, hfree, hrows⟩ := createDelegation_ok h
  have hnew : terms.reference ∉ s.revoked := by
    intro hrevoked
    obtain ⟨row, hrow, hreference⟩ := inv.known _ hrevoked
    obtain ⟨i, hi⟩ := List.mem_iff_getElem?.mp hrow
    exact Table.lookup_eq_none_iff.mp hfree i row hi hreference
  refine ⟨?_, ?_, ?_, ?_, ?_⟩
  · rw [hrows, List.map_append, inv.granted]
    rfl
  · intro other hother
    obtain hold | hadded := List.mem_append.mp hother
    · exact inv.lawful other hold
    · rwa [List.mem_singleton.mp hadded]
  · intro row hrow hflag
    rw [hrows] at hrow
    obtain hold | hadded := List.mem_append.mp hrow
    · exact inv.active row hold hflag
    · rwa [List.mem_singleton.mp hadded]
  · intro row hrow hflag
    rw [hrows] at hrow
    obtain hold | hadded := List.mem_append.mp hrow
    · exact (inv.inactive row hold hflag).imp_right (·.trans hclock)
    · rw [List.mem_singleton.mp hadded] at hflag
      cases hflag
  · intro reference hreference
    obtain ⟨row, hrow, hsame⟩ := inv.known reference hreference
    exact ⟨row, by rw [hrows]; exact List.mem_append_left _ hrow, hsame⟩

theorem Inv.revoke (inv : Inv s) (hclock : s.clock ≤ now)
    (h : revokeDelegation env s.table now reference revokedBy reason = .ok table') :
    Inv { s with table := table', clock := now, revoked := s.revoked ++ [reference] } := by
  obtain ⟨i, found, hfound, hreference, rfl⟩ := revokeDelegation_ok h
  -- Another row has another reference.
  have hother : ∀ (j : ℕ) (row : Row), j ≠ i → s.table.rows[j]? = some row →
      row.reference ≠ reference := by
    intro j row hj hrow hsame
    exact hj (Table.position_unique (show s.table.get? j = some row from hrow) hfound
      (hsame.trans hreference.symm))
  refine ⟨modify_terms.trans inv.granted, inv.lawful, ?_, ?_, ?_⟩
  · intro row hrow hflag
    obtain ⟨j, hj⟩ := List.mem_iff_getElem?.mp hrow
    obtain ⟨-, old, -, rfl⟩ | ⟨hne, hold⟩ := getElem?_modify_cases hj
    · cases hflag
    · have hfree := inv.active row (List.mem_of_getElem? hold) hflag
      simpa [hfree] using hother j row hne hold
  · intro row hrow hflag
    obtain ⟨j, hj⟩ := List.mem_iff_getElem?.mp hrow
    obtain ⟨rfl, old, hold, rfl⟩ | ⟨hne, hold⟩ := getElem?_modify_cases hj
    · have hsame : old = found := Option.some.inj (hold.symm.trans hfound)
      exact .inl (List.mem_append_right _ (by rw [hsame]; exact List.mem_singleton.mpr hreference))
    · refine (inv.inactive row (List.mem_of_getElem? hold) hflag).imp ?_ (·.trans hclock)
      exact fun hrevoked => List.mem_append_left _ hrevoked
  · have hkept : ∀ old ∈ s.table.rows, ∃ row ∈
        (s.table.modify i (Row.revoke now revokedBy reason) fun _ => rfl).rows,
          row.reference = old.reference := by
      intro old hold
      have hmem : old.toTerms ∈ (s.table.modify i (Row.revoke now revokedBy reason)
          fun _ => rfl).rows.map Row.toTerms := by
        rw [modify_terms]
        exact List.mem_map_of_mem hold
      obtain ⟨row, hrow, hterms⟩ := List.mem_map.mp hmem
      exact ⟨row, hrow, congrArg Terms.reference hterms⟩
    intro other hrevoked
    obtain hold | hadded := List.mem_append.mp hrevoked
    · obtain ⟨old, hold, hsame⟩ := inv.known other hold
      obtain ⟨row, hrow, hkeeps⟩ := hkept old hold
      exact ⟨row, hrow, hkeeps.trans hsame⟩
    · obtain ⟨row, hrow, hkeeps⟩ := hkept found (List.mem_of_getElem? hfound)
      exact ⟨row, hrow, (hkeeps.trans hreference).trans (List.mem_singleton.mp hadded).symm⟩

theorem Inv.expireWhere (inv : Inv s) (hclock : s.clock ≤ now) (among : Row → Bool) :
    Inv { s with table := expireWhere s.table now among, clock := now } := by
  refine ⟨(expireWhere_terms among).trans inv.granted, inv.lawful, ?_, ?_, ?_⟩
  · intro row hrow hflag
    obtain hold | ⟨old, -, rfl, -⟩ := mem_expireWhere hrow
    · exact inv.active row hold hflag
    · cases hflag
  · intro row hrow hflag
    obtain hold | ⟨old, -, rfl, hexpired⟩ := mem_expireWhere hrow
    · exact (inv.inactive row hold hflag).imp_right (·.trans hclock)
    · exact .inr hexpired
  · intro reference hreference
    obtain ⟨old, hold, hsame⟩ := inv.known reference hreference
    have hmem : old.toTerms ∈ (Delegation.expireWhere s.table now among).rows.map Row.toTerms := by
      rw [expireWhere_terms]
      exact List.mem_map_of_mem hold
    obtain ⟨row, hrow, hterms⟩ := List.mem_map.mp hmem
    exact ⟨row, hrow, (congrArg Terms.reference hterms).trans hsame⟩

theorem Inv.step (inv : Inv s) {label : Instant × DelegationCall} (h : Step env s label t) :
    Inv t := by
  obtain ⟨now, call⟩ := label
  obtain ⟨hclock, rfl⟩ := h
  cases call with
  | create args token =>
    simp only [Office.call]
    split
    · exact inv.waited hclock
    · rename_i terms table' hcreated
      exact inv.created hclock hcreated
  | revoke reference revokedBy reason =>
    simp only [Office.call]
    split
    · exact inv.waited hclock
    · rename_i table' hrevoked
      exact inv.revoke hclock hrevoked
  | getActive userId => exact inv.expireWhere hclock _
  | cleanup => exact inv.expireWhere hclock _

theorem Inv.run (inv : Inv s) (run : Run (Step env) s labels t) : Inv t :=
  run.invariant Inv (fun _ _ _ inv h => inv.step h) inv

/-! ## What only grows -/

/-- The clock goes on, and what was granted and revoked stays so. -/
structure Grows (s t : Office) : Prop where
  clock : s.clock ≤ t.clock
  granted : s.granted <+: t.granted
  revoked : s.revoked <+: t.revoked

theorem Grows.refl (s : Office) : Grows s s := ⟨le_rfl, List.prefix_rfl, List.prefix_rfl⟩

theorem Grows.trans {s middle t : Office} (first : Grows s middle) (second : Grows middle t) :
    Grows s t :=
  ⟨first.clock.trans second.clock, first.granted.trans second.granted,
    first.revoked.trans second.revoked⟩

theorem Grows.step {label : Instant × DelegationCall} (h : Step env s label t) : Grows s t := by
  obtain ⟨now, call⟩ := label
  obtain ⟨hclock, rfl⟩ := h
  cases call with
  | create args token =>
    simp only [Office.call]
    split
    · exact ⟨hclock, List.prefix_rfl, List.prefix_rfl⟩
    · exact ⟨hclock, List.prefix_append _ _, List.prefix_rfl⟩
  | revoke reference revokedBy reason =>
    simp only [Office.call]
    split
    · exact ⟨hclock, List.prefix_rfl, List.prefix_rfl⟩
    · exact ⟨hclock, List.prefix_rfl, List.prefix_append _ _⟩
  | getActive userId => exact ⟨hclock, List.prefix_rfl, List.prefix_rfl⟩
  | cleanup => exact ⟨hclock, List.prefix_rfl, List.prefix_rfl⟩

theorem Grows.run (run : Run (Step env) s labels t) : Grows s t :=
  run.relation Grows Grows.refl (fun _ _ _ => Grows.trans) (fun _ _ _ => Grows.step)

/-! ## What a permission depends on -/

/-- A row permits what its terms carry as long as they are in force. -/
theorem Inv.permits_iff (inv : Inv s) (hnow : s.clock ≤ now) (hrow : row ∈ s.table.rows) :
    row.permits now userId scope = true ↔
      row.delegateeId = userId ∧ scope.value ∈ row.scopes ∧ s.InForce now row.toTerms := by
  simp only [Row.permits, Row.isValid, Row.hasScope, Row.isExpired, Bool.and_eq_true,
    decide_eq_true_eq, Bool.not_eq_true', decide_eq_false_iff_not, not_le]
  constructor
  · rintro ⟨⟨⟨⟨hdelegatee, hactive⟩, hdeadline⟩, hscope⟩, -⟩
    exact ⟨hdelegatee, hscope, inv.active row hrow hactive, hdeadline⟩
  · rintro ⟨hdelegatee, hscope, hkept, hdeadline⟩
    have hactive : row.isActive = true := by
      by_contra hflag
      obtain hrevoked | hexpired := inv.inactive row hrow (Bool.eq_false_iff.mpr hflag)
      · exact hkept hrevoked
      · exact absurd (hexpired.trans hnow) (not_le.mpr hdeadline)
    have happroved : (row.requiresApproval &&
        (row.approvedByUserId.filter (· ≠ 0)).isNone) = false := by
      cases hrequired : row.requiresApproval with
      | false => rfl
      | true =>
        have hmem : row.toTerms ∈ s.granted := by
          rw [← inv.granted]
          exact List.mem_map_of_mem hrow
        obtain ⟨approver, hgiven, hnonzero⟩ := (inv.lawful _ hmem).approved hrequired
        simp [hgiven, hnonzero]
    exact ⟨⟨⟨⟨hdelegatee, hactive⟩, hdeadline⟩, hscope⟩, ⟨hactive, hdeadline⟩, happroved⟩

/-- A permission is a granted delegation in force. -/
theorem Inv.check_iff (inv : Inv s) (hnow : s.clock ≤ now) :
    checkDelegationPermission s.table now userId scope = true ↔
      ∃ terms ∈ s.granted, terms.delegateeId = userId ∧ scope.value ∈ terms.scopes ∧
        s.InForce now terms := by
  rw [checkDelegationPermission, List.any_eq_true, ← inv.granted]
  constructor
  · rintro ⟨row, hrow, hpermits⟩
    exact ⟨row.toTerms, List.mem_map_of_mem hrow, (inv.permits_iff hnow hrow).mp hpermits⟩
  · rintro ⟨terms, hterms, h⟩
    obtain ⟨row, hrow, rfl⟩ := List.mem_map.mp hterms
    exact ⟨row, hrow, (inv.permits_iff hnow hrow).mpr h⟩

/-- The listing of a user holds the rows in force. -/
theorem Inv.mem_listActive_iff (inv : Inv s) (hnow : s.clock ≤ now) :
    row ∈ listActive s.table now (some userId) ↔
      row ∈ s.table.rows ∧ row.delegateeId = userId ∧ s.InForce now row.toTerms := by
  rw [listActive, List.mem_filter]
  simp only [queried, Option.all_some, Bool.and_eq_true, decide_eq_true_eq]
  constructor
  · rintro ⟨hrow, ⟨hactive, hdelegatee⟩, hdeadline⟩
    exact ⟨hrow, hdelegatee, inv.active row hrow hactive, hdeadline⟩
  · rintro ⟨hrow, hdelegatee, hkept, hdeadline⟩
    refine ⟨hrow, ⟨?_, hdelegatee⟩, hdeadline⟩
    by_contra hflag
    obtain hrevoked | hexpired := inv.inactive row hrow (Bool.eq_false_iff.mpr hflag)
    · exact hkept hrevoked
    · exact absurd (hexpired.trans hnow) (not_le.mpr hdeadline)

/-- A listed row permits something unless it was granted without a scope. -/
theorem Inv.permits_some_iff (inv : Inv s) (hnow : s.clock ≤ now) (hrow : row ∈ s.table.rows) :
    (∃ scope, row.permits now userId scope = true) ↔
      row ∈ listActive s.table now (some userId) ∧ row.scopes ≠ [] := by
  rw [inv.mem_listActive_iff hnow]
  constructor
  · rintro ⟨scope, hpermits⟩
    obtain ⟨hdelegatee, hscope, hforce⟩ := (inv.permits_iff hnow hrow).mp hpermits
    exact ⟨⟨hrow, hdelegatee, hforce⟩, List.ne_nil_of_mem hscope⟩
  · rintro ⟨⟨-, hdelegatee, hforce⟩, hscopes⟩
    obtain ⟨text, htext⟩ := List.exists_mem_of_ne_nil _ hscopes
    have hmem : row.toTerms ∈ s.granted := by
      rw [← inv.granted]
      exact List.mem_map_of_mem hrow
    obtain ⟨rule, -, hscoped, -⟩ := (inv.lawful _ hmem).rule
    obtain ⟨scope, -, rfl⟩ := hscoped text htext
    exact ⟨scope, (inv.permits_iff hnow hrow).mpr ⟨hdelegatee, htext, hforce⟩⟩

/-- What was revoked or has expired is never in force again. -/
theorem Grows.not_inForce (grows : Grows s t) (h : ¬ s.InForce now terms) (hlater : now ≤ later) :
    ¬ t.InForce later terms := by
  rintro ⟨hkept, hdeadline⟩
  refine h ⟨fun hrevoked => hkept (grows.revoked.subset hrevoked), ?_⟩
  exact lt_of_le_of_lt hlater hdeadline

theorem call_failure {call : DelegationCall} {e : DelegationError}
    (h : (s.call env now call).1 = .failure e) :
    (s.call env now call).2.table = s.table ∧ (s.call env now call).2.granted = s.granted := by
  cases call with
  | create args token =>
    simp only [Office.call] at h ⊢
    split at h
    · exact ⟨rfl, rfl⟩
    · cases h
  | revoke reference revokedBy reason =>
    simp only [Office.call] at h ⊢
    split at h
    · exact ⟨rfl, rfl⟩
    · cases h
  | getActive userId => cases h
  | cleanup => cases h

/-- Over every history of calls: a permission is held exactly by a granted delegation that is
neither revoked nor expired; every granted delegation follows a rule; what was revoked or has
expired never permits anything again; the listing of a user holds exactly the delegations in
force, which are those that permit something and those granted without a scope; a call that
fails creates nothing. -/
theorem delegated_permissions {clock : Instant}
    (run : Run (Step env) (Office.opened clock) labels t) :
    (∀ now, t.clock ≤ now → ∀ userId scope,
      checkDelegationPermission t.table now userId scope = true ↔
        ∃ terms ∈ t.granted, terms.delegateeId = userId ∧ scope.value ∈ terms.scopes ∧
          t.InForce now terms) ∧
    (∀ terms ∈ t.granted, Lawful terms) ∧
    (∀ now, t.clock ≤ now → ∀ terms, ¬ t.InForce now terms →
      ∀ more t' later, Run (Step env) t more t' → t'.clock ≤ later → now ≤ later →
        ∀ row ∈ t'.table.rows, row.toTerms = terms →
          ∀ userId scope, row.permits later userId scope = false) ∧
    (∀ now, t.clock ≤ now → ∀ userId, ∀ row ∈ t.table.rows,
      (row ∈ listActive t.table now (some userId) ↔
        row.delegateeId = userId ∧ t.InForce now row.toTerms) ∧
      ((∃ scope, row.permits now userId scope = true) ↔
        row ∈ listActive t.table now (some userId) ∧ row.scopes ≠ [])) ∧
    ∀ now call e, (t.call env now call).1 = .failure e →
      (t.call env now call).2.table = t.table ∧ (t.call env now call).2.granted = t.granted := by
  have inv := (Inv.opened clock).run run
  refine ⟨fun now hnow userId scope => inv.check_iff hnow, inv.lawful, ?_, ?_,
    fun now call e => call_failure⟩
  · intro now hnow terms hgone more t' later hmore hclock hlater row hrow hterms userId scope
    have hgone' := (Grows.run hmore).not_inForce hgone hlater
    by_contra hpermits
    have hforce := ((inv.run hmore).permits_iff hclock hrow).mp (Bool.of_not_eq_false hpermits)
    rw [hterms] at hforce
    exact hgone' hforce.2.2
  · intro now hnow userId row hrow
    refine ⟨?_, inv.permits_some_iff hnow hrow⟩
    rw [inv.mem_listActive_iff hnow]
    simp [hrow]

end

/-! ## Two guests -/

/-- Users with the ids 1 to 9. -/
def guests : DelegationEnv where
  users := fun id => 0 < id ∧ id < 10
  stamp := fun _ => "20260813120501"

/-- User 1 lets user 2 manage registrations for a day. -/
def dayPass (scopes : List DelegationScope) : DelegationCall :=
  .create
    { delegatorId := 1, delegateeId := 2, delegatorRole := "user", delegateeRole := "user", scopes
      durationHours := 24, reason := "Accommodation registration support" } "9F2A"

/-- The office after some calls; `none` when one comes before its time. -/
def next (env : DelegationEnv) (s : Office) (label : Instant × DelegationCall) : Option Office :=
  if s.clock ≤ label.1 then some (s.call env label.1 label.2).2 else none

theorem step_of_next (env : DelegationEnv) (s : Office) (label : Instant × DelegationCall)
    (t : Office) (h : next env s label = some t) : Step env s label t := by
  unfold next at h
  split at h
  · rename_i hclock
    exact ⟨hclock, (Option.some.inj h).symm⟩
  · cases h

/-- The pass permits until it is revoked; then the history says so. -/
theorem pass_revoked :
    ∃ t, exec (next guests) (Office.opened 0)
        [(0, dayPass [.accommodationRegistrationManagement]), (5, .getActive none),
          (6, .revoke "DEL-20260813120501-9F2A" 1 "done"), (7, .cleanup)] = some t ∧
      t.granted.length = 1 ∧
      checkDelegationPermission t.table 8 2 .accommodationRegistrationManagement = false ∧
      ¬ ∃ terms ∈ t.granted, terms.delegateeId = 2 ∧
        DelegationScope.accommodationRegistrationManagement.value ∈ terms.scopes ∧
        t.InForce 8 terms := by
  have hrun : (exec (next guests) (Office.opened 0)
      [(0, dayPass [.accommodationRegistrationManagement]), (5, .getActive none),
        (6, .revoke "DEL-20260813120501-9F2A" 1 "done"), (7, .cleanup)]).any (fun t =>
          t.granted.length = 1 ∧ t.clock = 7 ∧
          checkDelegationPermission t.table 8 2 .accommodationRegistrationManagement = false) =
        true := by
    decide +kernel
  obtain ⟨t, ht, hfacts⟩ := (Option.any_eq_true _ _).mp hrun
  obtain ⟨hgranted, hclock, hdenied⟩ := of_decide_eq_true hfacts
  have hspec := (delegated_permissions (Run.of_exec (step_of_next guests) ht)).1 8
    (by rw [hclock]; decide) 2 .accommodationRegistrationManagement
  refine ⟨t, ht, hgranted, hdenied, fun hforce => ?_⟩
  rw [hspec.mpr hforce] at hdenied
  cases hdenied

/-- A delegation without scopes is listed and permits nothing. -/
theorem empty_delegation_listed :
    ¬ ∀ (env : DelegationEnv) (clock : Instant) (labels : List (Instant × DelegationCall))
        (t : Office), Run (Step env) (Office.opened clock) labels t →
      ∀ now, t.clock ≤ now → ∀ userId, ∀ row ∈ t.table.rows,
        row ∈ listActive t.table now (some userId) ↔ ∃ scope,
          row.permits now userId scope = true := by
  intro claim
  have hrun : (exec (next guests) (Office.opened 0) [(0, dayPass [])]).any (fun t =>
      t.clock = 0 ∧ (listActive t.table 1 (some 2)).any (fun row => row.scopes.isEmpty)) =
        true := by
    decide +kernel
  obtain ⟨t, ht, hfacts⟩ := (Option.any_eq_true _ _).mp hrun
  obtain ⟨hclock, hlisted⟩ := of_decide_eq_true hfacts
  obtain ⟨row, hrow, hempty⟩ := List.any_eq_true.mp hlisted
  have hmem := (List.mem_filter.mp hrow).1
  obtain ⟨scope, hpermits⟩ := (claim guests 0 _ t (Run.of_exec (step_of_next guests) ht) 1
    (by rw [hclock]; decide) 2 row hmem).mp hrow
  simp only [Row.permits, Row.hasScope, Bool.and_eq_true, decide_eq_true_eq,
    List.isEmpty_iff.mp hempty, List.not_mem_nil, and_false, false_and] at hpermits

end Afcon360.Auth.Delegation
