import Afcon360.Foundation.Effective
import Afcon360.Foundation.Run
import Afcon360.Transport.FareTables
import Afcon360.Transport.ReservationPolicy

/-!
# The history of the fare tables

The row under `fare.tables` holds the newest version of the tables, and the versions before
it stand in the row's modification history, a JSON list that `update_setting` extends.
`resolve_tables` folds over both.

A JSON column is written back only where its attribute was assigned. `update_setting`
assigns the first entry of the history and appends every later one in place, so that the
history keeps the first version alone: of the versions written, the first and the newest
can be read again. The last theorem says for which moments that is enough.

Times of a stored version are the texts of the datetimes here called `DateTime`, and
`fromisoformat` reads a text that a caller passes.
-/

namespace Afcon360.Transport

open Foundation

/-- The value of the setting. -/
structure FareVersion where
  version : ℕ
  effectiveFrom : DateTime
  tables : Data

/-- One entry of the modification history. -/
structure FareHistoryEntry where
  oldValue : FareVersion
  newValue : FareVersion
  changedAt : DateTime
  changedBy : ℕ

/-- The row under `fare.tables`. -/
structure FareSetting where
  value : FareVersion
  modificationHistory : List FareHistoryEntry

/-! ## Columns of a loaded row -/

/-- A JSON column of a loaded row: what is stored, what the attribute shows, and whether
the attribute was assigned. -/
structure Column (α : Type) where
  stored : α
  loaded : α
  assigned : Bool

namespace Column

variable {α : Type}

def load (value : α) : Column α := ⟨value, value, false⟩

def assign (column : Column α) (value : α) : Column α :=
  { column with loaded := value, assigned := true }

/-- Change the value in place, which the session does not see. -/
def mutate (column : Column α) (change : α → α) : Column α :=
  { column with loaded := change column.loaded }

/-- What the row holds after the commit. -/
def flush (column : Column α) : α :=
  if column.assigned then column.loaded else column.stored

@[simp] theorem loaded_load (value : α) : (load value).loaded = value := rfl

@[simp] theorem flush_assign (column : Column α) (value : α) :
    (column.assign value).flush = value := rfl

@[simp] theorem flush_mutate_load (value : α) (change : α → α) :
    ((load value).mutate change).flush = value := rfl

end Column

/-! ## Writing -/

/-- `update_setting` on the row of the tables; a commit that fails is rolled back. -/
def updateSetting (setting : FareSetting) (value : FareVersion) (modifiedBy : ℕ)
    (now : DateTime) (commits : Bool) : Bool × FareSetting :=
  let entry : FareHistoryEntry := ⟨setting.value, value, now, modifiedBy⟩
  let loaded := Column.load setting.modificationHistory
  let history :=
    if loaded.loaded.isEmpty then loaded.assign [entry]
    else loaded.mutate (fun entries => entries ++ [entry])
  let written := (Column.load setting.value).assign value
  if commits then (true, ⟨written.flush, history.flush⟩) else (false, setting)

/-- The argument `effective_from`. -/
inductive EffectiveFrom
  | absent
  | datetime (moment : DateTime)
  | text (text : String)
  | other

/-- A call of `update_fare_tables`, with the clock it reads and whether the database takes
the commit. -/
structure FareUpdate where
  tables : Data
  actorUserId : ℕ
  effectiveFrom : EffectiveFrom
  now : DateTime
  commits : Bool

inductive FareUpdateError
  | value (message : String)
  | database

/-- What `update_fare_tables` returns. -/
structure FarePublished where
  version : ℕ
  effectiveFrom : DateTime

/-- A naive datetime counts as UTC. -/
def DateTime.aware (moment : DateTime) : DateTime :=
  { moment with utcoffset := some (moment.utcoffset.getD 0) }

section History

variable (number : String → Option Number) (fromisoformat : String → Option DateTime)

/-- The moment from which the tables of a call are to be in force. -/
def FareUpdate.effective (call : FareUpdate) : Except FareUpdateError DateTime :=
  match call.effectiveFrom with
  | .absent => .ok call.now.aware
  | .datetime moment => .ok moment.aware
  | .text text =>
    if strip text = "" then .error (.value "effective_from must be ISO-8601")
    else match fromisoformat (strip text) with
      | some moment => .ok moment.aware
      | none => .error (.value "effective_from must be ISO-8601")
  | .other => .error (.value "effective_from must be ISO-8601")

def nextVersion (row : Option FareSetting) : ℕ :=
  match row with
  | none => 1
  | some setting => setting.value.version + 1

/-- `update_fare_tables`: what it returns and the row it leaves. Whether `update_setting`
wrote anything is not looked at. -/
def updateFareTables (row : Option FareSetting) (call : FareUpdate) :
    Except FareUpdateError FarePublished × Option FareSetting :=
  match validateTables number call.tables with
  | .error message => (.error (.value message), row)
  | .ok _ =>
    match call.effective fromisoformat with
    | .error error => (.error error, row)
    | .ok effective =>
      let value : FareVersion := ⟨nextVersion row, effective, call.tables⟩
      match row with
      | none =>
        if call.commits then (.ok ⟨value.version, effective⟩, some ⟨value, []⟩)
        else (.error .database, none)
      | some setting =>
        (.ok ⟨value.version, effective⟩,
          some (updateSetting setting value call.actorUserId call.now call.commits).2)

/-! ## Reading -/

/-- `_stored_versions`: the row's value, then the old values of its history. -/
def storedVersions (row : Option FareSetting) : List FareVersion :=
  match row with
  | none => []
  | some setting =>
    setting.value :: setting.modificationHistory.map FareHistoryEntry.oldValue

/-- The tables, their version, and from when they are in force. -/
structure ResolvedTables where
  tables : Data
  version : ℕ
  effectiveFrom : Option DateTime

/-- The version of the audited constants. -/
def fareVersion : ℕ := 1

def considerVersion (ref : ℤ) (best : Option FareVersion) (stored : FareVersion) :
    Option FareVersion :=
  if ref < stored.effectiveFrom.instant then best
  else if best.all (fun other => decide (other.version < stored.version)) then
    match coerceTables number stored.tables with
    | some candidate => some { stored with tables := candidate }
    | none => best
  else best

/-- The answer of `resolve_tables` for the version it found. -/
def answer (best : Option FareVersion) : ResolvedTables :=
  match best with
  | some found => ⟨found.tables, found.version, some found.effectiveFrom⟩
  | none => ⟨defaultTables, fareVersion, none⟩

def resolveTables (row : Option FareSetting) (moment : DateTime) : ResolvedTables :=
  answer ((storedVersions row).foldl (considerVersion number moment.instant) none)

/-! ## Sequences of updates -/

/-- What a call publishes, if it does: its tables pass the check, its moment can be read
and the database takes the commit. -/
def FareUpdate.published (call : FareUpdate) : Option (DateTime × Data) :=
  match validateTables number call.tables, call.effective fromisoformat with
  | .ok _, .ok effective => if call.commits then some (effective, call.tables) else none
  | _, _ => none

/-- The row, and every value it ever held. -/
structure FareHistory where
  row : Option FareSetting
  written : List FareVersion

def FareHistory.next (history : FareHistory) (call : FareUpdate) : FareHistory :=
  let row := (updateFareTables number fromisoformat history.row call).2
  match call.published number fromisoformat, row with
  | some _, some setting => ⟨row, history.written ++ [setting.value]⟩
  | _, _ => ⟨row, history.written⟩

/-- The history after the calls, beginning without a row. -/
def fareHistory (calls : List FareUpdate) : FareHistory :=
  calls.foldl (FareHistory.next number fromisoformat) ⟨none, []⟩

/-- The version of highest number in force at the moment among all ever written. -/
def activeVersion (written : List FareVersion) (moment : ℤ) : Option FareVersion :=
  latest (fun stored => stored.effectiveFrom.instant) FareVersion.version moment written

/-! ## What a call leaves -/

variable {number} {fromisoformat} {history : FareHistory} {call : FareUpdate}
variable {effective : DateTime} {tables : Data}

theorem FareUpdate.published_eq_some
    (h : call.published number fromisoformat = some (effective, tables)) :
    validateTables number call.tables = .ok () ∧ call.effective fromisoformat = .ok effective ∧
      call.commits = true ∧ tables = call.tables := by
  unfold published at h
  split at h
  · rename_i hvalid heffective
    split at h
    · rename_i hcommits
      cases h
      exact ⟨hvalid, heffective, hcommits, rfl⟩
    · cases h
  · cases h

/-- The history of a row that got a new value: its first entry, or what it was. -/
def keptEntries (row : Option FareSetting) (entry : FareSetting → FareHistoryEntry) :
    List FareHistoryEntry :=
  match row with
  | none => []
  | some setting =>
    if setting.modificationHistory.isEmpty then [entry setting]
    else setting.modificationHistory

theorem updateSetting_true (setting : FareSetting) (value : FareVersion) (modifiedBy : ℕ)
    (now : DateTime) :
    (updateSetting setting value modifiedBy now true).2 =
      ⟨value, keptEntries (some setting) fun old => ⟨old.value, value, now, modifiedBy⟩⟩ := by
  unfold updateSetting keptEntries
  by_cases h : setting.modificationHistory.isEmpty
  · simp [h]
  · simp [h]

theorem FareHistory.next_of_published
    (h : call.published number fromisoformat = some (effective, tables)) :
    history.next number fromisoformat call =
      ⟨some ⟨⟨nextVersion history.row, effective, tables⟩,
          keptEntries history.row fun old =>
            ⟨old.value, ⟨nextVersion history.row, effective, tables⟩, call.now,
              call.actorUserId⟩⟩,
        history.written ++ [⟨nextVersion history.row, effective, tables⟩]⟩ := by
  obtain ⟨hvalid, heffective, hcommits, rfl⟩ := FareUpdate.published_eq_some h
  unfold next
  rw [h]
  cases hrow : history.row with
  | none => simp [updateFareTables, hvalid, heffective, hcommits, keptEntries]
  | some setting =>
    simp [updateFareTables, hvalid, heffective, hcommits, updateSetting_true]

/-- A call that publishes nothing leaves the row as it was. -/
theorem FareHistory.next_of_not_published
    (h : call.published number fromisoformat = none) :
    history.next number fromisoformat call = history := by
  have hrow : (updateFareTables number fromisoformat history.row call).2 = history.row := by
    unfold FareUpdate.published at h
    unfold updateFareTables
    split
    · rfl
    · rename_i hvalid
      split
      · rfl
      · rename_i heffective
        rw [hvalid, heffective] at h
        have hcommits : call.commits = false := by simpa using h
        cases history.row with
        | none => simp [hcommits]
        | some setting => simp [hcommits, updateSetting]
  unfold next
  rw [h, hrow]

/-! ## The first version and the newest -/

/-- What the calls so far have left: versions numbered from 1, all of them checked, of
which the row has the first and the newest. -/
structure Recorded (number : String → Option Number) (history : FareHistory) : Prop where
  numbers : history.written.map FareVersion.version = List.range' 1 history.written.length
  valid : ∀ stored ∈ history.written, validateTables number stored.tables = .ok ()
  stored : storedVersions history.row = ends history.written

theorem head?_storedVersions (row : Option FareSetting) :
    (storedVersions row).head? = row.map FareSetting.value := by
  cases row with
  | none => rfl
  | some setting => rfl

namespace Recorded

theorem nextVersion_eq (h : Recorded number history) :
    nextVersion history.row = history.written.length + 1 := by
  have hlast : history.row.map FareSetting.value = history.written.getLast? := by
    rw [← head?_storedVersions, h.stored, head?_ends]
  have hnumber : (history.row.map FareSetting.value).map FareVersion.version =
      (List.range' 1 history.written.length).getLast? := by
    rw [hlast, ← List.getLast?_map, h.numbers]
  rw [List.getLast?_range'] at hnumber
  cases hrow : history.row with
  | none =>
    rw [hrow] at hnumber
    split at hnumber
    · rename_i hempty
      rw [hempty]
      rfl
    · cases hnumber
  | some setting =>
    rw [hrow] at hnumber
    split at hnumber
    · cases hnumber
    · have hversion : setting.value.version = history.written.length + 1 - 1 := by
        simpa [Nat.add_comm] using hnumber
      simp only [nextVersion, hversion]
      omega

theorem next (h : Recorded number history) (call : FareUpdate) :
    Recorded number (history.next number fromisoformat call) := by
  cases hpublished : call.published number fromisoformat with
  | none =>
    rw [FareHistory.next_of_not_published hpublished]
    exact h
  | some found =>
    obtain ⟨effective, tables⟩ := found
    obtain ⟨hvalid, -, -, rfl⟩ := FareUpdate.published_eq_some hpublished
    rw [FareHistory.next_of_published hpublished, h.nextVersion_eq]
    refine ⟨?_, ?_, ?_⟩
    · simp [h.numbers, List.range'_concat, Nat.add_comm]
    · intro stored hstored
      obtain hold | hnew := List.mem_append.mp hstored
      · exact h.valid stored hold
      · rw [List.mem_singleton.mp hnew]
        exact hvalid
    · have hends := h.stored
      cases hwritten : history.written with
      | nil =>
        rw [hwritten] at hends
        cases hrow : history.row with
        | none => rfl
        | some setting => rw [hrow] at hends; cases hends
      | cons first rest =>
        rw [hwritten] at hends
        rw [ends_append]
        cases hrow : history.row with
        | none =>
          rw [hrow] at hends
          cases rest <;> cases hends
        | some setting =>
          rw [hrow] at hends
          simp only [storedVersions, keptEntries, List.cons.injEq, true_and]
          cases rest with
          | nil =>
            obtain ⟨hvalue, hentries⟩ := List.cons.inj hends
            have hempty : setting.modificationHistory = [] := List.map_eq_nil_iff.mp hentries
            simp [hempty, hvalue]
          | cons second rest =>
            obtain ⟨-, hentries⟩ := List.cons.inj hends
            have hne : setting.modificationHistory ≠ [] := by
              intro hempty
              rw [hempty] at hentries
              cases hentries
            simp [hne, hentries]

theorem fareHistory (calls : List FareUpdate) :
    Recorded number (fareHistory number fromisoformat calls) := by
  have run := Run.foldl (FareHistory.next number fromisoformat) ⟨none, []⟩ calls
  refine run.invariant (Recorded number) ?_ ⟨rfl, by simp, rfl⟩
  rintro history call _ h rfl
  exact h.next call

theorem rising (h : Recorded number history) : Rising FareVersion.version history.written := by
  have hnumbers : (history.written.map FareVersion.version).Pairwise (· < ·) := by
    rw [h.numbers]
    exact List.pairwise_lt_range'
  exact List.pairwise_map.mp hnumbers

end Recorded

/-! ## What is resolved -/

theorem considerVersion_eq {ref : ℤ} {best : Option FareVersion} {stored : FareVersion}
    (h : validateTables number stored.tables = .ok ()) :
    considerVersion number ref best stored =
      supersede (fun stored => stored.effectiveFrom.instant) FareVersion.version ref best
        stored := by
  unfold considerVersion supersede
  by_cases hlater : ref < stored.effectiveFrom.instant
  · simp [hlater]
  · by_cases habove : best.all (fun other => decide (other.version < stored.version)) = true
    · rw [if_neg hlater, if_pos habove, if_pos ⟨not_lt.mp hlater, habove⟩,
        coerceTables_of_valid number h]
    · rw [if_neg hlater, if_neg habove, if_neg fun hboth => habove hboth.2]

theorem foldl_considerVersion {ref : ℤ} {best : Option FareVersion} {versions : List FareVersion}
    (h : ∀ stored ∈ versions, validateTables number stored.tables = .ok ()) :
    versions.foldl (considerVersion number ref) best =
      versions.foldl
        (supersede (fun stored => stored.effectiveFrom.instant) FareVersion.version ref) best := by
  induction versions generalizing best with
  | nil => rfl
  | cons stored rest ih =>
    rw [List.foldl_cons, List.foldl_cons, considerVersion_eq (h stored List.mem_cons_self)]
    exact ih fun other hother => h other (List.mem_cons_of_mem _ hother)

/-- An answer tells which version it comes from, if any. -/
theorem answer_injective {found other : Option FareVersion} (h : answer found = answer other) :
    found = other := by
  have htables := congrArg ResolvedTables.tables h
  have hversion := congrArg ResolvedTables.version h
  have heffective := congrArg ResolvedTables.effectiveFrom h
  cases found with
  | none =>
    cases other with
    | none => rfl
    | some other => cases heffective
  | some found =>
    cases other with
    | none => cases heffective
    | some other =>
      obtain ⟨version, effectiveFrom, tables⟩ := found
      simp only [answer, Option.some.injEq] at htables hversion heffective
      rw [htables, hversion, heffective]

namespace Recorded

theorem resolveTables_eq (h : Recorded number history) (moment : DateTime) :
    resolveTables number history.row moment =
      answer (activeVersion (ends history.written) moment.instant) := by
  have hvalid : ∀ stored ∈ ends history.written, validateTables number stored.tables = .ok () :=
    fun stored hstored => h.valid stored (ends_subset _ hstored)
  rw [resolveTables, h.stored, foldl_considerVersion hvalid]
  rfl

/-- The row answers as the whole history does exactly where its two versions decide. -/
theorem resolveTables_iff (h : Recorded number history) (moment : DateTime) :
    resolveTables number history.row moment =
        answer (activeVersion history.written moment.instant) ↔
      ∀ between ∈ history.written.tail.dropLast,
        between.effectiveFrom.instant ≤ moment.instant →
          ∀ newest ∈ history.written.getLast?, newest.effectiveFrom.instant ≤ moment.instant := by
  rw [h.resolveTables_eq]
  constructor
  · intro heq
    exact (latest_ends_iff h.rising).mp (answer_injective heq)
  · intro hdecide
    exact congrArg answer ((latest_ends_iff h.rising).mpr hdecide)

theorem resolveTables_valid (h : Recorded number history) (moment : DateTime) :
    validateTables number (resolveTables number history.row moment).tables = .ok () ∧
      ∀ effective, (resolveTables number history.row moment).effectiveFrom = some effective →
        effective.instant ≤ moment.instant := by
  rw [h.resolveTables_eq]
  cases hactive : activeVersion (ends history.written) moment.instant with
  | none => exact ⟨validateTables_defaultTables number, fun effective h => by cases h⟩
  | some found =>
    have hfound := isLatest_of_latest hactive
    refine ⟨h.valid found (ends_subset _ hfound.mem), ?_⟩
    rintro effective ⟨⟩
    exact hfound.inForce

/-- An update that comes into force after the moment leaves the answer for the moment exactly
where there is one version at most, or the newest is not in force either. -/
theorem resolveTables_next_iff (h : Recorded number history) {moment : DateTime}
    (hcall : call.published number fromisoformat = some (effective, tables))
    (hlater : moment.instant < effective.instant) :
    resolveTables number (history.next number fromisoformat call).row moment =
        resolveTables number history.row moment ↔
      (2 ≤ history.written.length → ∀ newest ∈ history.written.getLast?,
        moment.instant < newest.effectiveFrom.instant) := by
  have hafter : Recorded number (history.next number fromisoformat call) := h.next call
  have hwritten : (history.next number fromisoformat call).written =
      history.written ++ [⟨nextVersion history.row, effective, tables⟩] :=
    congrArg FareHistory.written (FareHistory.next_of_published hcall)
  have hrising := hafter.rising
  rw [hwritten] at hrising
  rw [hafter.resolveTables_eq, h.resolveTables_eq, hwritten]
  have hends : latest (fun stored : FareVersion => stored.effectiveFrom.instant) _ _ _ = _ ↔ _ :=
    latest_ends_append_iff hrising hlater
  constructor
  · intro heq
    exact hends.mp (answer_injective heq)
  · intro hkeeps
    exact congrArg answer (hends.mpr hkeeps)

end Recorded

/-- What was written is what the calls published, in order. -/
theorem map_written (calls : List FareUpdate) :
    (fareHistory number fromisoformat calls).written.map
        (fun stored => (stored.effectiveFrom, stored.tables)) =
      calls.filterMap (FareUpdate.published number fromisoformat) := by
  induction calls using List.reverseRecOn with
  | nil => rfl
  | append_singleton calls call ih =>
    have hnext : fareHistory number fromisoformat (calls ++ [call]) =
        (fareHistory number fromisoformat calls).next number fromisoformat call := by
      simp [fareHistory, List.foldl_append]
    rw [hnext, List.filterMap_append, ← ih]
    cases hpublished : call.published number fromisoformat with
    | none => simp [FareHistory.next_of_not_published hpublished, hpublished]
    | some found =>
      obtain ⟨effective, tables⟩ := found
      simp [FareHistory.next_of_published hpublished, hpublished]

/-- Between the first update and the newest, none is in force at the moment unless the
newest is. -/
def EndsDecide (published : List (DateTime × Data)) (moment : DateTime) : Prop :=
  ∀ between ∈ published.tail.dropLast, between.1.instant ≤ moment.instant →
    ∀ newest ∈ published.getLast?, newest.1.instant ≤ moment.instant

theorem endsDecide_map {written : List FareVersion} {moment : DateTime} :
    EndsDecide (written.map fun stored => (stored.effectiveFrom, stored.tables)) moment ↔
      ∀ between ∈ written.tail.dropLast, between.effectiveFrom.instant ≤ moment.instant →
        ∀ newest ∈ written.getLast?, newest.effectiveFrom.instant ≤ moment.instant := by
  unfold EndsDecide
  rw [← List.map_tail, ← List.map_dropLast, List.getLast?_map]
  simp only [List.forall_mem_map, Option.mem_def, Option.map_eq_some_iff]
  constructor
  · intro h between hbetween hforce newest hnewest
    exact h between hbetween hforce _ ⟨newest, hnewest, rfl⟩
  · rintro h between hbetween hforce _ ⟨newest, hnewest, rfl⟩
    exact h between hbetween hforce newest hnewest

variable (number) (fromisoformat)

/-- Version numbers rise, what is resolved is checked and never in force early. The answer
for a moment is that of the whole history exactly where the first and the newest update
decide, and a later update that comes into force after the moment leaves the answer as it
was exactly where it does not push out a version that counts. -/
theorem fare_history (calls : List FareUpdate) :
    let history := fareHistory number fromisoformat calls
    let published := calls.filterMap (FareUpdate.published number fromisoformat)
    (history.written.Pairwise fun earlier later => earlier.version < later.version) ∧
    (∀ moment, validateTables number (resolveTables number history.row moment).tables = .ok () ∧
      ∀ effective, (resolveTables number history.row moment).effectiveFrom = some effective →
        effective.instant ≤ moment.instant) ∧
    (∀ moment, resolveTables number history.row moment =
        answer (activeVersion history.written moment.instant) ↔ EndsDecide published moment) ∧
    ∀ moment call effective tables,
      call.published number fromisoformat = some (effective, tables) →
      moment.instant < effective.instant →
      (resolveTables number (fareHistory number fromisoformat (calls ++ [call])).row moment =
          resolveTables number history.row moment ↔
        (2 ≤ published.length →
          ∀ newest ∈ published.getLast?, moment.instant < newest.1.instant)) := by
  intro history published
  have hrecorded : Recorded number history := Recorded.fareHistory calls
  have hpublished : history.written.map (fun stored => (stored.effectiveFrom, stored.tables)) =
      published := map_written calls
  refine ⟨hrecorded.rising, ?_, ?_, ?_⟩
  · exact hrecorded.resolveTables_valid
  · intro moment
    rw [hrecorded.resolveTables_iff, ← hpublished, endsDecide_map]
  · intro moment call effective tables hcall hlater
    have hnext : fareHistory number fromisoformat (calls ++ [call]) =
        history.next number fromisoformat call := by
      simp [history, fareHistory, List.foldl_append]
    rw [hnext, hrecorded.resolveTables_next_iff hcall hlater, ← hpublished, List.length_map,
      List.getLast?_map]
    constructor
    · intro hkeeps htwo newest hnewest
      obtain ⟨last, hlast, rfl⟩ := Option.map_eq_some_iff.mp hnewest
      exact hkeeps htwo last hlast
    · intro hkeeps htwo last hlast
      exact hkeeps htwo _ (Option.map_eq_some_iff.mpr ⟨last, hlast, rfl⟩)

/-- Tables are in force from 0 and others from 10. Once a third version is staged for 100
the fare at 50 is that of the first version again. -/
theorem staged_update_reverts_fare :
    ¬ ∀ (calls : List FareUpdate) (moment : DateTime),
      resolveTables (fun _ => none)
          (fareHistory (fun _ => none) (fun _ => none) calls).row moment =
        answer (activeVersion (fareHistory (fun _ => none) (fun _ => none) calls).written
          moment.instant) := by
  intro h
  let call (wall : ℤ) : FareUpdate :=
    ⟨defaultTables, 1, .datetime ⟨wall, some 0⟩, ⟨0, some 0⟩, true⟩
  have hversion := congrArg ResolvedTables.version (h [call 0, call 10, call 100] ⟨50, some 0⟩)
  have hfound : (resolveTables (fun _ => none) (fareHistory (fun _ => none) (fun _ => none)
      [call 0, call 10, call 100]).row ⟨50, some 0⟩).version = 1 := by decide +kernel
  have hactive : (answer (activeVersion (fareHistory (fun _ => none) (fun _ => none)
      [call 0, call 10, call 100]).written 50)).version = 2 := by decide +kernel
  rw [hfound] at hversion
  exact absurd (hversion.trans hactive) (by decide)

end History

end Afcon360.Transport
