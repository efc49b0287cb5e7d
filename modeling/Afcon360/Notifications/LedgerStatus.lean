import Afcon360.Notifications.Stream

/-!
# The ledger status of an event

One event: the status of its row in `domain_events`, and the records that consumers have of it in
`processed_events`. A dispatch runs consumers one after the other and makes the status from their
results; a replay may delete records before it; the relay marks the event when it commits, which
may be at any time after the event is on the stream.

The statuses that the row had are kept along. Consumers are known by their names.
-/

namespace Afcon360.Notifications.Ledger

open Foundation

/-- `EventStatus` -/
inductive EventStatus
  | pending | published | processing | processed | partly | failed | deadLetter
deriving DecidableEq, Repr

/-- `interested_in` and `already_processed`. -/
inductive Check
  | answered
  /-- The query fails and is taken for no interest. -/
  | blind
  | crashes
deriving DecidableEq, Repr

inductive Process
  | succeeds
  /-- `PermanentConsumerError` -/
  | permanent
  | raises
deriving DecidableEq, Repr

/-- What happens in a call of `handle`. -/
structure Call where
  check : Check := .answered
  process : Process := .succeeds
  /-- The commit of `_record` succeeds. -/
  recorded : Bool := true
deriving DecidableEq, Repr

section

variable {κ : Type} [DecidableEq κ]

/-- `ConsumerRegistry`, and which consumers the event is for. -/
structure Registry (κ : Type) where
  names : List κ
  nodup : names.Nodup
  interestedIn : κ → Bool

abbrev Records (κ : Type) := κ → Option MarkerStatus

structure EventLedger (κ : Type) where
  status : EventStatus := .pending
  /-- The statuses before, the latest first. -/
  past : List EventStatus := []
  records : Records κ := fun _ => none

/-- The registered consumers that the event is for. -/
def Registry.awaited (registry : Registry κ) : List κ :=
  registry.names.filter registry.interestedIn

def Registry.targets (registry : Registry κ) (only : List κ) : List κ :=
  if only = [] then registry.names else registry.names.filter (· ∈ only)

/-- `_record` -/
def record (records : Records κ) (consumer : κ) (status : MarkerStatus) (recorded : Bool) :
    Records κ :=
  if recorded then Function.update records consumer (some status) else records

/-- `BaseConsumer.handle`; the status `error` is given by `dispatch`. -/
def handle (registry : Registry κ) (records : Records κ) (consumer : κ) (call : Call) :
    Records κ × ConsumerStatus :=
  match call.check with
  | .crashes => (records, .error)
  | .blind => (records, .skipped)
  | .answered =>
    if !registry.interestedIn consumer then (records, .skipped)
    else if (records consumer).isSome then (records, .duplicate)
    else
      match call.process with
      | .succeeds => (record records consumer .success call.recorded, .success)
      | .permanent => (record records consumer .deadLetter call.recorded, .deadLetter)
      | .raises => (records, .retry)

/-- The loop of `dispatch`. -/
def handleAll (registry : Registry κ) (calls : κ → Call) (records : Records κ) :
    List κ → Records κ × List ConsumerStatus
  | [] => (records, [])
  | consumer :: rest =>
    let first := handle registry records consumer (calls consumer)
    let later := handleAll registry calls first.1 rest
    (later.1, first.2 :: later.2)

/-- The status that `_update_ledger` makes of the results. -/
def statusOf (results : List ConsumerStatus) : EventStatus :=
  if .retry ∈ results ∨ .error ∈ results then .processing
  else if .deadLetter ∈ results then .partly
  else .processed

namespace EventLedger

def mark (s : EventLedger κ) (status : EventStatus) : EventLedger κ :=
  { s with status := status, past := s.status :: s.past }

/-- `dispatch`; an empty `only` is none. `stored` tells that the ledger's commit succeeds. -/
def dispatch (registry : Registry κ) (s : EventLedger κ) (only : List κ) (calls : κ → Call)
    (stored : Bool) : EventLedger κ :=
  let handled := handleAll registry calls s.records (registry.targets only)
  let s := { s with records := handled.1 }
  if stored then s.mark (statusOf handled.2) else s

/-- `_reset` -/
def reset (s : EventLedger κ) (consumers : List κ) : EventLedger κ :=
  { s with records := fun consumer => if consumer ∈ consumers then none else s.records consumer }

end EventLedger

/-- How a row leaves `publish_row`. -/
inductive Relayed
  | published
  /-- Its envelope is malformed, or it has no attempts left. -/
  | exhausted
  | failed
deriving DecidableEq, Repr

inductive Act (κ : Type)
  /-- The commit of the relay. -/
  | relay (relayed : Relayed)
  | dispatch (only : List κ) (calls : κ → Call) (stored : Bool)
  /-- `EventReplayer.replay`; `reset` tells that records are deleted, and that it succeeds. -/
  | replay (only : List κ) (reset : Bool) (calls : κ → Call) (stored : Bool)

/-- The ledger as `dispatch` finds it in a replay. -/
def EventLedger.prepare (s : EventLedger κ) (only : List κ) (reset : Bool) : EventLedger κ :=
  if reset ∧ only ≠ [] then s.reset only else s

def next (registry : Registry κ) (s : EventLedger κ) : Act κ → EventLedger κ
  | .relay .published => s.mark .published
  | .relay .exhausted => s.mark .deadLetter
  | .relay .failed => s
  | .dispatch only calls stored => s.dispatch registry only calls stored
  | .replay only reset calls stored =>
    (s.prepare only reset).dispatch registry only calls stored

end

/-! ## What the status promises -/

section

variable {κ : Type} {registry : Registry κ} {s : EventLedger κ}

/-- No consumer is outstanding, and one has a dead letter. -/
def EventLedger.DeadLettered (registry : Registry κ) (s : EventLedger κ) : Prop :=
  (∀ consumer ∈ registry.awaited, (s.records consumer).isSome = true) ∧
    ∃ consumer ∈ registry.awaited, s.records consumer = some .deadLetter

/-- The event was processed, or partly so, before or now. -/
def EventLedger.Settled (s : EventLedger κ) : Prop :=
  .processed ∈ s.status :: s.past ∨ .partly ∈ s.status :: s.past

structure Truthful (registry : Registry κ) (s : EventLedger κ) : Prop where
  processed : s.status = .processed →
    ∀ consumer ∈ registry.awaited, s.records consumer = some .success
  partly : s.DeadLettered registry → s.status = .partly
  onward : s.status = .published ∨ s.status = .pending → ¬s.Settled

theorem truthful_init : Truthful registry {} where
  processed h := by cases h
  partly h := by
    obtain ⟨consumer, -, hletter⟩ := h.2
    cases hletter
  onward _ h := by simp [EventLedger.Settled] at h

end

/-! ## The condition -/

section

variable {κ : Type} [DecidableEq κ] {registry : Registry κ} {records : Records κ} {only : List κ}
  {consumer : κ}

/-- The dispatch runs the consumer's `process`, or crashes before. -/
def Runs (registry : Registry κ) (records : Records κ) (only : List κ) (consumer : κ) : Prop :=
  consumer ∈ registry.targets only ∧ registry.interestedIn consumer = true ∧
    records consumer = none

/-- The ledger's commit succeeds. No call crashes for a consumer that has a record or no interest.
And either one that has none fails, or all of them succeed, with their records stored, and the
others that are awaited have succeeded before. -/
structure Conclusive (registry : Registry κ) (records : Records κ) (only : List κ)
    (calls : κ → Call) (stored : Bool) : Prop where
  stored : stored = true
  crashes : ∀ consumer ∈ registry.targets only, (calls consumer).check = .crashes →
    Runs registry records only consumer
  complete :
    (∃ consumer, Runs registry records only consumer ∧ (calls consumer).check ≠ .blind ∧
      ((calls consumer).check = .crashes ∨ (calls consumer).process ≠ .succeeds)) ∨
    ∀ consumer ∈ registry.awaited,
      records consumer = some .success ∨
        Runs registry records only consumer ∧ calls consumer = {}

instance : Decidable (Runs registry records only consumer) :=
  inferInstanceAs (Decidable (_ ∧ _ ∧ _))

def Meets (registry : Registry κ) (s : EventLedger κ) : Act κ → Prop
  | .relay .published => ¬s.Settled
  | .relay .exhausted => ¬s.DeadLettered registry
  | .relay .failed => True
  | .dispatch only calls stored => Conclusive registry s.records only calls stored
  | .replay only reset calls stored =>
    Conclusive registry (s.prepare only reset).records only calls stored

end

/-! ## A call -/

section

variable {κ : Type} {registry : Registry κ} {consumer : κ} {call : Call}
  {had : Option MarkerStatus}

/-- What a call does, given the record that its consumer has. -/
def answer (registry : Registry κ) (had : Option MarkerStatus) (consumer : κ) (call : Call) :
    Option MarkerStatus × ConsumerStatus :=
  match call.check with
  | .crashes => (had, .error)
  | .blind => (had, .skipped)
  | .answered =>
    if !registry.interestedIn consumer then (had, .skipped)
    else
      match had with
      | some status => (some status, .duplicate)
      | none =>
        match call.process with
        | .succeeds => (if call.recorded then some .success else none, .success)
        | .permanent => (if call.recorded then some .deadLetter else none, .deadLetter)
        | .raises => (none, .retry)

theorem answer_error :
    (answer registry had consumer call).2 = .error ↔ call.check = .crashes := by
  unfold answer
  cases call.check with
  | crashes | blind => simp
  | answered =>
    cases registry.interestedIn consumer <;> cases had <;> cases call.process <;> simp

/-- `process` was called and raised. -/
theorem answer_retry :
    (answer registry had consumer call).2 = .retry ↔
      call.check = .answered ∧ registry.interestedIn consumer = true ∧ had = none ∧
        call.process = .raises := by
  unfold answer
  cases call.check with
  | crashes | blind => simp
  | answered =>
    cases registry.interestedIn consumer <;> cases had <;> cases call.process <;> simp

theorem answer_deadLetter :
    (answer registry had consumer call).2 = .deadLetter ↔
      call.check = .answered ∧ registry.interestedIn consumer = true ∧ had = none ∧
        call.process = .permanent := by
  unfold answer
  cases call.check with
  | crashes | blind => simp
  | answered =>
    cases registry.interestedIn consumer <;> cases had <;> cases call.process <;> simp

theorem answer_some (status : MarkerStatus) :
    (answer registry (some status) consumer call).1 = some status := by
  unfold answer
  cases call.check with
  | crashes | blind => rfl
  | answered => cases registry.interestedIn consumer <;> rfl

theorem answer_none (h : call.check = .crashes ∨ call.process = .raises) :
    (answer registry none consumer call).1 = none := by
  unfold answer
  obtain h | h := h
  · rw [h]
  · rw [h]
    cases call.check with
    | crashes | blind => rfl
    | answered => cases registry.interestedIn consumer <;> rfl

end

/-! ## A dispatch -/

section

variable {κ : Type} [DecidableEq κ] {registry : Registry κ} {records : Records κ} {only : List κ}
  {calls : κ → Call} {consumer : κ} {call : Call} {stored : Bool} {s : EventLedger κ}

theorem record_of_none {status : MarkerStatus} {recorded : Bool} (h : records consumer = none) :
    record records consumer status recorded =
      Function.update records consumer (if recorded then some status else none) := by
  cases recorded with
  | true => rfl
  | false => exact (Function.update_eq_self_iff.mpr h.symm).symm

theorem handle_eq : handle registry records consumer call =
    (Function.update records consumer (answer registry (records consumer) consumer call).1,
      (answer registry (records consumer) consumer call).2) := by
  have hsame : Function.update records consumer (records consumer) = records :=
    Function.update_eq_self _ _
  unfold handle answer
  cases call.check with
  | crashes | blind => simp only [hsame]
  | answered =>
    by_cases hinterested : registry.interestedIn consumer = true
    · cases hrecord : records consumer with
      | some status =>
        rw [hrecord] at hsame
        simp [hinterested, hsame]
      | none =>
        rw [hrecord] at hsame
        cases call.process <;> simp [hinterested, record_of_none hrecord, hsame]
    · simp [hinterested]

/-- The loop calls each consumer with the record that it had. -/
theorem handleAll_spec (registry : Registry κ) (calls : κ → Call) (records : Records κ)
    {consumers : List κ} (hnodup : consumers.Nodup) :
    (∀ consumer, (handleAll registry calls records consumers).1 consumer =
      if consumer ∈ consumers then
        (answer registry (records consumer) consumer (calls consumer)).1
      else records consumer) ∧
    ∀ status, status ∈ (handleAll registry calls records consumers).2 ↔
      ∃ consumer ∈ consumers,
        (answer registry (records consumer) consumer (calls consumer)).2 = status := by
  induction consumers generalizing records with
  | nil => simp [handleAll]
  | cons first rest ih =>
    obtain ⟨hfirst, hrest⟩ := List.nodup_cons.mp hnodup
    have hlater := ih (handle registry records first (calls first)).1 hrest
    have hsame : ∀ consumer ∈ rest,
        (handle registry records first (calls first)).1 consumer = records consumer := by
      intro consumer hconsumer
      have hne : consumer ≠ first := fun heq => hfirst (heq ▸ hconsumer)
      rw [handle_eq]
      exact Function.update_of_ne hne _ _
    constructor
    · intro consumer
      rw [handleAll]
      simp only [hlater.1 consumer]
      by_cases hin : consumer ∈ rest
      · simp [hin, hsame consumer hin]
      · by_cases heq : consumer = first
        · subst heq
          simp [hin, handle_eq]
        · simp [hin, heq, handle_eq]
    · intro status
      rw [handleAll]
      simp only [List.mem_cons, hlater.2 status, exists_eq_or_imp]
      refine or_congr ?_ (exists_congr fun consumer => and_congr_right fun hconsumer => ?_)
      · rw [handle_eq]
        exact eq_comm
      · rw [hsame consumer hconsumer]

theorem Registry.nodup_targets (registry : Registry κ) (only : List κ) :
    (registry.targets only).Nodup := by
  unfold Registry.targets
  split
  · exact registry.nodup
  · exact registry.nodup.filter _

theorem Registry.mem_names_of_targets (h : consumer ∈ registry.targets only) :
    consumer ∈ registry.names := by
  unfold Registry.targets at h
  split at h
  · exact h
  · exact (List.mem_filter.mp h).1

theorem Runs.awaited (h : Runs registry records only consumer) :
    consumer ∈ registry.awaited :=
  List.mem_filter.mpr ⟨Registry.mem_names_of_targets h.1, h.2.1⟩

/-- A consumer that is to be called again is outstanding. -/
theorem Conclusive.outstanding (h : Conclusive registry records only calls stored)
    (hagain : .retry ∈ (handleAll registry calls records (registry.targets only)).2 ∨
      .error ∈ (handleAll registry calls records (registry.targets only)).2) :
    ∃ consumer ∈ registry.awaited,
      (handleAll registry calls records (registry.targets only)).1 consumer = none := by
  obtain ⟨hrecords, hresults⟩ :=
    handleAll_spec registry calls records (registry.nodup_targets only)
  obtain ⟨consumer, hruns, hcall⟩ : ∃ consumer, Runs registry records only consumer ∧
      ((calls consumer).check = .crashes ∨ (calls consumer).process = .raises) := by
    obtain hretry | herror := hagain
    · obtain ⟨consumer, htarget, hanswer⟩ := (hresults .retry).mp hretry
      obtain ⟨-, hinterested, hnone, hraises⟩ := answer_retry.mp hanswer
      exact ⟨consumer, ⟨htarget, hinterested, hnone⟩, .inr hraises⟩
    · obtain ⟨consumer, htarget, hanswer⟩ := (hresults .error).mp herror
      have hcrashes := answer_error.mp hanswer
      exact ⟨consumer, h.crashes consumer htarget hcrashes, .inl hcrashes⟩
  refine ⟨consumer, hruns.awaited, ?_⟩
  rw [hrecords, if_pos hruns.1, hruns.2.2]
  exact answer_none hcall

/-- Either a consumer failed, or all have succeeded. -/
theorem Conclusive.failed_or_succeeded (h : Conclusive registry records only calls stored) :
    (.retry ∈ (handleAll registry calls records (registry.targets only)).2 ∨
      .error ∈ (handleAll registry calls records (registry.targets only)).2 ∨
      .deadLetter ∈ (handleAll registry calls records (registry.targets only)).2) ∨
    ∀ consumer ∈ registry.awaited,
      (handleAll registry calls records (registry.targets only)).1 consumer = some .success := by
  obtain ⟨hrecords, hresults⟩ :=
    handleAll_spec registry calls records (registry.nodup_targets only)
  obtain ⟨consumer, ⟨htarget, hinterested, hnone⟩, hblind, hcall⟩ | hall := h.complete
  · left
    cases hcheck : (calls consumer).check with
    | blind => exact absurd hcheck hblind
    | crashes =>
      exact .inr (.inl ((hresults .error).mpr ⟨consumer, htarget, answer_error.mpr hcheck⟩))
    | answered =>
      cases hprocess : (calls consumer).process with
      | succeeds =>
        obtain hcall | hcall := hcall
        · cases hcheck.symm.trans hcall
        · exact absurd hprocess hcall
      | raises =>
        exact .inl ((hresults .retry).mpr
          ⟨consumer, htarget, answer_retry.mpr ⟨hcheck, hinterested, hnone, hprocess⟩⟩)
      | permanent =>
        exact .inr (.inr ((hresults .deadLetter).mpr
          ⟨consumer, htarget, answer_deadLetter.mpr ⟨hcheck, hinterested, hnone, hprocess⟩⟩))
  · right
    intro consumer hawaited
    rw [hrecords]
    obtain hsuccess | ⟨⟨htarget, hinterested, hnone⟩, hcall⟩ := hall consumer hawaited
    · rw [hsuccess, answer_some, ite_self]
    · rw [if_pos htarget, hnone, hcall]
      simp [answer, hinterested]

theorem truthful_dispatch (h : Conclusive registry s.records only calls stored) :
    Truthful registry (s.dispatch registry only calls stored) := by
  have hstored := h.stored
  subst hstored
  set handled := handleAll registry calls s.records (registry.targets only) with hhandled
  have hafter : s.dispatch registry only calls true =
      { status := statusOf handled.2, past := s.status :: s.past, records := handled.1 } := rfl
  rw [hafter]
  by_cases hagain : .retry ∈ handled.2 ∨ .error ∈ handled.2
  · obtain ⟨consumer, hawaited, hnone⟩ := h.outstanding hagain
    have hstatus : statusOf handled.2 = .processing := if_pos hagain
    refine ⟨fun hprocessed => ?_, fun hdead => ?_, fun hback => ?_⟩
    · cases hstatus.symm.trans hprocessed
    · have hsome : (handled.1 consumer).isSome = true := hdead.1 consumer hawaited
      rw [hhandled, hnone] at hsome
      cases hsome
    · rcases hback with hback | hback <;> cases hstatus.symm.trans hback
  · by_cases hdead : .deadLetter ∈ handled.2
    · have hstatus : statusOf handled.2 = .partly := by rw [statusOf, if_neg hagain, if_pos hdead]
      refine ⟨fun hprocessed => ?_, fun _ => hstatus, fun hback => ?_⟩
      · cases hstatus.symm.trans hprocessed
      · rcases hback with hback | hback <;> cases hstatus.symm.trans hback
    · have hstatus : statusOf handled.2 = .processed := by
        rw [statusOf, if_neg hagain, if_neg hdead]
      have hall : ∀ consumer ∈ registry.awaited, handled.1 consumer = some .success := by
        refine h.failed_or_succeeded.resolve_left ?_
        rintro (hretry | herror | hletter)
        · exact hagain (.inl hretry)
        · exact hagain (.inr herror)
        · exact hdead hletter
      refine ⟨fun _ => hall, fun hletters => ?_, fun hback => ?_⟩
      · obtain ⟨consumer, hawaited, hletter⟩ := hletters.2
        cases (hall consumer hawaited).symm.trans hletter
      · rcases hback with hback | hback <;> cases hstatus.symm.trans hback

/-! ## Runs -/

theorem truthful_next {a : Act κ} (h : Truthful registry s) (hmeets : Meets registry s a) :
    Truthful registry (next registry s a) := by
  cases a with
  | relay relayed =>
    cases relayed with
    | published =>
      refine Truthful.mk (fun hprocessed => ?_) (fun hdead => ?_) fun _ hsettled => ?_
      · cases hprocessed
      · have hpartly := h.partly hdead
        exact absurd (.inr (hpartly ▸ List.mem_cons_self)) hmeets
      · apply hmeets
        simpa [next, EventLedger.mark, EventLedger.Settled] using hsettled
    | exhausted =>
      refine Truthful.mk (fun hprocessed => ?_) (fun hdead => absurd hdead hmeets) fun hback => ?_
      · cases hprocessed
      · rcases hback with hback | hback <;> cases hback
    | failed => exact h
  | dispatch only calls stored => exact truthful_dispatch hmeets
  | replay only reset calls stored => exact truthful_dispatch hmeets

/-- In every run whose steps meet the condition the status of the ledger row is true of the
records, and it does not go back. -/
theorem ledger_truthful (registry : Registry κ) (acts : List (Act κ)) (s : EventLedger κ)
    (hrun : Run (Guarded (Meets registry) fun s a t => next registry s a = t) {} acts s) :
    Truthful registry s := by
  refine hrun.invariant (Truthful registry) ?_ truthful_init
  rintro s a t h ⟨hmeets, rfl⟩
  exact truthful_next h hmeets

end

/-! ## Runs of four consumers -/

def platform : Registry Consumer where
  names := Consumer.all
  nodup := by decide
  interestedIn _ := true

/-- All calls succeed but the one of a consumer. -/
def failing (failed : Consumer) (process : Process) (consumer : Consumer) : Call :=
  if consumer = failed then { process := process } else {}

/-- The webhook consumer is retried after the event was published. -/
def retriedActs : List (Act Consumer) :=
  [.relay .published, .dispatch [] (failing .webhook .raises) true,
    .dispatch [] (fun _ => {}) true]

theorem retried_truthful : Truthful platform (retriedActs.foldl (next platform) {}) ∧
    (retriedActs.foldl (next platform) {}).status = .processed := by
  refine ⟨ledger_truthful platform retriedActs _ ?_, by decide⟩
  refine .cons ⟨by simp [Meets, EventLedger.Settled], rfl⟩ (.cons ⟨⟨rfl, by decide, ?_⟩, rfl⟩
    (.cons ⟨⟨rfl, by decide, ?_⟩, rfl⟩ (.nil _)))
  · exact .inl ⟨.webhook, by decide, by decide, by decide⟩
  · exact .inr (by decide)

/-- A dead letter is a duplicate when the event is delivered again, and the event is processed; a
dispatch to one consumer is enough for it to be processed; and the relay may mark a processed
event as published. -/
theorem redelivered_untruthful :
    ¬Truthful platform (List.foldl (next platform) {}
      [.dispatch [] (failing .audit .permanent) true, .dispatch [] (fun _ => {}) true]) ∧
    ¬Truthful platform (List.foldl (next platform) {}
      [.dispatch [.analytics] (fun _ => {}) true]) ∧
    ¬Truthful platform (List.foldl (next platform) {}
      [.dispatch [] (fun _ => {}) true, .relay .published]) := by
  refine ⟨fun h => ?_, fun h => ?_, fun h => ?_⟩
  · exact absurd (h.processed (by decide) .audit (by decide)) (by decide)
  · exact absurd (h.processed (by decide) .audit (by decide)) (by decide)
  · exact h.onward (.inl rfl) (.inl (by decide))

end Afcon360.Notifications.Ledger
