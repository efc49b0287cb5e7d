import Afcon360.Notifications.WebhookRuns

/-!
# What a subscriber can rely on

The careful runs of the dispatcher, and two runs that are not careful.
-/

namespace Afcon360.Notifications

open Foundation

namespace Webhooks

variable {s t : Webhooks} {a : WebhookAct} {labels : List WebhookAct} {deliveryId : ℕ}
  {row : WebhookDelivery}

theorem kept_step (h : Kept s) (hguard : s.Careful a) (hstep : Step s a t) : Kept t := by
  unfold Step at hstep
  cases a with
  | subscribe maxAttempts =>
    cases hstep
    exact kept_subscribe h (of_decide_eq_true hguard)
  | enqueue subscriptionId =>
    obtain ⟨subscription, hrow, rfl⟩ := Option.map_eq_some_iff.mp hstep
    exact kept_enqueue h hrow
  | runOnce limit batch =>
    obtain ⟨hdue, ⟨⟩⟩ := Option.ite_none_right_eq_some.mp hstep
    refine kept_runOnce h hdue ?_
    intro entry hentry
    exact of_decide_eq_true (List.all_eq_true.mp hguard entry hentry)
  | deliver place reply =>
    simp only [next] at hstep
    split at hstep
    · rename_i session hcall
      obtain ⟨⟨after, events⟩, hdeliver, rfl⟩ := Option.map_eq_some_iff.mp hstep
      simp only [Careful, careful, hcall, Option.all_some, decide_eq_true_eq] at hguard
      exact kept_deliver h hcall hguard hdeliver
    · cases hstep
  | finish place =>
    simp only [next] at hstep
    split at hstep
    · rename_i session hcall
      obtain ⟨-, ⟨⟩⟩ := Option.ite_none_right_eq_some.mp hstep
      exact kept_finish h hcall
    · cases hstep
  | die place =>
    simp only [next] at hstep
    split at hstep
    · rename_i session hcall
      cases hstep
      simp only [Careful, careful, hcall, Option.all_some, decide_eq_true_eq] at hguard
      exact kept_die h hcall hguard
    · cases hstep
  | replay deliveryId =>
    obtain ⟨row, hrow, rfl⟩ := Option.map_eq_some_iff.mp hstep
    refine kept_admins h s.now _ ?_
    intro other copy hmem
    obtain hold | hnew := List.mem_append.mp hmem
    · exact h.replaying other copy hold
    · cases List.mem_singleton.mp hnew
      exact ⟨s.now, rfl⟩
  | setStatus subscriptionId status =>
    obtain ⟨row, hrow, rfl⟩ := Option.map_eq_some_iff.mp hstep
    refine kept_admins h s.now _ ?_
    intro other copy hmem
    obtain hold | hnew := List.mem_append.mp hmem
    · exact h.replaying other copy hold
    · cases List.mem_singleton.mp hnew
  | adminCommit place =>
    have hdone : ∀ deliveryId copy, .replaying deliveryId copy ∈ s.admins.set place .done →
        ∃ now, copy.value = copy.loaded.replayed now := by
      intro other copy hmem
      obtain hold | hnew := List.mem_or_eq_of_mem_set hmem
      · exact h.replaying other copy hold
      · cases hnew
    simp only [next] at hstep
    split at hstep
    · rename_i deliveryId copy hcall
      cases hstep
      simp only [Careful, careful, hcall, Option.all_some, decide_eq_true_eq] at hguard
      have hvalue := h.replaying deliveryId copy (List.mem_of_getElem? hcall)
      exact kept_admins (kept_replay h hvalue hguard.1 hguard.2) s.now _ hdone
    · rename_i subscriptionId copy hcall
      cases hstep
      simp only [Careful, careful, hcall, Option.all_some, decide_eq_true_eq] at hguard
      exact kept_admins (kept_setStatus h hguard) s.now _ hdone
    · cases hstep
  | tick microseconds =>
    cases hstep
    exact kept_admins h _ s.admins h.replaying

/-! ## A delivered row -/

/-- The row is delivered and has not been requested or replayed since. -/
structure Settled (deliveryId requested replayed : ℕ) (t : Webhooks) : Prop where
  delivered : ∃ row, t.deliveries[deliveryId]? = some row ∧ row.status = .delivered
  requests : requests deliveryId t.log = requested
  replays : replays deliveryId t.log = replayed

theorem not_held_of_delivered (h : Kept s) (hrow : s.deliveries[deliveryId]? = some row)
    (hstatus : row.status = .delivered) : deliveryId ∉ s.held := by
  have hsettled : row.unsettled = false := by simp [WebhookDelivery.unsettled, hstatus]
  intro hmem
  obtain ⟨call, hcall, hheld⟩ := List.mem_flatMap.mp hmem
  cases call with
  | delivering session =>
    obtain hwritten | htodo := List.mem_append.mp hheld
    · obtain ⟨entry, hentry, rfl⟩ := List.mem_map.mp hwritten
      have outcome := h.written session hcall entry hentry
      obtain rfl := Option.some.inj (hrow.symm.trans outcome.loaded)
      exact absurd outcome.unsettled (by simp [hsettled])
    · obtain ⟨entry, hentry, rfl⟩ := List.mem_map.mp htodo
      obtain ⟨hstored, hunsettled⟩ := h.todo session hcall entry hentry
      cases hrow.symm.trans hstored
      exact absurd hunsettled (by simp [hsettled])
  | returned => cases hheld
  | died => cases hheld

/-- A step leaves a delivered row as it is, or is the commit of its replay. -/
theorem settled_step {requested replayed : ℕ} (h : Kept s)
    (hsettled : Settled deliveryId requested replayed s) (hstep : Step s a t) :
    Settled deliveryId requested replayed t ∨ replayed < replays deliveryId t.log := by
  obtain ⟨⟨row, hrow, hstatus⟩, hrequests, hreplays⟩ := hsettled
  have hfree := not_held_of_delivered h hrow hstatus
  unfold Step at hstep
  cases a with
  | subscribe maxAttempts =>
    cases hstep
    exact .inl ⟨⟨row, hrow, hstatus⟩, hrequests, hreplays⟩
  | enqueue subscriptionId =>
    obtain ⟨subscription, -, rfl⟩ := Option.map_eq_some_iff.mp hstep
    refine .inl ⟨⟨row, ?_, hstatus⟩, hrequests, hreplays⟩
    rw [List.getElem?_append_left (List.getElem?_eq_some_iff.mp hrow).1]
    exact hrow
  | runOnce limit batch =>
    obtain ⟨-, ⟨⟩⟩ := Option.ite_none_right_eq_some.mp hstep
    exact .inl ⟨⟨row, hrow, hstatus⟩, hrequests, hreplays⟩
  | deliver place reply =>
    simp only [next] at hstep
    split at hstep
    · rename_i session hcall
      obtain ⟨⟨after, events⟩, hdeliver, rfl⟩ := Option.map_eq_some_iff.mp hstep
      obtain ⟨other, copy, hafter⟩ := deliver_spec h hcall hdeliver
      have hne : deliveryId ≠ other := by
        rintro rfl
        refine hfree (mem_held (List.mem_of_getElem? hcall) (List.mem_append_right _ ?_))
        rw [hafter.todo]
        exact List.mem_cons_self
      exact .inl ⟨⟨row, hrow, hstatus⟩, (hafter.others _ hne).1.trans hrequests,
        (hafter.replays _).trans hreplays⟩
    · cases hstep
  | finish place =>
    simp only [next] at hstep
    split at hstep
    · rename_i session hcall
      obtain ⟨-, ⟨⟩⟩ := Option.ite_none_right_eq_some.mp hstep
      have hnot : deliveryId ∉ session.written.map Prod.fst :=
        fun hmem => hfree (mem_held_of_written (List.mem_of_getElem? hcall) hmem)
      exact .inl ⟨⟨row, (flushAll_other hnot).trans hrow, hstatus⟩, hrequests, hreplays⟩
    · cases hstep
  | die place =>
    simp only [next] at hstep
    split at hstep
    · cases hstep
      exact .inl ⟨⟨row, hrow, hstatus⟩, hrequests, hreplays⟩
    · cases hstep
  | replay other =>
    obtain ⟨found, -, rfl⟩ := Option.map_eq_some_iff.mp hstep
    exact .inl ⟨⟨row, hrow, hstatus⟩, hrequests, hreplays⟩
  | setStatus subscriptionId status =>
    obtain ⟨found, -, rfl⟩ := Option.map_eq_some_iff.mp hstep
    exact .inl ⟨⟨row, hrow, hstatus⟩, hrequests, hreplays⟩
  | adminCommit place =>
    simp only [next] at hstep
    split at hstep
    · rename_i other copy hcall
      cases hstep
      by_cases heq : other = deliveryId
      · subst heq
        right
        rw [replays_replayed, hreplays]
        exact Nat.lt_succ_self _
      · refine .inl ⟨⟨row, ?_, hstatus⟩, (requests_replayed_of_ne heq).trans hrequests,
          (replays_replayed_of_ne heq).trans hreplays⟩
        exact (List.getElem?_modify_ne _ _ heq).trans hrow
    · cases hstep
      exact .inl ⟨⟨row, hrow, hstatus⟩, hrequests, hreplays⟩
    · cases hstep
  | tick microseconds =>
    cases hstep
    exact .inl ⟨⟨row, hrow, hstatus⟩, hrequests, hreplays⟩

theorem replays_mono (hstep : Step s a t) :
    replays deliveryId s.log ≤ replays deliveryId t.log := by
  have hsuffix : s.log <:+ t.log := by
    unfold Step at hstep
    cases a with
    | deliver place reply =>
      simp only [next] at hstep
      split at hstep
      · obtain ⟨found, -, rfl⟩ := Option.map_eq_some_iff.mp hstep
        exact List.suffix_append _ _
      · cases hstep
    | adminCommit place =>
      simp only [next] at hstep
      split at hstep
      · cases hstep
        exact List.suffix_cons _ _
      · cases hstep
        exact List.suffix_refl _
      · cases hstep
    | subscribe maxAttempts => exact Option.some.inj hstep ▸ List.suffix_refl _
    | enqueue subscriptionId =>
      obtain ⟨found, -, rfl⟩ := Option.map_eq_some_iff.mp hstep
      exact List.suffix_refl _
    | runOnce limit batch =>
      obtain ⟨-, ⟨⟩⟩ := Option.ite_none_right_eq_some.mp hstep
      exact List.suffix_refl _
    | finish place =>
      simp only [next] at hstep
      split at hstep
      · obtain ⟨-, ⟨⟩⟩ := Option.ite_none_right_eq_some.mp hstep
        exact List.suffix_refl _
      · cases hstep
    | die place =>
      simp only [next] at hstep
      split at hstep
      · exact Option.some.inj hstep ▸ List.suffix_refl _
      · cases hstep
    | replay other =>
      obtain ⟨found, -, rfl⟩ := Option.map_eq_some_iff.mp hstep
      exact List.suffix_refl _
    | setStatus subscriptionId status =>
      obtain ⟨found, -, rfl⟩ := Option.map_eq_some_iff.mp hstep
      exact List.suffix_refl _
    | tick microseconds => exact Option.some.inj hstep ▸ List.suffix_refl _
  exact hsuffix.sublist.count_le _

/-! ## Careful runs -/

theorem kept_run (h : Kept s) (run : Run (Guarded Careful Step) s labels t) : Kept t :=
  run.invariant Kept (fun _ _ _ hkept hstep => kept_step hkept hstep.1 hstep.2) h

/-- A delivered row stays delivered, and is not requested, until it is replayed. -/
theorem settled_run {requested replayed : ℕ} (h : Kept s)
    (hsettled : Settled deliveryId requested replayed s)
    (run : Run (Guarded Careful Step) s labels t) :
    Settled deliveryId requested replayed t ∨ replayed < replays deliveryId t.log := by
  refine (run.invariant (fun t => Kept t ∧
    (Settled deliveryId requested replayed t ∨ replayed < replays deliveryId t.log)) ?_
    ⟨h, .inl hsettled⟩).2
  rintro s a t ⟨hkept, hstate⟩ ⟨hguard, hstep⟩
  refine ⟨kept_step hkept hguard hstep, ?_⟩
  obtain hsettled | hreplayed := hstate
  · exact settled_step hkept hsettled hstep
  · exact .inr (Nat.lt_of_lt_of_le hreplayed (replays_mono hstep))

/-- In a run whose steps are careful, a delivery is requested at most as often as its limit
says between two replays. It is delivered only if it was answered since its last replay, and
then stays delivered, without a further request, until it is replayed. No request is made for
a suspended subscription or an answered delivery. -/
theorem webhook_deliveries {before after : List WebhookAct}
    (first : Run (Guarded Careful Step) {} before s)
    (rest : Run (Guarded Careful Step) s after t) :
    SoundLog s.log ∧
      ∀ deliveryId row, s.deliveries[deliveryId]? = some row →
        (requests deliveryId s.log : ℤ) ≤ row.attemptLimit ∧
        (row.status = .delivered →
          answered deliveryId s.log = true ∧
          (replays deliveryId t.log = replays deliveryId s.log →
            (∃ row', t.deliveries[deliveryId]? = some row' ∧ row'.status = .delivered) ∧
              requests deliveryId t.log = requests deliveryId s.log)) := by
  have hkept := kept_run kept_init first
  refine ⟨hkept.sound, ?_⟩
  intro deliveryId row hrow
  constructor
  · obtain hgood | ⟨session, hcall, hmem⟩ := hkept.settled deliveryId row hrow
    · rw [← hgood.attempts]
      exact hgood.within
    · obtain ⟨entry, hentry, rfl⟩ := List.mem_map.mp hmem
      have outcome := hkept.written session hcall entry hentry
      obtain rfl := Option.some.inj (hrow.symm.trans outcome.loaded)
      have hlimit : entry.2.value.attemptLimit = entry.2.loaded.attemptLimit :=
        congrArg orSix outcome.limit
      rw [← outcome.good.attempts, ← hlimit]
      exact outcome.good.within
  · intro hstatus
    have hgood := good_of_free hkept hrow (not_held_of_delivered hkept hrow hstatus)
    refine ⟨hgood.answered.mp hstatus, ?_⟩
    intro hreplays
    obtain hsettled | hlt := settled_run hkept ⟨⟨row, hrow, hstatus⟩, rfl, rfl⟩ rest
    · exact ⟨hsettled.delivered, hsettled.requests⟩
    · omega

/-- One delivery that fails once and is then received. -/
def receivedLater : List WebhookAct :=
  [.subscribe 6, .enqueue 0, .runOnce 50 [0], .deliver 0 (.response 503 "busy"), .finish 0,
    .tick 10000000, .runOnce 50 [0], .deliver 1 (.response 200 ""), .finish 1]

theorem webhook_deliveries_received :
    ∃ s, Run (Guarded Careful Step) {} receivedLater s ∧ s.deliveries.length = 1 ∧
      requests 0 s.log = 2 ∧ answered 0 s.log = true ∧ SoundLog s.log := by
  have hrun : (exec (fun s a => if Careful s a then next s a else none) {} receivedLater).any
      (fun s => s.deliveries.length = 1 ∧ s.deliveries.all (·.status = .delivered) ∧
        requests 0 s.log = 2) = true := by
    decide +kernel
  obtain ⟨s, hexec, hs⟩ := (Option.any_eq_true _ _).mp hrun
  simp only [Bool.decide_and, Bool.and_eq_true, decide_eq_true_eq] at hs
  obtain ⟨hlength, hall, hrequests⟩ := hs
  have run : Run (Guarded Careful Step) {} receivedLater s := by
    refine Run.of_exec (fun s a t h => ?_) hexec
    exact Option.ite_none_right_eq_some.mp h
  obtain ⟨hsound, hrows⟩ := webhook_deliveries run (.nil s)
  obtain ⟨row, hrow⟩ : ∃ row, s.deliveries[0]? = some row :=
    ⟨_, List.getElem?_eq_getElem (hlength ▸ Nat.one_pos)⟩
  have hstatus : row.status = .delivered := by
    simpa using List.all_eq_true.mp hall row (List.mem_of_getElem? hrow)
  exact ⟨s, run, hlength, hrequests, ((hrows 0 row hrow).2 hstatus).1, hsound⟩

/-- A delivery that two workers select, of a subscription with one attempt. -/
def selectedTwice : List WebhookAct :=
  [.subscribe 1, .enqueue 0, .runOnce 50 [0], .runOnce 50 [0], .deliver 0 (.response 200 ""),
    .finish 0]

/-- The second worker requests it again, and stores its own outcome over the first. -/
def overwritten : List WebhookAct := [.deliver 1 (.response 500 "error"), .finish 1]

/-- A subscription that is paused with a delivery left. -/
def pausedLate : List WebhookAct :=
  [.subscribe 6, .enqueue 0, .setStatus 0 .paused, .adminCommit 0, .runOnce 50 [0],
    .deliver 0 (.response 200 "")]

theorem delivered_twice_and_lost :
    (∃ s t, Run Step {} selectedTwice s ∧ Run Step s overwritten t ∧
      s.deliveries.map (fun row => (row.status, row.attemptLimit)) = [(.delivered, 1)] ∧
      t.deliveries.map (·.status) = [.deadLetter] ∧ replays 0 t.log = 0 ∧
      requests 0 t.log = 2 ∧ ¬ SoundLog t.log) ∧
    ∃ s, Run Step {} pausedLate s ∧ s.log = [.requested 0 false true] := by
  have htwice : (exec next {} selectedTwice).any (fun s =>
      s.deliveries.map (fun row => (row.status, row.attemptLimit)) = [(.delivered, 1)] ∧
        (exec next s overwritten).any (fun t =>
          t.deliveries.map (·.status) = [.deadLetter] ∧
            t.log = [.requested 0 true false, .requested 0 true true])) = true := by
    decide +kernel
  have hpaused : (exec next {} pausedLate).any
      (fun s => s.log = [.requested 0 false true]) = true := by
    decide +kernel
  obtain ⟨s, hs, hstate⟩ := (Option.any_eq_true _ _).mp htwice
  simp only [Bool.decide_and, Bool.and_eq_true, decide_eq_true_eq, Bool.decide_eq_true] at hstate
  obtain ⟨hdelivered, hrest⟩ := hstate
  obtain ⟨t, ht, hfinal⟩ := (Option.any_eq_true _ _).mp hrest
  simp only [Bool.and_eq_true, decide_eq_true_eq] at hfinal
  obtain ⟨hdead, hlog⟩ := hfinal
  obtain ⟨u, hu, hu'⟩ := (Option.any_eq_true _ _).mp hpaused
  refine ⟨⟨s, t, Run.of_exec (fun _ _ _ h => h) hs, Run.of_exec (fun _ _ _ h => h) ht,
    hdelivered, hdead, ?_, ?_, ?_⟩, u, Run.of_exec (fun _ _ _ h => h) hu, of_decide_eq_true hu'⟩
  · rw [hlog]
    rfl
  · rw [hlog]
    rfl
  · rw [hlog]
    rintro ⟨-, hanswered, -⟩
    cases hanswered

end Webhooks

end Afcon360.Notifications
