import Afcon360.Wallet.Idempotency

/-!
# Following one transfer

What the stages of one call do to the rest of the service, whatever the other
workers do in between. A caller that starts a transfer and waits for it learns
from `Outcome` whether the transfer was posted by this call, found posted, or
refused.
-/

namespace Afcon360.Wallet.Service

open Foundation

/-- The worker is in the middle of the call for `request`, and the legs it has
computed are those of the request. -/
def Carries (request : TransferRequest) : Phase → Prop
  | .idle => False
  | .looked _ carried _ => carried = request
  | .checked env carried parties legs | .claimed env carried parties legs _ =>
    carried = request ∧ transferLegs env carried parties = .ok legs

/-- Nothing was committed. -/
def Untouched (s t : Service) : Prop := t.db = s.db ∧ t.posted = s.posted

/-- What one stage of the call for `request` shows, and what it did. -/
inductive Outcome (s t : Service) (i : ℕ) (request : TransferRequest) : Event → Prop
  | progressed {phase : Phase} : Untouched s t → t.workers[i]? = some phase →
      Carries request phase → Outcome s t i request .progressed
  | refused {met : Option (TransactionId × Transaction)} {e : WalletError} : Untouched s t →
      Outcome s t i request (.returned request met (.error e))
  | rolledBack : Untouched s t → Outcome s t i request .rolledBack
  | replayed {met : Option (TransactionId × Transaction)} {receipt : TransferReceipt}
      {record : PostedTransfer} : Untouched s t → record ∈ s.posted →
      record.request.clientRequestId = request.clientRequestId →
      record.id = receipt.transactionId → receipt.alreadyProcessed = true →
      Outcome s t i request (.returned request met (.ok receipt))
  | posted {env : Env} {parties : Parties} {legs : Legs} {receipt : TransferReceipt} :
      (∀ id, t.db.accountById id = s.db.accountById id) →
      t.posted = s.posted ++ [⟨request, parties, legs, receipt.transactionId⟩] →
      PartiesOf s.db request parties → transferLegs env request parties = .ok legs →
      receipt.alreadyProcessed = false →
      Outcome s t i request (.returned request none (.ok receipt))

variable {s t : Service} {i : ℕ} {request : TransferRequest} {event : Event}

theorem step_others {move : Move} (h : s.step (i, move) = some (t, event)) {j : ℕ}
    (hj : j ≠ i) : t.workers[j]? = s.workers[j]? := by
  have hset : ∀ phase, (s.workers.set i phase)[j]? = s.workers[j]? := by
    intro phase
    rw [List.getElem?_set_ne (Ne.symm hj)]
  unfold Service.step at h
  split at h
  · obtain rfl : _ = t := congrArg Prod.fst (Option.some.inj h)
    unfold Service.call
    split
    · rfl
    · split
      · rfl
      · exact hset _
  · obtain rfl : _ = t := congrArg Prod.fst (Option.some.inj h)
    unfold Service.check
    split <;> exact hset _
  · split at h
    · cases h
    · obtain rfl : _ = t := congrArg Prod.fst (Option.some.inj h)
      unfold Service.claim
      split
      · exact hset _
      · split
        · exact hset _
        · split <;> exact hset _
  · obtain rfl : _ = t := congrArg Prod.fst (Option.some.inj h)
    unfold Service.commit
    split <;> exact hset _
  · obtain rfl : _ = t := congrArg Prod.fst (Option.some.inj h)
    exact hset _
  · cases h

/-- A row that matches a request and is completed was posted under its key. -/
theorem Inv.posted_of_match (inv : Inv s) {parties : Parties} {id : TransactionId}
    {existing : Transaction}
    (hfound : s.db.getByClientRequestId request.clientRequestId = some (id, existing))
    (hmatch : transferTermsMatch request parties existing = true)
    (hstatus : existing.status = .completed) :
    ∃ record ∈ s.posted, record.request.clientRequestId = request.clientRequestId ∧
      record.id = id := by
  simp only [transferTermsMatch, decide_eq_true_eq] at hmatch
  exact inv.traced.complete _ _ _ hfound hmatch.1 hstatus

theorem call_outcome (inv : Inv s) {env : Env}
    (h : s.step (i, .call env request) = some (t, event)) :
    Outcome s t i request event := by
  have hidle : s.workers[i]? = some .idle := by
    unfold Service.step at h
    split at h <;> simp_all
  simp only [Service.step, hidle, Option.some.injEq, Service.call] at h
  split at h
  · cases h
    exact .refused ⟨rfl, rfl⟩
  · rename_i parties hparties
    split at h
    · rename_i id existing hfound
      cases h
      unfold transferReplay
      split
      · exact .refused ⟨rfl, rfl⟩
      · rename_i hmatch
        split
        · exact .refused ⟨rfl, rfl⟩
        · rename_i hstatus
          obtain ⟨record, hrecord, hkey, hid⟩ := inv.posted_of_match hfound
            (by simpa using hmatch) (by simpa using hstatus)
          exact .replayed ⟨rfl, rfl⟩ hrecord hkey hid rfl
    · cases h
      have hlooked : (s.goto i (.looked env request parties)).workers[i]? =
          some (.looked env request parties) := by
        simp [Service.goto, (List.getElem?_eq_some_iff.mp hidle).1]
      exact .progressed ⟨rfl, rfl⟩ hlooked rfl

theorem stage_outcome (inv : Inv s) {phase : Phase} (hworker : s.workers[i]? = some phase)
    (hcarries : Carries request phase) {move : Move}
    (h : s.step (i, move) = some (t, event)) : Outcome s t i request event := by
  have hmoved : ∀ next, (s.goto i next).workers[i]? = some next := by
    intro next
    simp [Service.goto, (List.getElem?_eq_some_iff.mp hworker).1]
  simp only [Service.step, hworker] at h
  split at h
  · rename_i heq
    cases heq
    exact absurd hcarries id
  · rename_i env carried parties heq
    cases heq
    obtain rfl : carried = request := hcarries
    simp only [Option.some.injEq, Service.check] at h
    split at h
    · cases h
      exact .refused ⟨rfl, rfl⟩
    · rename_i legs hlegs
      cases h
      exact .progressed ⟨rfl, rfl⟩ (hmoved _) ⟨rfl, (transferChecks_ok hlegs).1⟩
  · rename_i env carried parties legs heq
    cases heq
    obtain ⟨rfl, hlegs⟩ := hcarries
    split at h
    · cases h
    · simp only [Option.some.injEq, Service.claim] at h
      split at h
      · cases h
        exact .refused ⟨rfl, rfl⟩
      · split at h
        · cases h
          exact .progressed ⟨rfl, rfl⟩ (hmoved _) ⟨rfl, hlegs⟩
        · rename_i id existing hfound
          split at h
          · rename_i hstatus
            cases h
            unfold lateReplay
            split
            · rename_i hmatch
              obtain ⟨record, hrecord, hkey, hid⟩ := inv.posted_of_match hfound hmatch hstatus
              exact .replayed ⟨rfl, rfl⟩ hrecord hkey hid rfl
            · exact .refused ⟨rfl, rfl⟩
          · cases h
            exact .progressed ⟨rfl, rfl⟩ (hmoved _) ⟨rfl, hlegs⟩
  · rename_i env carried parties legs row heq
    cases heq
    obtain ⟨rfl, hlegs⟩ := hcarries
    have hclaimed := inv.phases i _ hworker
    simp only [Option.some.injEq, Service.commit] at h
    split at h
    · cases h
      exact .refused ⟨rfl, rfl⟩
    · rename_i booking hbook
      obtain ⟨hposted, posting, -⟩ := claimed_books hclaimed hbook
      cases h
      refine .posted posting.accountById ?_ hclaimed.1 hlegs ?_
      · simp [hposted, transferReceipt]
      · simp [hposted, transferReceipt]
  · cases h
    exact .rolledBack ⟨rfl, rfl⟩
  · cases h

end Afcon360.Wallet.Service
