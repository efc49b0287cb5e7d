import Afcon360.Foundation.Run
import Afcon360.Wallet.AgentFloat

/-!
# Floats over time

The calls of `AgentFloatService` in any order, and the reconciliation of a float with its
ledger. A float, its ledger and the balances the ledger notes down are kept apart, and each
column is rounded to four places on its own. As long as amounts have no more places than the
columns, the three agree.
-/

namespace Afcon360.Wallet

open Foundation

/-- A call of `AgentFloatService`. -/
structure FloatCall where
  isCredit : Bool
  userId : UserId
  currency : Currency
  amount : ℚ
  entryType : FloatEntryType := .adjustment
  reference : Option String := none
  createdBy : Option UserId := none

/-- `agent_float_imbalance`. -/
structure FloatImbalance where
  agentUserId : UserId
  currency : Currency
  ledgerExpected : ℤ
  storedBalance : ℤ
deriving DecidableEq, Repr

namespace FloatBook

/-- The rows of one account. -/
def entriesOf (book : FloatBook) (position : ℕ) : List FloatEntry :=
  book.ledger.filter (fun entry => entry.floatAccountId = position)

/-- The movements of one account, in ten-thousandths. -/
def total (entries : List FloatEntry) : ℤ := (entries.map FloatEntry.amount).sum

/-- `TOLERANCE`, in ten-thousandths. -/
def tolerance : ℤ := 100

/-- `_check_float_balance`. -/
def checkFloatBalance (book : FloatBook) (position : ℕ) (account : FloatAccount) :
    Option FloatImbalance :=
  let expected := total (book.entriesOf position)
  if tolerance < |expected - account.balance| then
    some ⟨account.userId, account.currency, expected, account.balance⟩
  else none

/-- The imbalances that `reconcile_all` reports. -/
def reconcileAll (book : FloatBook) : List FloatImbalance :=
  (book.accounts.rows.zipIdx.filter (fun row => ¬ row.1.isDeleted)).filterMap
    (fun row => book.checkFloatBalance row.2 row.1)

def perform (book : FloatBook) (call : FloatCall) : Except FloatError FloatBook :=
  if call.isCredit then
    book.credit call.userId call.currency call.amount call.entryType call.reference call.createdBy
  else
    book.debit call.userId call.currency call.amount call.entryType call.reference call.createdBy

/-- The book after a call; an error rolls back what the call has written. -/
def after (book : FloatBook) (call : FloatCall) : FloatBook :=
  match book.perform call with
  | .ok written => written
  | .error _ => book

def step (book : FloatBook) (call : FloatCall) (later : FloatBook) : Prop := book.after call = later

/-- The amount has no more places than a column. -/
def OnGrid (_ : FloatBook) (call : FloatCall) : Prop :=
  ∃ steps : ℤ, call.amount = gridValue floatSteps steps

/-- No movement and no balance. -/
def Empty (book : FloatBook) : Prop :=
  book.ledger = [] ∧ ∀ account ∈ book.accounts.rows, account.balance = 0

/-- Every row notes down the sum of the movements up to it. -/
def Running (entries : List FloatEntry) : Prop :=
  ∀ (i : ℕ) entry, entries[i]? = some entry → entry.balanceAfter = total (entries.take (i + 1))

/-- A balance, its ledger and the balances noted down agree. -/
structure Agrees (book : FloatBook) (position : ℕ) (account : FloatAccount) : Prop where
  nonneg : 0 ≤ account.balance
  ledger : account.balance = total (book.entriesOf position)
  running : Running (book.entriesOf position)

structure Balanced (book : FloatBook) : Prop where
  agrees : ∀ position account, book.accounts.get? position = some account →
    book.Agrees position account
  present : ∀ entry ∈ book.ledger, entry.floatAccountId < book.accounts.size

variable {book book' : FloatBook} {position : ℕ} {account : FloatAccount} {amount : ℚ}
  {steps : ℤ} {entryType : FloatEntryType} {reference : Option String} {createdBy : Option UserId}
  {call : FloatCall} {calls : List FloatCall}

variable {currency : Currency} {userId : UserId}

theorem total_append (entries others : List FloatEntry) :
    total (entries ++ others) = total entries + total others := by
  simp [total]

theorem running_append {entries : List FloatEntry} {entry : FloatEntry} (running : Running entries)
    (h : entry.balanceAfter = total (entries ++ [entry])) : Running (entries ++ [entry]) := by
  intro i row hrow
  obtain hold | ⟨rfl, rfl⟩ := getElem?_append_cases hrow
  · have hi : i < entries.length := (List.getElem?_eq_some_iff.mp hold).1
    rw [List.take_append_of_le_length (by omega)]
    exact running i row hold
  · rw [List.take_of_length_le (by simp)]
    exact h

theorem storeBalance?_gridValue {stored : ℤ}
    (h : storeBalance? (gridValue floatSteps steps) = some stored) : stored = steps := by
  unfold storeBalance? at h
  rw [roundHalfUp_gridValue (by decide)] at h
  dsimp only at h
  split at h
  · exact (Option.some.inj h).symm
  · cases h

/-- A movement with no more places than the columns. -/
theorem record_gridValue (hamount : amount = gridValue floatSteps steps)
    (h : book.record position account amount entryType reference createdBy = .ok book') :
    (∀ other, book'.accounts.get? other =
      if position = other then
        (book.accounts.get? other).map (fun row => { row with balance := account.balance + steps })
      else book.accounts.get? other) ∧
    book'.accounts.size = book.accounts.size ∧
    ∃ entry, book'.ledger = book.ledger ++ [entry] ∧ entry.floatAccountId = position ∧
      entry.amount = steps ∧ entry.balanceAfter = account.balance + steps := by
  subst hamount
  simp only [record, ← gridValue_add] at h
  split at h
  · cases h
  · rename_i stored hstored
    obtain rfl := storeBalance?_gridValue hstored
    cases h
    let store : FloatAccount → FloatAccount := fun row =>
      { row with balance := account.balance + steps }
    exact ⟨fun _ => Table.get?_modify store (fun _ => rfl), Table.size_modify store (fun _ => rfl),
      _, rfl, rfl, roundHalfUp_gridValue (by decide), rfl⟩

theorem entriesOf_append {entry : FloatEntry} (h : book'.ledger = book.ledger ++ [entry])
    (other : ℕ) : book'.entriesOf other =
      book.entriesOf other ++ if entry.floatAccountId = other then [entry] else [] := by
  simp only [entriesOf, h, List.filter_append, List.filter_cons, List.filter_nil]
  simp

/-- A movement of an account that has the means keeps the book balanced. -/
theorem Balanced.record (balanced : book.Balanced)
    (hget : book.accounts.get? position = some account)
    (hamount : amount = gridValue floatSteps steps) (hmeans : 0 ≤ account.balance + steps)
    (h : book.record position account amount entryType reference createdBy = .ok book') :
    book'.Balanced := by
  obtain ⟨haccounts, hsize, entry, hledger, hposition, hsteps, hafter⟩ :=
    record_gridValue hamount h
  constructor
  · intro other row hrow
    rw [haccounts] at hrow
    have hentries := entriesOf_append hledger other
    by_cases hother : position = other
    · subst hother
      rw [if_pos rfl, hget, Option.map_some] at hrow
      cases hrow
      rw [if_pos hposition] at hentries
      have agrees := balanced.agrees position account hget
      have htotal : account.balance + steps = total (book.entriesOf position ++ [entry]) := by
        rw [total_append, ← agrees.ledger, ← hsteps]
        simp [total]
      refine ⟨hmeans, ?_, ?_⟩
      · rw [hentries]
        exact htotal
      · rw [hentries]
        exact running_append agrees.running (hafter.trans htotal)
    · rw [if_neg hother] at hrow
      rw [hposition, if_neg hother, List.append_nil] at hentries
      have agrees := balanced.agrees other row hrow
      exact ⟨agrees.nonneg, hentries ▸ agrees.ledger, hentries ▸ agrees.running⟩
  · intro row hrow
    rw [hledger, List.mem_append, List.mem_singleton] at hrow
    rw [hsize]
    obtain hold | rfl := hrow
    · exact balanced.present row hold
    · rw [hposition]
      exact Table.lt_size_of_get? hget

theorem Balanced.getOrCreate (balanced : book.Balanced)
    (h : book.getOrCreate userId currency = .ok (position, account, book')) :
    book'.Balanced ∧ book'.accounts.get? position = some account := by
  unfold FloatBook.getOrCreate at h
  split at h
  · rename_i found row hfound
    cases h
    exact ⟨balanced, (Table.lookup_eq_some_iff.mp (get_eq_some hfound).1).1⟩
  · dsimp only at h
    split at h
    · cases h
    · rename_i accounts hinsert
      cases h
      refine ⟨⟨?_, ?_⟩, by rw [Table.get?_insert hinsert, if_pos rfl]⟩
      · intro other row hrow
        rw [Table.get?_insert hinsert] at hrow
        split at hrow
        · rename_i hother
          cases hrow
          have hnone : book.entriesOf other = [] := by
            rw [entriesOf, List.filter_eq_nil_iff]
            intro entry hentry
            have := balanced.present entry hentry
            simp only [decide_eq_true_eq]
            omega
          refine ⟨le_rfl, ?_, ?_⟩
          · change 0 = total (book.entriesOf other)
            rw [hnone]
            rfl
          · change Running (book.entriesOf other)
            rw [hnone]
            intro i entry hentry
            cases hentry
        · have agrees := balanced.agrees other row hrow
          exact ⟨agrees.nonneg, agrees.ledger, agrees.running⟩
      · intro entry hentry
        have := balanced.present entry hentry
        rw [Table.size_insert hinsert]
        omega

theorem Balanced.credit (balanced : book.Balanced) (hamount : amount = gridValue floatSteps steps)
    (h : book.credit userId currency amount entryType reference createdBy = .ok book') :
    book'.Balanced := by
  obtain ⟨hrequired, h⟩ := check_bind_eq_ok.mp h
  have hnonneg : 0 ≤ amount := require_eq_ok.mp hrequired
  obtain ⟨⟨position, account, opened⟩, hopened, h⟩ := bind_eq_ok.mp h
  obtain ⟨hbalanced, hget⟩ := balanced.getOrCreate hopened
  have hsteps : 0 ≤ steps := by
    rwa [hamount, gridValue_nonneg_iff (by decide)] at hnonneg
  have hbalance := (hbalanced.agrees position account hget).nonneg
  exact hbalanced.record hget hamount (by omega) h

theorem Balanced.debit (balanced : book.Balanced) (hamount : amount = gridValue floatSteps steps)
    (h : book.debit userId currency amount entryType reference createdBy = .ok book') :
    book'.Balanced := by
  obtain ⟨-, h⟩ := check_bind_eq_ok.mp h
  split at h
  · cases h
  · rename_i position account hfound
    obtain ⟨hrequired, h⟩ := check_bind_eq_ok.mp h
    have hmeans : amount ≤ gridValue floatSteps account.balance := require_eq_ok.mp hrequired
    have hget := (Table.lookup_eq_some_iff.mp (get_eq_some hfound).1).1
    have hnegated : -amount = gridValue floatSteps (-steps) := by
      rw [hamount]
      simp [gridValue, neg_div]
    have henough : 0 ≤ account.balance + -steps := by
      rw [hamount, gridValue_le_iff (by decide), gridValue_mul (by decide)] at hmeans
      have : steps ≤ account.balance := by exact_mod_cast hmeans
      omega
    exact balanced.record hget hnegated henough h

theorem Balanced.after (balanced : book.Balanced) (hcall : book.OnGrid call) :
    (book.after call).Balanced := by
  obtain ⟨steps, hamount⟩ := hcall
  unfold FloatBook.after perform
  split
  · rename_i written hwritten
    split at hwritten
    · exact balanced.credit hamount hwritten
    · exact balanced.debit hamount hwritten
  · exact balanced

theorem Empty.balanced (empty : book.Empty) : book.Balanced := by
  have hnone : ∀ position, book.entriesOf position = [] := by
    intro position
    simp [entriesOf, empty.1]
  constructor
  · intro position account hget
    have hzero := empty.2 account (List.mem_of_getElem? hget)
    refine ⟨hzero.ge, ?_, ?_⟩
    · rw [hnone, hzero]
      rfl
    · rw [hnone]
      intro i entry hentry
      cases hentry
  · simp [empty.1]

theorem Balanced.reconcileAll (balanced : book.Balanced) : book.reconcileAll = [] := by
  unfold FloatBook.reconcileAll
  rw [List.filterMap_eq_nil_iff]
  rintro ⟨account, position⟩ hmem
  have hget : book.accounts.get? position = some account :=
    List.mem_zipIdx_iff_getElem?.mp (List.mem_of_mem_filter hmem)
  have agrees := balanced.agrees position account hget
  simp [checkFloatBalance, ← agrees.ledger, tolerance]

/-- From an empty book on, along every run of calls whose amounts have no more than four
places: no balance is negative, each is the sum of its ledger, every row of which notes down
the sum so far, the reconciliation reports nothing, and a call that is refused changes
nothing. -/
theorem floats_of_run {start : FloatBook} (empty : start.Empty)
    (run : Run (Guarded OnGrid step) start calls book) :
    (∀ position account, book.accounts.get? position = some account →
      book.Agrees position account) ∧
    book.reconcileAll = [] ∧
    ∀ call error, book.perform call = .error error → book.after call = book := by
  have balanced : book.Balanced := by
    refine run.invariant Balanced ?_ empty.balanced
    rintro before call _ balanced ⟨hcall, rfl⟩
    exact balanced.after hcall
  refine ⟨balanced.agrees, balanced.reconcileAll, ?_⟩
  intro call error h
  rw [FloatBook.after, h]

/-- A book without accounts. -/
def opened : FloatBook := ⟨⟨[], .nil⟩, []⟩

def topup (amount : ℚ) : FloatCall :=
  { isCredit := true, userId := 7, currency := "UGX", amount, entryType := .topup }

def charge (amount : ℚ) : FloatCall :=
  { isCredit := false, userId := 7, currency := "UGX", amount }

/-- A top-up, a charge and a charge that the float does not cover. -/
theorem floats_of_run_refused :
    let book := ((opened.after (topup 100)).after (charge 30.25)).after (charge 70)
    book.accounts.rows.map FloatAccount.balance = [697500] ∧
    (∀ position account, book.accounts.get? position = some account →
      book.Agrees position account) ∧
    book.reconcileAll = [] ∧
    ∀ call error, book.perform call = .error error → book.after call = book := by
  intro book
  refine ⟨by decide +kernel, ?_⟩
  have hempty : opened.Empty := ⟨rfl, by simp [opened]⟩
  refine floats_of_run hempty
    (.cons ⟨⟨1000000, ?_⟩, rfl⟩ (.cons ⟨⟨302500, ?_⟩, rfl⟩ (.cons ⟨⟨700000, ?_⟩, rfl⟩ (.nil book))))
  all_goals norm_num [topup, charge, gridValue, floatSteps]

/-- Half a place is charged and the float does not change, but its ledger does; two hundred
such charges are an imbalance. -/
theorem floats_drift :
    let once := (opened.after (topup 1)).after (charge 0.00005)
    let often := (List.replicate 200 (charge 0.00005)).foldl after (opened.after (topup 1))
    (once.accounts.rows.map FloatAccount.balance = [10000] ∧
      total (once.entriesOf 0) = 9999) ∧
    often.reconcileAll = [⟨7, "UGX", 9800, 10000⟩] := by
  decide +kernel

end FloatBook

end Afcon360.Wallet
