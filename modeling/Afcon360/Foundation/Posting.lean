import Mathlib.Algebra.BigOperators.Ring.List
import Mathlib.Data.List.Nodup
import Mathlib.Tactic.Abel

/-!
# Signed postings

A posting moves a signed amount of one currency on one account: a credit is
positive, a debit negative. A journal is a list of postings. Balances are sums
over the journal, so a journal that grows by some postings changes each balance
by exactly those postings.

`sum_balance_eq_total` adds the balances of all accounts up: what the accounts
hold together changes only by the net amount of what is posted, and a balanced
batch leaves it alone.
-/

namespace Foundation

universe u v

/-- A signed amount of a currency on an account. -/
structure Posting (α : Type u) (κ : Type v) where
  account : α
  currency : κ
  amount : ℤ
  deriving DecidableEq

namespace Posting

variable {α : Type u} {κ : Type v} [DecidableEq α] [DecidableEq κ]
variable {journal batch : List (Posting α κ)} {account : α} {currency : κ}

/-- What an account holds of a currency. -/
def balance (journal : List (Posting α κ)) (account : α) (currency : κ) : ℤ :=
  (journal.map (fun p => if p.account = account ∧ p.currency = currency then p.amount else 0)).sum

omit [DecidableEq α] in
/-- What is held of a currency on all accounts together. -/
def total (journal : List (Posting α κ)) (currency : κ) : ℤ :=
  (journal.map (fun p => if p.currency = currency then p.amount else 0)).sum

@[simp] theorem balance_nil : balance ([] : List (Posting α κ)) account currency = 0 := rfl

@[simp] theorem balance_cons (p : Posting α κ) :
    balance (p :: journal) account currency =
      (if p.account = account ∧ p.currency = currency then p.amount else 0) +
        balance journal account currency := by
  simp [balance]

theorem balance_append :
    balance (journal ++ batch) account currency =
      balance journal account currency + balance batch account currency := by
  simp [balance]

omit [DecidableEq α] in
theorem total_append :
    total (journal ++ batch) currency = total journal currency + total batch currency := by
  simp [total]

omit [DecidableEq α] in
@[simp] theorem total_cons (p : Posting α κ) :
    total (p :: journal) currency =
      (if p.currency = currency then p.amount else 0) + total journal currency := by
  simp [total]

omit [DecidableEq α] in
@[simp] theorem total_nil : total ([] : List (Posting α κ)) currency = 0 := rfl

/-- A list of accounts without repetitions picks each posting at most once. -/
private theorem sum_pick {accounts : List α} (nodup : accounts.Nodup) (p : Posting α κ) :
    (accounts.map
        (fun a => if p.account = a ∧ p.currency = currency then p.amount else 0)).sum =
      if p.account ∈ accounts ∧ p.currency = currency then p.amount else 0 := by
  induction accounts with
  | nil => simp
  | cons a rest ih =>
    obtain ⟨fresh, nodup⟩ := List.nodup_cons.mp nodup
    rw [List.map_cons, List.sum_cons, ih nodup]
    by_cases ha : p.account = a
    · subst ha
      simp [fresh]
    · simp [ha]

/-- The balances of all accounts of a journal add up to its total. -/
theorem sum_balance_eq_total {accounts : List α} (nodup : accounts.Nodup)
    (covers : ∀ p ∈ journal, p.account ∈ accounts) (currency : κ) :
    (accounts.map (fun a => balance journal a currency)).sum = total journal currency := by
  induction journal with
  | nil => simp
  | cons p rest ih =>
    have hp : p.account ∈ accounts := covers p (by simp)
    have hrest := ih (fun q hq => covers q (List.mem_cons_of_mem _ hq))
    simp only [balance_cons, total_cons, List.sum_map_add, sum_pick nodup, hrest, hp, true_and]

end Posting

end Foundation
