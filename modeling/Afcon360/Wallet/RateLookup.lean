import Mathlib.Data.Rat.Defs

/-!
# The rate of a currency pair

`CurrencyService` takes a rate from the table of the configuration, and tries the way over
the dollar when the pair is not in it. The way over the dollar calls the lookup again for
its two legs, which go over the dollar as well when they are not in the table: the leg from
the dollar, or to it, then asks for itself.

Python has no bound on nested calls but its stack. The lookup is given as many frames as
are left of it; a call for which none is left raises a `RecursionError`, and so does the
warning at the end when fewer are left than the logger needs. The result comes with the
number of calls that were nested. `times` is the multiplication of the decimal context.
-/

namespace Afcon360.Wallet

/-- `FX_RATES` of the configuration: for each currency its rates. -/
abbrev RateTable := List (String × List (String × ℚ))

/-- The rate of the pair itself. -/
def RateTable.direct (table : RateTable) (source target : String) : Option ℚ :=
  (table.lookup source).bind (fun rates => rates.lookup target)

/-- The stack is used up. -/
inductive RecursionError
  | maximumDepthExceeded
deriving DecidableEq, Repr

/-- The answer of a call and the number of calls that were nested for it. -/
structure RateCall where
  answer : Except RecursionError (Option ℚ)
  frames : ℕ

/-- No rate, after a warning. -/
def noRate (logFrames stack : ℕ) : Except RecursionError (Option ℚ) :=
  if stack < logFrames then .error .maximumDepthExceeded else .ok none

/-- `if rate_to_usd and rate_from_usd`: a rate of zero counts as none. -/
def crossRate (times : ℚ → ℚ → ℚ) : Option ℚ → Option ℚ → Option ℚ
  | some toUsd, some fromUsd => if toUsd = 0 ∨ fromUsd = 0 then none else some (times toUsd fromUsd)
  | _, _ => none

/-- `_get_rate_from_provider` with `stack` frames left. What is raised on the way over the
dollar is passed over. -/
def getRateFromProvider (times : ℚ → ℚ → ℚ) (logFrames : ℕ) (table : RateTable) :
    ℕ → String → String → RateCall
  | 0, _, _ => ⟨.error .maximumDepthExceeded, 0⟩
  | stack + 1, source, target =>
    if source = target then ⟨.ok (some 1), 1⟩
    else
      match table.direct source target with
      | some rate => ⟨.ok (some rate), 1⟩
      | none =>
        let toUsd := getRateFromProvider times logFrames table stack source "USD"
        match toUsd.answer with
        | .error _ => ⟨noRate logFrames stack, toUsd.frames + 1⟩
        | .ok rateToUsd =>
          let fromUsd := getRateFromProvider times logFrames table stack "USD" target
          ⟨match fromUsd.answer with
            | .error _ => noRate logFrames stack
            | .ok rateFromUsd =>
              match crossRate times rateToUsd rateFromUsd with
              | some rate => .ok (some rate)
              | none => noRate logFrames stack,
            max toUsd.frames fromUsd.frames + 1⟩

/-! ## What the lookup is for -/

/-- The rate of a pair that needs no way round. -/
def RateTable.leg (table : RateTable) (source target : String) : Option ℚ :=
  if source = target then some 1 else table.direct source target

/-- The rate of the pair, else the product of the two legs over the dollar, else none. -/
def RateTable.rate (times : ℚ → ℚ → ℚ) (table : RateTable) (source target : String) : Option ℚ :=
  (table.leg source target).or
    ((table.leg source "USD").bind (fun toUsd =>
      (table.leg "USD" target).map (fun fromUsd => times toUsd fromUsd)))

/-- The lookup comes to its end by itself, after a number of nested calls that does not
depend on the stack, and answers with the rate. -/
def LooksUp (times : ℚ → ℚ → ℚ) (logFrames : ℕ) (table : RateTable) (source target : String) :
    Prop :=
  ∃ bound, ∀ stack,
    (getRateFromProvider times logFrames table stack source target).frames ≤ bound ∧
    (bound + logFrames ≤ stack →
      (getRateFromProvider times logFrames table stack source target).answer =
        .ok (table.rate times source target))

/-- The pair is in the table, or both legs are and neither is zero. -/
def RateTable.Reachable (table : RateTable) (source target : String) : Prop :=
  (table.leg source target).isSome ∨
    ∃ toUsd fromUsd, table.leg source "USD" = some toUsd ∧ table.leg "USD" target = some fromUsd ∧
      toUsd ≠ 0 ∧ fromUsd ≠ 0

section

variable {times : ℚ → ℚ → ℚ} {logFrames : ℕ} {table : RateTable} {source target : String}
  {rate toUsd fromUsd : ℚ} {stack : ℕ}

theorem frames_le (stack : ℕ) (source target : String) :
    (getRateFromProvider times logFrames table stack source target).frames ≤ stack := by
  induction stack generalizing source target with
  | zero => exact le_rfl
  | succ stack ih =>
    have hto := ih source "USD"
    have hfrom := ih "USD" target
    simp only [getRateFromProvider]
    split
    · simp
    split
    · simp
    split
    · simpa using hto
    · simpa using max_le hto hfrom

/-- A pair of the table is answered by one call. -/
theorem getRateFromProvider_leg (h : table.leg source target = some rate) :
    getRateFromProvider times logFrames table (stack + 1) source target =
      ⟨.ok (some rate), 1⟩ := by
  unfold RateTable.leg at h
  simp only [getRateFromProvider]
  split at h
  · rename_i hsame
    rw [if_pos hsame, Option.some.inj h]
  · rename_i hother
    rw [if_neg hother, h]

theorem frames_leg_le (h : table.leg source target = some rate) (stack : ℕ) :
    (getRateFromProvider times logFrames table stack source target).frames ≤ 1 := by
  cases stack with
  | zero => exact Nat.zero_le _
  | succ stack => rw [getRateFromProvider_leg h]

/-- A pair that is not in the table takes the way over the dollar. -/
theorem getRateFromProvider_cross (h : table.leg source target = none) :
    getRateFromProvider times logFrames table (stack + 1) source target =
      (let toUsd := getRateFromProvider times logFrames table stack source "USD"
      match toUsd.answer with
      | .error _ => ⟨noRate logFrames stack, toUsd.frames + 1⟩
      | .ok rateToUsd =>
        let fromUsd := getRateFromProvider times logFrames table stack "USD" target
        ⟨match fromUsd.answer with
          | .error _ => noRate logFrames stack
          | .ok rateFromUsd =>
            match crossRate times rateToUsd rateFromUsd with
            | some rate => .ok (some rate)
            | none => noRate logFrames stack,
          max toUsd.frames fromUsd.frames + 1⟩) := by
  unfold RateTable.leg at h
  split at h
  · cases h
  · rename_i hother
    simp only [getRateFromProvider, if_neg hother, h]

theorem frames_toUsd (h : table.leg source "USD" = none) (stack : ℕ) :
    (getRateFromProvider times logFrames table stack source "USD").frames = stack := by
  induction stack with
  | zero => rfl
  | succ stack ih =>
    have hfrom : (getRateFromProvider times logFrames table stack "USD" "USD").frames ≤ stack :=
      frames_le ..
    rw [getRateFromProvider_cross h]
    dsimp only
    split
    · rw [ih]
    · simp only [ih, max_eq_left hfrom]

theorem frames_fromUsd (h : table.leg "USD" target = none) (stack : ℕ) :
    (getRateFromProvider times logFrames table stack "USD" target).frames = stack := by
  induction stack with
  | zero => rfl
  | succ stack ih =>
    have husd : table.leg "USD" "USD" = some 1 := rfl
    rw [getRateFromProvider_cross h]
    cases stack with
    | zero => rfl
    | succ stack =>
      rw [getRateFromProvider_leg husd]
      dsimp only
      rw [ih]
      omega

/-- A missing leg takes the whole stack. -/
theorem frames_of_missing (h : table.leg source target = none)
    (missing : table.leg source "USD" = none ∨ table.leg "USD" target = none) (stack : ℕ) :
    stack ≤ (getRateFromProvider times logFrames table stack source target).frames := by
  cases stack with
  | zero => exact Nat.zero_le _
  | succ stack =>
    rw [getRateFromProvider_cross h]
    cases hto : table.leg source "USD" with
    | none =>
      have hframes : (getRateFromProvider times logFrames table stack source "USD").frames =
        stack := frames_toUsd hto stack
      dsimp only
      split <;> simp only [hframes] <;> omega
    | some toUsd =>
      have hfrom : (getRateFromProvider times logFrames table stack "USD" target).frames =
          stack := frames_fromUsd (missing.resolve_left (by simp [hto])) stack
      cases stack with
      | zero => exact Nat.le_add_left _ _
      | succ stack =>
        rw [getRateFromProvider_leg hto]
        dsimp only
        rw [hfrom]
        omega

/-- Two legs of the table are multiplied, unless one is zero. -/
theorem answer_of_legs (h : table.leg source target = none)
    (hto : table.leg source "USD" = some toUsd) (hfrom : table.leg "USD" target = some fromUsd) :
    getRateFromProvider times logFrames table (stack + 2) source target =
      ⟨match crossRate times (some toUsd) (some fromUsd) with
        | some rate => .ok (some rate)
        | none => noRate logFrames (stack + 1), 2⟩ := by
  rw [getRateFromProvider_cross h, getRateFromProvider_leg hto, getRateFromProvider_leg hfrom]
  rfl

theorem looksUp_of_leg (h : table.leg source target = some rate) :
    LooksUp times logFrames table source target := by
  refine ⟨1, fun stack => ⟨frames_leg_le h stack, fun hstack => ?_⟩⟩
  obtain ⟨stack, rfl⟩ : ∃ rest, stack = rest + 1 := ⟨stack - 1, by omega⟩
  rw [getRateFromProvider_leg h, RateTable.rate, h, Option.some_or]

theorem looksUp_of_legs (h : table.leg source target = none)
    (hto : table.leg source "USD" = some toUsd) (hfrom : table.leg "USD" target = some fromUsd)
    (hzero : toUsd ≠ 0 ∧ fromUsd ≠ 0) : LooksUp times logFrames table source target := by
  refine ⟨2, fun stack => ⟨?_, fun hstack => ?_⟩⟩
  · match stack with
    | 0 => exact Nat.zero_le _
    | 1 => exact (frames_le 1 source target).trans (by omega)
    | stack + 2 => rw [answer_of_legs h hto hfrom]
  · obtain ⟨stack, rfl⟩ : ∃ rest, stack = rest + 2 := ⟨stack - 2, by omega⟩
    rw [answer_of_legs h hto hfrom, RateTable.rate, h, hto, hfrom]
    simp [crossRate, hzero]

/-- A lookup that ends with the rate has what it needs. -/
theorem LooksUp.reachable (looksUp : LooksUp times logFrames table source target) :
    table.Reachable source target := by
  obtain ⟨bound, hbound⟩ := looksUp
  cases h : table.leg source target with
  | some rate => exact .inl (by simp [h])
  | none =>
    have present : ¬ (table.leg source "USD" = none ∨ table.leg "USD" target = none) := by
      intro missing
      have hframes := (hbound (bound + 1)).1
      have htaken : bound + 1 ≤
          (getRateFromProvider times logFrames table (bound + 1) source target).frames :=
        frames_of_missing h missing (bound + 1)
      omega
    obtain ⟨toUsd, hto⟩ := Option.ne_none_iff_exists'.mp (fun h => present (.inl h))
    obtain ⟨fromUsd, hfrom⟩ := Option.ne_none_iff_exists'.mp (fun h => present (.inr h))
    have hanswer := (hbound (bound + logFrames + 2)).2 (by omega)
    rw [answer_of_legs h hto hfrom, RateTable.rate, h, hto, hfrom] at hanswer
    refine .inr ⟨toUsd, fromUsd, hto, hfrom, ?_⟩
    by_contra hzero
    have hnone : crossRate times (some toUsd) (some fromUsd) = none := by
      simp only [crossRate]
      rw [if_pos]
      by_contra h
      exact hzero (not_or.mp h)
    simp only [hnone, noRate] at hanswer
    split at hanswer <;> simp at hanswer

end

/-- The lookup ends with the rate exactly when the pair is in the table or both legs over
the dollar are, and neither of these is zero. -/
theorem looksUp_iff (times : ℚ → ℚ → ℚ) (logFrames : ℕ) (table : RateTable)
    (source target : String) :
    LooksUp times logFrames table source target ↔ table.Reachable source target := by
  refine ⟨LooksUp.reachable, ?_⟩
  intro reachable
  cases h : table.leg source target with
  | some rate => exact looksUp_of_leg h
  | none =>
    rcases reachable with hsome | ⟨toUsd, fromUsd, hto, hfrom, hzero⟩
    · simp [h] at hsome
    · exact looksUp_of_legs h hto hfrom hzero

/-- Without the dollar in the table a lookup takes any stack whole, and a leg that is zero is
taken for a missing one. -/
theorem lookup_without_dollar :
    ¬ LooksUp (· * ·) 3 [("UGX", [("TZS", 2)])] "UGX" "KES" ∧
    ¬ LooksUp (· * ·) 3 [("UGX", [("USD", 0)]), ("USD", [("KES", 128)])] "UGX" "KES" := by
  constructor
  · rintro ⟨bound, hbound⟩
    have hframes := (hbound (bound + 1)).1
    have htaken := @frames_of_missing (· * ·) 3 [("UGX", [("TZS", 2)])] "UGX" "KES"
      (by decide +kernel) (.inl (by decide +kernel)) (bound + 1)
    omega
  · rintro ⟨bound, hbound⟩
    have hanswer := (hbound (bound + 3 + 2)).2 (by omega)
    rw [@answer_of_legs (· * ·) 3 _ "UGX" "KES" 0 128 (bound + 3) (by decide +kernel)
      (by decide +kernel) (by decide +kernel)] at hanswer
    have hrate : RateTable.rate (· * ·) [("UGX", [("USD", 0)]), ("USD", [("KES", 128)])] "UGX"
        "KES" = some 0 := by decide +kernel
    simp only [hrate, crossRate, noRate, true_or, if_true] at hanswer
    split at hanswer <;> simp at hanswer

end Afcon360.Wallet
