import Afcon360.Wallet.System

/-!
# Cumulative limits

`KYCLimitService` knows two limits on what an account may spend in a period: the regulatory
limit of the KYC tier, which it enforces, and the effective limit, the smaller of that and
the operational ceiling of the platform, which it shows. The ceiling is enforced by
`WalletService`, apart from the tier.

A period is a string. The check goes by the monthly limit for every period other than the
daily one; the effective limit is defined for the daily and the monthly period only.
-/

namespace Afcon360.Wallet

/-- `LimitExceededError`, of a period. -/
structure VolumeExceeded where
  limitType : String
  currency : Currency
  limit : ℚ
  current : ℚ
deriving DecidableEq, Repr

/-- Why a volume is not allowed. -/
inductive VolumeReason
  | accountNotFound
  | exceeded (period : String) (limit : ℚ) (currency : Currency)
deriving DecidableEq, Repr

/-- The answer of `check_volume_limits`. -/
structure VolumeAnswer where
  allowed : Bool
  reason : Option VolumeReason := none
deriving DecidableEq, Repr

/-- `int(None)`, or a format for a number applied to `None`. -/
inductive PythonTypeError
  | intOfNone
  | formatOfNone
deriving DecidableEq, Repr

/-- The tier of an owner: the KYB level of a live organisation of this number, else the KYC
tier of the user. -/
def Env.kycLevel (env : Env) (userId : UserId) : ℕ :=
  match env.organisationKyb (some userId) with
  | some status => status.kybLevel
  | none => env.kycTier (some userId)

/-- The regulatory limit that is enforced for a period. -/
def Env.regulatoryLimit (env : Env) (userId : UserId) (period : String) : ℚ :=
  let limits := env.tierLimits (env.kycLevel userId)
  if period = "daily" then limits.dailyLimit else limits.monthlyLimit

/-- What was spent in the window of a period. -/
def Env.volume (env : Env) (db : Db) (accountId : AccountId) (currency : Currency)
    (period : String) : ℚ :=
  regulatoryVolume db accountId currency
    (if period = "daily" then dailyWindowStart env else monthlyWindowStart env) env.now

/-- `enforce_cumulative_volume`. -/
def enforceCumulativeVolume (env : Env) (db : Db) (userId : UserId) (accountId : AccountId)
    (amount : ℚ) (currency : Currency) (period : String) : Except VolumeExceeded Unit :=
  let limit := env.regulatoryLimit userId period
  if limit = 0 then .ok ()
  else
    let current := env.volume db accountId currency period
    if withinRegulatoryLimit current amount limit then .ok ()
    else .error ⟨"kyc_" ++ period, currency, limit, current⟩

/-- The operational ceiling of a day; `flask` is the configuration of the application. -/
def dailyCeiling (config : WalletSystemConfig) (flask : String → Option ℚ) (currency : Currency) :
    Option ℚ :=
  match config.maxDailyAmount with
  | some ceiling => some ceiling
  | none => flask (if currency = "USD" then "WALLET_DAILY_LIMIT_HOME" else
      "WALLET_DAILY_LIMIT_LOCAL")

/-- `get_effective_cumulative_limit`. -/
def getEffectiveCumulativeLimit (env : Env) (flask : String → Option ℚ) (userId : UserId)
    (currency : Currency) (period : String) : Option ℚ :=
  let limits := env.tierLimits (env.kycLevel userId)
  if period = "daily" then
    if limits.dailyLimit = 0 then none
    else
      match dailyCeiling env.config flask currency with
      | none => some limits.dailyLimit
      | some ceiling => some (min limits.dailyLimit ceiling)
  else if period = "monthly" then
    if limits.monthlyLimit = 0 then none
    else
      match env.config.maxMonthlyAmount with
      | none => some limits.monthlyLimit
      | some ceiling => some (min limits.monthlyLimit ceiling)
  else none

/-- `check_volume_limits`. -/
def checkVolumeLimits (env : Env) (flask : String → Option ℚ) (db : Db) (accountId : AccountId)
    (amount : ℚ) (currency : Currency) (period : String) : Except PythonTypeError VolumeAnswer :=
  match db.accountById accountId with
  | none => .ok ⟨false, some .accountNotFound⟩
  | some account =>
    match account.userId with
    | none => .error .intOfNone
    | some userId =>
      match enforceCumulativeVolume env db userId accountId amount currency period with
      | .ok () => .ok { allowed := true }
      | .error _ =>
        match getEffectiveCumulativeLimit env flask userId currency period with
        | none => .error .formatOfNone
        | some limit => .ok ⟨false, some (.exceeded period limit currency)⟩

section

variable {env : Env} {flask : String → Option ℚ} {db : Db} {userId : UserId}
  {accountId : AccountId} {amount : ℚ} {currency : Currency} {period : String}

/-- What was spent and the amount exceed a limit, when there is one. -/
def Exceeds (volume amount : ℚ) (limit : Option ℚ) : Prop :=
  ∃ ceiling, limit = some ceiling ∧ ceiling < volume + amount

theorem enforceCumulativeVolume_error_iff :
    (∃ error, enforceCumulativeVolume env db userId accountId amount currency period =
      .error error) ↔
      0 < env.regulatoryLimit userId period ∧
        env.regulatoryLimit userId period < env.volume db accountId currency period + amount := by
  simp only [enforceCumulativeVolume, withinRegulatoryLimit]
  split
  · rename_i hzero
    simp [hzero]
  · by_cases hwithin : env.regulatoryLimit userId period ≤ 0 ∨
        env.volume db accountId currency period + amount ≤ env.regulatoryLimit userId period
    · simp only [hwithin, decide_true, if_true, reduceCtorEq, exists_false, false_iff, not_and,
        not_lt]
      intro pos
      exact hwithin.resolve_left (not_le.mpr pos)
    · simp only [hwithin, decide_false, Bool.false_eq_true, if_false]
      rw [not_or, not_le, not_le] at hwithin
      exact iff_of_true ⟨_, rfl⟩ hwithin

/-- The effective limit of a tier that has one is defined and no larger. -/
theorem effectiveLimit_le (hperiod : period = "daily" ∨ period = "monthly")
    (hlimit : env.regulatoryLimit userId period ≠ 0) :
    ∃ limit, getEffectiveCumulativeLimit env flask userId currency period = some limit ∧
      limit ≤ env.regulatoryLimit userId period := by
  obtain rfl | rfl := hperiod
  · simp only [Env.regulatoryLimit, if_true] at hlimit ⊢
    simp only [getEffectiveCumulativeLimit, if_true, if_neg hlimit]
    split
    · exact ⟨_, rfl, le_rfl⟩
    · exact ⟨_, rfl, min_le_left _ _⟩
  · have hother : ("monthly" : String) ≠ "daily" := by decide
    simp only [Env.regulatoryLimit, if_neg hother] at hlimit ⊢
    simp only [getEffectiveCumulativeLimit, if_neg hother, if_true, if_neg hlimit]
    split
    · exact ⟨_, rfl, le_rfl⟩
    · exact ⟨_, rfl, min_le_left _ _⟩

end

/-- A daily or monthly volume is rejected exactly when the tier has a limit for the period and
the volume with the amount exceeds it. What is rejected exceeds the effective limit too. -/
theorem volume_rejected_iff (env : Env) (flask : String → Option ℚ) (db : Db) {account : Account}
    {accountId : AccountId} {userId : UserId} (amount : ℚ) (currency : Currency) {period : String}
    (hperiod : period = "daily" ∨ period = "monthly")
    (haccount : db.accountById accountId = some account) (howner : account.userId = some userId) :
    ∃ answer, checkVolumeLimits env flask db accountId amount currency period = .ok answer ∧
      (answer.allowed = false ↔ 0 < env.regulatoryLimit userId period ∧
        env.regulatoryLimit userId period < env.volume db accountId currency period + amount) ∧
      (answer.allowed = false → Exceeds (env.volume db accountId currency period) amount
        (getEffectiveCumulativeLimit env flask userId currency period)) := by
  have hiff : (∃ error, enforceCumulativeVolume env db userId accountId amount currency period =
      .error error) ↔ _ := enforceCumulativeVolume_error_iff
  simp only [checkVolumeLimits, haccount, howner]
  cases henforced : enforceCumulativeVolume env db userId accountId amount currency period with
  | ok =>
    rw [henforced] at hiff
    refine ⟨_, rfl, ?_, by simp⟩
    rw [← hiff]
    simp
  | error error =>
    obtain ⟨hpos, hover⟩ := hiff.mp ⟨error, henforced⟩
    obtain ⟨limit, heffective, hle⟩ : ∃ limit,
        getEffectiveCumulativeLimit env flask userId currency period = some limit ∧
          limit ≤ env.regulatoryLimit userId period := effectiveLimit_le hperiod hpos.ne'
    simp only [heffective]
    exact ⟨_, rfl, by simp [hpos, hover], fun _ => ⟨limit, rfl, hle.trans_lt hover⟩⟩

/-- A tier with ten million a day, above the operational ceiling of five. -/
def highTier : Env :=
  { Env.lenient 0 ⟨7, false⟩ with tierLimits := fun _ => ⟨10000000, 50000000, 10000000⟩ }

/-- Eleven million on a day are rejected. -/
theorem volume_rejected_iff_eleven :
    0 < highTier.regulatoryLimit 7 "daily" ∧
    ∃ answer, checkVolumeLimits highTier (fun _ => none) twoWallets 1 11000000 "UGX" "daily" =
        .ok answer ∧
      (answer.allowed = false ↔ 0 < highTier.regulatoryLimit 7 "daily" ∧
        highTier.regulatoryLimit 7 "daily" <
          highTier.volume twoWallets 1 "UGX" "daily" + 11000000) ∧
      (answer.allowed = false → Exceeds (highTier.volume twoWallets 1 "UGX" "daily") 11000000
        (getEffectiveCumulativeLimit highTier (fun _ => none) 7 "UGX" "daily")) :=
  ⟨by decide +kernel, volume_rejected_iff highTier (fun _ => none) twoWallets 11000000 "UGX"
    (.inl rfl)
    (rfl : twoWallets.accountById 1 = some { id := 1, userId := some 7, currency := "UGX" }) rfl⟩

/-- Six million on a day exceed the effective limit and are not rejected. -/
theorem ceiling_not_enforced :
    checkVolumeLimits highTier (fun _ => none) twoWallets 1 6000000 "UGX" "daily" =
      .ok { allowed := true } ∧
    Exceeds (highTier.volume twoWallets 1 "UGX" "daily") 6000000
      (getEffectiveCumulativeLimit highTier (fun _ => none) 7 "UGX" "daily") :=
  ⟨by decide +kernel, 5000000, by decide +kernel, by decide +kernel⟩

end Afcon360.Wallet
