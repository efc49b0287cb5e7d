import Afcon360.Wallet.Kyc

/-!
# Whose limits apply

`check_transaction_allowed` is called with the owner of an account, a number that stands
for a user or for an organisation. It looks for an organisation with that number first.
Here the rows behind the answer are part of the state: the organisations with their
verification data, the users' own tiers, the memberships and the configuration. The
answers of `Kyc` are read off the same state.
-/

namespace Afcon360.Wallet

/-! ## Organisations -/

/-- The steps of `STEP_REGISTRY`. -/
inductive KybStep
  | businessRegistration | identity | tax | license | ubo | sanctions | sourceOfFunds
  deriving DecidableEq, Repr

namespace KybStep

def key : KybStep → String
  | .businessRegistration => "business_registration"
  | .identity => "identity"
  | .tax => "tax"
  | .license => "license"
  | .ubo => "ubo"
  | .sanctions => "sanctions"
  | .sourceOfFunds => "source_of_funds"

/-- The steps of the tier `basic`. -/
def basic : List KybStep := [.businessRegistration, .identity, .tax, .license]

/-- The steps of the tier `full`. -/
def full : List KybStep := [.ubo, .sanctions, .sourceOfFunds]

end KybStep

/-- The first beneficial owner that is not deleted. -/
structure OrganisationUbo where
  verified : Bool
  effectiveFrom : Option Timestamp := none
  effectiveTo : Option Timestamp := none

/-- An organisation with its verification data: whether a registration is verified, the
types of its passed checks, its beneficial owner, whether a document on its source of
funds is verified, and its own threshold for large transactions. -/
structure Organisation where
  isDeleted : Bool := false
  requiresLicense : Bool := false
  registered : Bool := false
  passedChecks : List String := []
  ubo : Option OrganisationUbo := none
  sourceOfFunds : Bool := false
  largeTransactionThreshold : Option ℚ := none

namespace Organisation

def uboDone (org : Organisation) (now : Timestamp) : Bool :=
  org.ubo.any (fun ubo => ubo.verified ∧ ubo.effectiveFrom.all (· ≤ now) ∧
    ubo.effectiveTo.all (now ≤ ·))

/-- The key `done` of `_step_statuses`. -/
def done (org : Organisation) (now : Timestamp) : KybStep → Bool
  | .businessRegistration => org.registered
  | .identity => "identity" ∈ org.passedChecks
  | .tax => "tax" ∈ org.passedChecks
  | .license => org.requiresLicense → "license" ∈ org.passedChecks
  | .ubo => org.uboDone now
  | .sanctions => "sanctions" ∈ org.passedChecks
  | .sourceOfFunds => org.sourceOfFunds

/-- The key `required`. -/
def required (org : Organisation) : KybStep → Bool
  | .license => org.requiresLicense
  | _ => true

def basicRequired (org : Organisation) : List KybStep := KybStep.basic.filter org.required

def fullRequired (org : Organisation) : List KybStep :=
  org.basicRequired ++ KybStep.full.filter org.required

/-- `compute_status`. -/
def computeStatus (org : Organisation) (now : Timestamp) : KybStatus :=
  let isFullKyb := org.fullRequired.all (org.done now)
  let isOperationalKyb := org.basicRequired.all (org.done now)
  { isOperationalKyb, isFullKyb
    kybLevel := if isFullKyb then 2 else if isOperationalKyb then 1 else 0 }

/-- The keys of `pending_requirements`. -/
def pending (org : Organisation) (now : Timestamp) : List String :=
  (org.fullRequired.filter (fun step => ¬ org.done now step)).map KybStep.key

/-- `large_value_threshold`. -/
def largeValueThreshold (org : Organisation) : ℚ :=
  (org.largeTransactionThreshold.filter (0 < ·)).getD 10000

end Organisation

/-! ## The state -/

/-- The rows `check_transaction_allowed` reads. A tier-5 requirement is a step of the
organisations, or one that no step stands for. -/
structure LimitDb where
  organisations : ℕ → Option Organisation
  /-- The tier a user has from rows of their own; `none` when there is no such user. -/
  personalTier : ℕ → Option ℕ
  memberships : ℕ → List ℕ := fun _ => []
  tier5Requirements : List (Option KybStep) := []
  hasPersonalWallet : ℕ → Bool := fun _ => false
  tierLimits : ℕ → TierLimits
  config : WalletSystemConfig := {}

/-- Why a transaction is not allowed. -/
inductive LimitReason
  | unknownAction (action : String)
  | notPermitted (action : String) (kycLevel : ℕ)
  | kycRequired (action : String)
  | overLimit (limit amount : ℚ) (currency : Currency)
  | basicKyb (needsLicense : Bool)
  | fullKyb
  | notPermittedForTier (action : String)
  | overTierLimit (limit amount : ℚ) (currency : Currency)
  deriving DecidableEq

/-- The limit a reason names. -/
def LimitReason.limit? : LimitReason → Option ℚ
  | .overLimit limit _ _ => some limit
  | .overTierLimit limit _ _ => some limit
  | _ => none

structure LimitAnswer where
  allowed : Bool
  reason : Option LimitReason := none
  kycLevel : Option ℕ := none
  kybLevel : Option ℕ := none
  kybRequired : Option String := none
  pending : List String := []
  deriving DecidableEq

/-- The actions in `action_map`. -/
def KycAction.ofString : String → Option KycAction
  | "send" => some .send
  | "receive" => some .receive
  | "withdraw" => some .withdraw
  | "deposit" => some .deposit
  | _ => none

namespace LimitDb

/-- The organisation with this number, unless it is deleted. -/
def live (s : LimitDb) (id : ℕ) : Option Organisation :=
  (s.organisations id).filter (fun org => ¬ org.isDeleted)

/-- `calculate_kyc_tier`: tier 5 takes an organisation of the user for each requirement. -/
def kycTier (s : LimitDb) (now : Timestamp) (userId : ℕ) : Option ℕ :=
  (s.personalTier userId).map (fun tier =>
    if 4 ≤ tier ∧ s.tier5Requirements.all (fun requirement =>
        requirement.any (fun step =>
          (s.memberships userId).any (fun id => (s.live id).any (·.done now step)))) then 5
    else tier)

/-- `_operational_per_txn_ceiling`. -/
def ceiling (s : LimitDb) (action : String) : ℚ :=
  match KycAction.ofString action with
  | some known => operationalPerTxnCeiling s.config known
  | none => s.config.maxTransferAmount

/-- `effective_per_txn`. -/
def effectivePerTxn (s : LimitDb) (level : ℕ) (action : String) : ℚ :=
  min (s.tierLimits level).perTxnLimit (s.ceiling action)

/-- `is_personal_transfer`. -/
def isPersonalTransfer (s : LimitDb) (recipient : Option ℕ) : Bool :=
  match recipient.filter (· ≠ 0) with
  | none => false
  | some id => s.hasPersonalWallet id ∨
      (s.organisations id).isNone ∧ (s.personalTier id).isSome

/-- `requires_full_kyb`. -/
def requiresFullKyb (s : LimitDb) (org : Organisation) (amount : ℚ) (recipient : Option ℕ) : Bool :=
  org.largeValueThreshold ≤ amount ∨ s.isPersonalTransfer recipient

/-- `_check_org_transaction_allowed`. -/
def checkOrg (s : LimitDb) (now : Timestamp) (org : Organisation) (amount : ℚ) (action : String)
    (currency : Currency) (recipient : Option ℕ) : LimitAnswer :=
  let status := org.computeStatus now
  let pending := org.pending now
  if ¬ status.isOperationalKyb then
    { allowed := false, reason := some (.basicKyb ("license" ∈ pending))
      kybRequired := some "basic", pending }
  else if s.requiresFullKyb org amount recipient ∧ ¬ status.isFullKyb then
    { allowed := false, reason := some .fullKyb, kybRequired := some "full", pending }
  else
    let limit := s.effectivePerTxn status.kybLevel action
    match KycAction.ofString action with
    | none => { allowed := false, reason := some (.unknownAction action) }
    | some known =>
      if ¬ (tierFeatures status.kybLevel).allows known then
        { allowed := false, reason := some (.notPermittedForTier action) }
      else if limit < amount then
        { allowed := false, reason := some (.overTierLimit limit amount currency) }
      else { allowed := true, kybLevel := some status.kybLevel }

/-- The part of `check_transaction_allowed` for users. -/
def checkUser (s : LimitDb) (kycLevel : ℕ) (amount : ℚ) (action : String) (currency : Currency) :
    LimitAnswer :=
  let limit := s.effectivePerTxn kycLevel action
  match KycAction.ofString action with
  | none => { allowed := false, reason := some (.unknownAction action) }
  | some known =>
    if ¬ (tierFeatures kycLevel).allows known then
      { allowed := false, reason := some (.notPermitted action kycLevel) }
    else if kycRequired s.config known ∧ kycLevel = 0 then
      { allowed := false, reason := some (.kycRequired action) }
    else if limit < amount then
      { allowed := false, reason := some (.overLimit limit amount currency) }
    else { allowed := true, kycLevel := some kycLevel }

/-- `check_transaction_allowed`; `none` when it raises, for a number that is neither a live
organisation's nor a user's. -/
def checkTransactionAllowed (s : LimitDb) (now : Timestamp) (ownerId : ℕ) (amount : ℚ)
    (action : String) (currency : Currency) (recipient : Option ℕ) : Option LimitAnswer :=
  match s.live ownerId with
  | some org => some (s.checkOrg now org amount action currency recipient)
  | none => (s.kycTier now ownerId).map (fun level => s.checkUser level amount action currency)

/-! ## The environment of a wallet call -/

/-- What a wallet call finds in this state. -/
def env (s : LimitDb) (now : Timestamp) (currentUser : Option CurrentUser) : Env where
  now
  currentUser
  config := s.config
  tierLimits := s.tierLimits
  kycTier := fun owner => (owner.bind (s.kycTier now)).getD 0
  organisationKyb := fun owner => (owner.bind s.live).map (·.computeStatus now)
  requiresFullKyb := fun owner amount _ recipient =>
    (owner.bind s.live).any (fun org => s.requiresFullKyb org amount recipient)

/-- The answers `Kyc` gives in that environment are these. -/
theorem checkTransactionAllowed_env (s : LimitDb) (now : Timestamp)
    (currentUser : Option CurrentUser) {ownerId : ℕ} {amount : ℚ} {action : String}
    {known : KycAction} (haction : KycAction.ofString action = some known) (currency : Currency)
    (recipient : Option ℕ) {answer : LimitAnswer}
    (h : s.checkTransactionAllowed now ownerId amount action currency recipient = some answer) :
    Wallet.checkTransactionAllowed (s.env now currentUser) (some ownerId) amount known currency
      recipient = ⟨answer.allowed, answer.kycLevel⟩ := by
  have hlimit : ∀ level, s.effectivePerTxn level action =
      min (s.tierLimits level).perTxnLimit (operationalPerTxnCeiling s.config known) := by
    intro level
    rw [effectivePerTxn, ceiling, haction]
  rw [checkTransactionAllowed] at h
  cases hlive : s.live ownerId with
  | some org =>
    simp only [hlive, Option.some.injEq] at h
    subst h
    simp only [Wallet.checkTransactionAllowed, env, Option.bind_some, hlive, Option.map_some,
      checkOrgTransactionAllowed, checkOrg, haction, hlimit, Option.any_some]
    split_ifs <;> simp_all
  | none =>
    simp only [hlive] at h
    obtain ⟨level, hlevel, rfl⟩ := Option.map_eq_some_iff.mp h
    simp only [Wallet.checkTransactionAllowed, env, Option.bind_some, hlive, Option.map_none,
      checkUser, haction, hlimit, hlevel, Option.getD_some]
    split_ifs <;> rfl

/-! ## Organisations with the number of a user -/

/-- The state in which the organisation with this number is another one, or none. -/
def withOrganisation (s : LimitDb) (id : ℕ) (org : Option Organisation) : LimitDb :=
  { s with organisations := fun other => if other = id then org else s.organisations other }

/-- The verdict and the limits of an answer: the per-transaction limit it names, and the tier
whose cumulative limits the caller applies. -/
def limits (answer : Option LimitAnswer) : Option (Bool × Option ℚ × Option ℕ) :=
  answer.map (fun answer =>
    (answer.allowed, answer.reason.bind LimitReason.limit?, answer.kycLevel))

/-- Every request of the account is answered with the same verdict and limits. -/
def SameLimits (s t : LimitDb) (now : Timestamp) (userId : ℕ) : Prop :=
  ∀ amount action currency recipient,
    limits (s.checkTransactionAllowed now userId amount action currency recipient) =
      limits (t.checkTransactionAllowed now userId amount action currency recipient)

/-- The gates of an organisation open for the same requests: basic verification agrees, after
it full verification, and without that the threshold for large transactions. -/
def SameGates (now : Timestamp) (org other : Organisation) : Prop :=
  (org.computeStatus now).isOperationalKyb = (other.computeStatus now).isOperationalKyb ∧
    ((org.computeStatus now).isOperationalKyb = true →
      (org.computeStatus now).isFullKyb = (other.computeStatus now).isFullKyb ∧
        ((org.computeStatus now).isFullKyb = false →
          org.largeValueThreshold = other.largeValueThreshold))

/-- No live organisation has the number in either state, or one in both, with the same
gates. -/
def Alike (now : Timestamp) : Option Organisation → Option Organisation → Prop
  | none, none => True
  | some org, some other => SameGates now org other
  | _, _ => False

section

variable {s t : LimitDb} {now : Timestamp} {userId : ℕ} {org other : Organisation}

theorem kybLevel_of_full (h : (org.computeStatus now).isFullKyb = true) :
    (org.computeStatus now).kybLevel = 2 := if_pos h

theorem kybLevel_of_basic (hoperational : (org.computeStatus now).isOperationalKyb = true)
    (hfull : (org.computeStatus now).isFullKyb = false) : (org.computeStatus now).kybLevel = 1 := by
  have hnot : ¬ org.fullRequired.all (org.done now) = true := fun h => by
    rw [show (org.computeStatus now).isFullKyb = org.fullRequired.all (org.done now) from rfl,
      h] at hfull
    cases hfull
  exact (if_neg hnot).trans (if_pos hoperational)

/-- An answer to an organisation names no tier of a user. -/
theorem checkOrg_kycLevel (s : LimitDb) (amount : ℚ) (action : String) (currency : Currency)
    (recipient : Option ℕ) :
    (s.checkOrg now org amount action currency recipient).kycLevel = none := by
  rw [checkOrg]
  dsimp only
  split
  · rfl
  split
  · rfl
  split
  · rfl
  · split_ifs <;> rfl

/-- A user of any tier may receive up to the limit of the tier. -/
theorem checkUser_receive (s : LimitDb) {level : ℕ} {amount : ℚ} (currency : Currency)
    (hamount : amount ≤ s.effectivePerTxn level "receive") :
    s.checkUser level amount "receive" currency =
      { allowed := true, kycLevel := some level } := by
  have hfeature : (tierFeatures level).allows .receive = true := by
    unfold tierFeatures
    split <;> rfl
  simp [checkUser, KycAction.ofString, hfeature, kycRequired, not_lt.mpr hamount]

/-- What an organisation that passed the basic gate may receive. -/
theorem checkOrg_receive (s : LimitDb) (amount : ℚ) (currency : Currency)
    (hoperational : (org.computeStatus now).isOperationalKyb = true) :
    limits (some (s.checkOrg now org amount "receive" currency none)) =
      if org.largeValueThreshold ≤ amount ∧ (org.computeStatus now).isFullKyb = false then
        some (false, none, none)
      else if s.effectivePerTxn (org.computeStatus now).kybLevel "receive" < amount then
        some (false, some (s.effectivePerTxn (org.computeStatus now).kybLevel "receive"), none)
      else some (true, none, none) := by
  have hfeature : (tierFeatures (org.computeStatus now).kybLevel).allows .receive = true := by
    unfold tierFeatures
    split <;> rfl
  simp only [checkOrg, hoperational, requiresFullKyb, isPersonalTransfer, KycAction.ofString,
    hfeature]
  simp only [limits, not_true_eq_false, if_false, Option.filter_none, Bool.false_eq_true, or_false,
    decide_eq_true_eq, Bool.not_eq_true, Option.map_some]
  split_ifs <;> rfl

/-- What an organisation that did not pass the basic gate is answered. -/
theorem checkOrg_unverified (s : LimitDb) (amount : ℚ) (action : String) (currency : Currency)
    (recipient : Option ℕ) (h : (org.computeStatus now).isOperationalKyb = false) :
    limits (some (s.checkOrg now org amount action currency recipient)) =
      some (false, none, none) := by
  simp [checkOrg, h, limits, LimitReason.limit?]

/-- Organisations whose answers agree have the same gates: requests to receive tell them
apart. -/
theorem sameGates_of_limits (hlimits : ∀ amount,
      limits (some (s.checkOrg now org amount "receive" "UGX" none)) =
        limits (some (t.checkOrg now other amount "receive" "UGX" none)))
    (hsame : ∀ level, t.effectivePerTxn level "receive" = s.effectivePerTxn level "receive") :
    SameGates now org other := by
  -- An amount below every limit and threshold, and one above a threshold.
  obtain ⟨low, hlow⟩ : ∃ low, low < org.largeValueThreshold ∧ low < other.largeValueThreshold ∧
      low ≤ s.effectivePerTxn (org.computeStatus now).kybLevel "receive" ∧
      low ≤ s.effectivePerTxn (other.computeStatus now).kybLevel "receive" := by
    have hthreshold := min_le_left (min org.largeValueThreshold other.largeValueThreshold)
      (min (s.effectivePerTxn (org.computeStatus now).kybLevel "receive")
        (s.effectivePerTxn (other.computeStatus now).kybLevel "receive"))
    have hlimit := min_le_right (min org.largeValueThreshold other.largeValueThreshold)
      (min (s.effectivePerTxn (org.computeStatus now).kybLevel "receive")
        (s.effectivePerTxn (other.computeStatus now).kybLevel "receive"))
    obtain ⟨hfirst, hsecond⟩ := le_min_iff.mp hthreshold
    obtain ⟨hfirst', hsecond'⟩ := le_min_iff.mp hlimit
    exact ⟨_ - 1, (sub_one_lt _).trans_le hfirst, (sub_one_lt _).trans_le hsecond,
      (sub_one_lt _).le.trans hfirst', (sub_one_lt _).le.trans hsecond'⟩
  have hbasic : (org.computeStatus now).isOperationalKyb =
      (other.computeStatus now).isOperationalKyb := by
    have h := hlimits low
    cases hfirst : (org.computeStatus now).isOperationalKyb <;>
      cases hsecond : (other.computeStatus now).isOperationalKyb
    · rfl
    · rw [checkOrg_unverified s low _ _ _ hfirst, checkOrg_receive t low "UGX" hsecond, hsame,
        if_neg (by simp [not_le.mpr hlow.2.1]), if_neg (not_lt.mpr hlow.2.2.2)] at h
      cases h
    · rw [checkOrg_receive s low "UGX" hfirst, checkOrg_unverified t low _ _ _ hsecond,
        if_neg (by simp [not_le.mpr hlow.1]), if_neg (not_lt.mpr hlow.2.2.1)] at h
      cases h
    · rfl
  refine ⟨hbasic, fun hoperational => ?_⟩
  have hoperational' := hbasic ▸ hoperational
  have hreceive := fun amount => (checkOrg_receive s amount "UGX" hoperational).symm.trans
    ((hlimits amount).trans (checkOrg_receive t amount "UGX" hoperational'))
  simp only [hsame] at hreceive
  -- At the threshold of an organisation that is not fully verified no limit is named.
  have hstopped : ∀ {first second : Organisation} {limit limit' : ℚ},
      (first.computeStatus now).isFullKyb = false →
      ((second.computeStatus now).isFullKyb = false →
        first.largeValueThreshold < second.largeValueThreshold) →
      (if first.largeValueThreshold ≤ first.largeValueThreshold ∧
          (first.computeStatus now).isFullKyb = false then some (false, none, (none : Option ℕ))
        else if limit < first.largeValueThreshold then some (false, some limit, none)
        else some (true, none, none)) ≠
      (if second.largeValueThreshold ≤ first.largeValueThreshold ∧
          (second.computeStatus now).isFullKyb = false then some (false, none, none)
        else if limit' < first.largeValueThreshold then some (false, some limit', none)
        else some (true, none, none)) := by
    intro first second limit limit' hopen hless h
    rw [if_pos ⟨le_rfl, hopen⟩, if_neg (fun hboth => absurd hboth.1 (not_le.mpr (hless hboth.2)))]
      at h
    split at h <;> simp at h
  have hfull : (org.computeStatus now).isFullKyb = (other.computeStatus now).isFullKyb := by
    cases hfirst : (org.computeStatus now).isFullKyb <;>
      cases hsecond : (other.computeStatus now).isFullKyb
    · rfl
    · exact absurd (hreceive org.largeValueThreshold) (hstopped hfirst (by simp [hsecond]))
    · exact absurd (hreceive other.largeValueThreshold).symm (hstopped hsecond (by simp [hfirst]))
    · rfl
  refine ⟨hfull, fun hopen => ?_⟩
  obtain hless | hequal | hmore := lt_trichotomy org.largeValueThreshold other.largeValueThreshold
  · exact absurd (hreceive org.largeValueThreshold) (hstopped hopen (fun _ => hless))
  · exact hequal
  · exact absurd (hreceive other.largeValueThreshold).symm
      (hstopped (hfull ▸ hopen) (fun _ => hmore))

/-- Organisations with the same gates are answered alike. -/
theorem SameGates.limits_eq (gates : SameGates now org other) (amount : ℚ) (action : String)
    (currency : Currency) {recipient : Option ℕ}
    (htransfer : t.isPersonalTransfer recipient = s.isPersonalTransfer recipient)
    (hsame : ∀ level, t.effectivePerTxn level action = s.effectivePerTxn level action) :
    limits (some (s.checkOrg now org amount action currency recipient)) =
      limits (some (t.checkOrg now other amount action currency recipient)) := by
  cases hoperational : (org.computeStatus now).isOperationalKyb with
  | false =>
    rw [checkOrg_unverified s amount action currency recipient hoperational,
      checkOrg_unverified t amount action currency recipient (gates.1 ▸ hoperational)]
  | true =>
    have hoperational' := gates.1 ▸ hoperational
    obtain ⟨hfull, hthreshold⟩ := gates.2 hoperational
    have hlevel : (other.computeStatus now).kybLevel = (org.computeStatus now).kybLevel := by
      cases h : (org.computeStatus now).isFullKyb with
      | true => rw [kybLevel_of_full h, kybLevel_of_full (hfull ▸ h)]
      | false => rw [kybLevel_of_basic hoperational h, kybLevel_of_basic hoperational' (hfull ▸ h)]
    have hgate : (t.requiresFullKyb other amount recipient ∧
          ¬ (other.computeStatus now).isFullKyb) ↔
        (s.requiresFullKyb org amount recipient ∧ ¬ (org.computeStatus now).isFullKyb) := by
      rw [← hfull]
      refine and_congr_left (fun hopen => ?_)
      rw [requiresFullKyb, requiresFullKyb, htransfer, hthreshold (by simpa using hopen)]
    simp only [checkOrg, hoperational, hoperational', hgate, hlevel, hsame]
    simp only [limits, Option.map_some, not_true_eq_false, if_false]
    split
    · rfl
    split
    · rfl
    · split_ifs <;> rfl

theorem live_withOrganisation (s : LimitDb) (org : Option Organisation) :
    (s.withOrganisation userId org).live userId = org.filter (fun org => ¬ org.isDeleted) := by
  simp [live, withOrganisation]

theorem live_of_ne (s : LimitDb) (org : Option Organisation) {id : ℕ} (h : id ≠ userId) :
    (s.withOrganisation userId org).live id = s.live id := by
  simp [live, withOrganisation, h]

theorem isPersonalTransfer_withOrganisation (s : LimitDb) {found : Option Organisation}
    (hlive : (s.live userId).isSome) (hfound : found.isSome) (recipient : Option ℕ) :
    (s.withOrganisation userId found).isPersonalTransfer recipient =
      s.isPersonalTransfer recipient := by
  have hpresent : (s.organisations userId).isSome := by
    cases h : s.organisations userId with
    | none => simp [live, h] at hlive
    | some org => rfl
  have hnone : ∀ id, ((s.withOrganisation userId found).organisations id).isNone =
      (s.organisations id).isNone := by
    intro id
    by_cases hid : id = userId
    · subst hid
      obtain ⟨org, horg⟩ := Option.isSome_iff_exists.mp hpresent
      obtain ⟨other, rfl⟩ := Option.isSome_iff_exists.mp hfound
      simp [withOrganisation, horg]
    · simp [withOrganisation, hid]
  unfold isPersonalTransfer
  split
  · rfl
  · simp only [hnone]
    rfl

/-- Without an organisation of that number the answer is the user's. -/
theorem limits_of_user (s : LimitDb) (hlive : s.live userId = none)
    (hlive' : t.live userId = some org) :
    ∃ amount, limits (s.checkTransactionAllowed now userId amount "receive" "UGX" none) ≠
      limits (t.checkTransactionAllowed now userId amount "receive" "UGX" none) := by
  cases htier : s.kycTier now userId with
  | none =>
    refine ⟨0, fun h => ?_⟩
    simp [checkTransactionAllowed, hlive, hlive', htier, limits] at h
  | some level =>
    refine ⟨s.effectivePerTxn level "receive", fun h => ?_⟩
    have hnone : (t.checkOrg now org _ "receive" "UGX" none).kycLevel = none :=
      t.checkOrg_kycLevel (s.effectivePerTxn level "receive") "receive" "UGX" none
    simp [checkTransactionAllowed, hlive, hlive', htier, limits,
      checkUser_receive s "UGX" le_rfl, hnone] at h

end

/-- User 7 is in tier 1 and user 8 in tier 0; each transaction may reach 1000. -/
def twoUsers : LimitDb where
  organisations := fun _ => none
  personalTier := fun id => if id = 7 then some 1 else if id = 8 then some 0 else none
  tierLimits := fun _ => ⟨0, 0, 1000⟩

def verifiedOrganisation : Organisation :=
  { registered := true, passedChecks := ["identity", "tax"] }

end LimitDb

end Afcon360.Wallet
