import Afcon360.Wallet.Idempotency

/-!
# Conversion between currencies

A transfer meets three currencies: the sender's, the recipient's and the one the
amount is requested in. `convertedLegs` states what each leg should be, the
requested amount brought into the account's own currency. `transferLegs`
computes at most one of the two conversions, so the legs agree with it only for
some patterns of coincidence.
-/

namespace Afcon360.Wallet

open Foundation

/-- An amount in another currency: itself between equal currencies, else at the
quoted rate and rounded to hundredths. -/
def convert (env : Env) (amount : ℚ) (source target : Currency) : Option ℚ :=
  if source = target then some amount
  else (env.fxRate source target).map (fun rate => quantizeHalfEven (amount * rate))

/-- Each leg in its account's own currency, converted from the requested one. -/
def convertedLegs (env : Env) (request : TransferRequest) (parties : Parties) : Option Legs :=
  match convert env request.quantized request.currency parties.sender.currency,
      convert env request.quantized request.currency parties.recipient.currency with
  | some debit, some credit =>
    some ⟨debit, parties.sender.currency, credit, parties.recipient.currency⟩
  | _, _ => none

/-- The journal grew by the entries of the converted legs. -/
def PostsConverted (env : Env) (db db' : Db) (request : TransferRequest) (parties : Parties) :
    Prop :=
  ∃ legs id, convertedLegs env request parties = some legs ∧
    db'.journal = db.journal ++ (transferDrafts request parties legs id).map Db.EntryDraft.posting

/-- The requested currency is that of one of the accounts, or its conversion to
the recipient's currency happens to leave the amount as it is. -/
def OneConversionEnough (env : Env) (request : TransferRequest) (parties : Parties) : Prop :=
  request.currency = parties.sender.currency ∨
    request.currency = parties.recipient.currency ∨
    convert env request.quantized request.currency parties.recipient.currency =
      some request.quantized

section

variable {env : Env} {db db' : Db} {request : TransferRequest} {parties : Parties}
  {legs legs' : Legs} {receipt : TransferReceipt} {amount : ℚ} {source target : Currency}

@[simp] theorem convert_self : convert env amount source source = some amount := if_pos rfl

theorem convert_of_ne (hne : source ≠ target) :
    convert env amount source target =
      (env.fxRate source target).map (fun rate => quantizeHalfEven (amount * rate)) :=
  if_neg hne

theorem convertedLegs_eq_some : convertedLegs env request parties = some legs ↔
    convert env request.quantized request.currency parties.sender.currency =
        some legs.debitAmount ∧
      convert env request.quantized request.currency parties.recipient.currency =
        some legs.creditAmount ∧
      legs.debitCurrency = parties.sender.currency ∧
      legs.creditCurrency = parties.recipient.currency := by
  obtain ⟨debitAmount, debitCurrency, creditAmount, creditCurrency⟩ := legs
  unfold convertedLegs
  split
  · rename_i debit credit hdebit hcredit
    simp only [hdebit, hcredit, Option.some.injEq, Legs.mk.injEq]
    constructor
    · rintro ⟨rfl, rfl, rfl, rfl⟩
      exact ⟨rfl, rfl, rfl, rfl⟩
    · rintro ⟨rfl, rfl, rfl, rfl⟩
      exact ⟨rfl, rfl, rfl, rfl⟩
  · rename_i hnone
    constructor
    · intro h
      cases h
    · rintro ⟨hdebit, hcredit, -⟩
      exact absurd hcredit (hnone _ _ hdebit)

/-- The legs a transfer computes are the converted ones exactly when one
conversion is enough. -/
theorem transferLegs_converted (h : transferLegs env request parties = .ok legs) :
    convertedLegs env request parties = some legs ↔
      OneConversionEnough env request parties := by
  rw [convertedLegs_eq_some, OneConversionEnough]
  simp only [transferLegs] at h
  split at h
  · -- Accounts of one currency: both legs carry the amount as requested.
    rename_i hsame
    cases h
    rw [hsame]
    constructor
    · rintro ⟨-, hcredit, -⟩
      exact .inr (.inr hcredit)
    · rintro (heq | heq | hcredit)
      · simp [heq]
      · simp [heq]
      · exact ⟨hcredit, hcredit, rfl, rfl⟩
  · rename_i hdiffer
    split at h
    · -- The amount is in the sender's currency: the credit is converted.
      rename_i hhome
      split at h
      · cases h
      · rename_i rate hrate
        cases h
        simp only [hhome, convert_self, convert_of_ne hdiffer, hrate, Option.map_some, true_or,
          and_self]
    · -- The debit is converted; the credit carries the amount as requested.
      rename_i hforeign
      split at h
      · cases h
      · rename_i rate hrate
        cases h
        simp only [convert_of_ne hforeign, hrate, Option.map_some, true_and, and_true, hforeign,
          false_or]
        constructor
        · exact .inr
        · rintro (habroad | hcredit)
          · rw [habroad, convert_self]
          · exact hcredit

theorem transferLegs_on_grid (h : transferLegs env request parties = .ok legs) :
    ∃ debit credit, legs.debitAmount = gridValue moneyQuant debit ∧
      legs.creditAmount = gridValue moneyQuant credit := by
  simp only [transferLegs] at h
  split at h
  · cases h
    exact ⟨_, _, rfl, rfl⟩
  · split at h
    · split at h
      · cases h
      · cases h
        exact ⟨_, _, rfl, rfl⟩
    · split at h
      · cases h
      · cases h
        exact ⟨_, _, rfl, rfl⟩

theorem convert_on_grid
    (h : convert env request.quantized source target = some amount) :
    ∃ steps, amount = gridValue moneyQuant steps := by
  by_cases hsame : source = target
  · subst hsame
    cases convert_self.symm.trans h
    exact ⟨_, rfl⟩
  · rw [convert_of_ne hsame] at h
    obtain ⟨rate, -, rfl⟩ := Option.map_eq_some_iff.mp h
    exact ⟨_, rfl⟩

/-- Whole hundredths stored in millionths are told apart. -/
theorem roundHalfUp_hundredths_inj {steps steps' : ℤ}
    (h : roundHalfUp microsPerUnit (gridValue moneyQuant steps) =
      roundHalfUp microsPerUnit (gridValue moneyQuant steps')) : steps = steps' := by
  have hcoarse : ∀ steps : ℤ,
      roundHalfUp microsPerUnit (gridValue moneyQuant steps) = steps * 10000 :=
    fun steps => roundHalfUp_coarse (n := moneyQuant) 10000 (by decide)
  rw [hcoarse, hcoarse] at h
  omega

/-- Entries determine the legs they post. -/
theorem legs_of_postings {id id' : TransactionId} {debit credit debit' credit' : ℤ}
    (hdebit : legs.debitAmount = gridValue moneyQuant debit)
    (hcredit : legs.creditAmount = gridValue moneyQuant credit)
    (hdebit' : legs'.debitAmount = gridValue moneyQuant debit')
    (hcredit' : legs'.creditAmount = gridValue moneyQuant credit')
    (h : (transferDrafts request parties legs id).map Db.EntryDraft.posting =
      (transferDrafts request parties legs' id').map Db.EntryDraft.posting) : legs = legs' := by
  obtain ⟨debitAmount, debitCurrency, creditAmount, creditCurrency⟩ := legs
  obtain ⟨debitAmount', debitCurrency', creditAmount', creditCurrency'⟩ := legs'
  subst hdebit hcredit hdebit' hcredit'
  simp only [transferDrafts, List.cons_append, List.map_cons, List.cons.injEq,
    Db.EntryDraft.posting, Posting.mk.injEq, true_and, neg_inj] at h
  obtain ⟨⟨rfl, hd⟩, ⟨rfl, hc⟩, -⟩ := h
  rw [roundHalfUp_hundredths_inj hd, roundHalfUp_hundredths_inj hc]

/-- A transfer that posted its entries posted the converted legs exactly when one
conversion is enough. -/
theorem TransferPosted.posts_converted {row : Transaction} {booking : Booking}
    (h : TransferPosted env db request parties legs row booking) :
    PostsConverted env db booking.db request parties ↔
      OneConversionEnough env request parties := by
  have hlegs := (transferChecks_ok h.checks_ok).1
  rw [← transferLegs_converted hlegs]
  constructor
  · rintro ⟨legs', id, hconverted, hjournal⟩
    rw [h.posted.journal] at hjournal
    obtain ⟨debit, credit, hdebit, hcredit⟩ := transferLegs_on_grid hlegs
    have hamounts := convertedLegs_eq_some.mp hconverted
    obtain ⟨debit', hdebit'⟩ := convert_on_grid hamounts.1
    obtain ⟨credit', hcredit'⟩ := convert_on_grid hamounts.2.1
    rw [legs_of_postings hdebit hcredit hdebit' hcredit' (List.append_cancel_left hjournal)]
    exact hconverted
  · intro hconverted
    exact ⟨legs, booking.id, hconverted, h.posted.journal⟩

theorem transfer_posted (h : transfer env db request = .ok (receipt, db')) :
    (receipt.alreadyProcessed = true ∧ db' = db) ∨
      (receipt.alreadyProcessed = false ∧ ∃ parties legs row booking,
        TransferPosted env db request parties legs row booking ∧ db' = booking.db) := by
  obtain ⟨parties, hparties, hreplay | hposted⟩ := transfer_ok h
  · obtain ⟨hdb, id, existing, -, -, -, rfl⟩ := hreplay
    exact .inl ⟨rfl, hdb⟩
  · obtain ⟨hfresh, legs, booking, row, hlegs, hrow, posted, hbooked, hid, hrow', rfl, rfl⟩ :=
      hposted
    exact .inr ⟨by simp [transferReceipt, hbooked], parties, legs, row, booking,
      ⟨hparties, hfresh, hlegs, hrow, posted, hid, hrow'⟩, rfl⟩

end

/-! ## Dollars between two wallets -/

/-- An environment that quotes 3800 shillings for a dollar. -/
def quotingEnv : Env :=
  { Env.lenient 1 ⟨7, false⟩ with
    fxRate := fun source target => if source = "USD" ∧ target = "UGX" then some 3800 else none }

/-- A wallet in shillings and one in the given currency; the first holds 1000
shillings. -/
def fundedWallets (abroad : Currency) : Db :=
  walletRun (Db.opened [userWallet 1 7 "UGX", userWallet 2 8 abroad] (by simp)) [fundFirst]

/-- A transfer of an amount given in dollars. -/
def sendDollars (amount : ℚ) : TransferRequest :=
  { fromAccountId := 1, toAccountId := 2, amount, currency := "USD"
    clientRequestId := "dollars", systemInitiated := true }

end Afcon360.Wallet
