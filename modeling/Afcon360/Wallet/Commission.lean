import Afcon360.Wallet.Model

/-!
# Agent commissions

The rows of `agent_commissions`, how `CommissionService` computes them, and how
`CommissionRepository` settles them. Rows stand in the order of their creation.
-/

namespace Afcon360.Wallet

open Foundation

/-- `source_type`. -/
inductive CommissionSource
  | deposit | withdraw | transfer | cashOut
  deriving DecidableEq, Repr

/-- A row of `agent_commissions`; amounts are stored with six decimals. -/
structure Commission where
  agentId : UserId
  amount : ℚ
  currency : Currency
  sourceType : CommissionSource
  sourceId : TransactionId
  isPaid : Bool := false
  deriving DecidableEq

/-- `Decimal.quantize` to six decimals, as commissions are computed. -/
def quantizeCommission (value : ℚ) : ℚ :=
    gridValue microsPerUnit (roundHalfEven microsPerUnit value)

/-- `calculate_commission` for a cash-in or a cash-out: the rate comes from the agent
terms, and the agent has the whole of it. -/
def calculateCommission (rate amount : ℚ) : ℚ := quantizeCommission (amount * rate)

/-- The row `record_commission` adds for a commission that is positive. -/
def commissionFor (rate amount : ℚ) (agentId : UserId) (currency : Currency)
    (sourceType : CommissionSource) (sourceId : TransactionId) : List Commission :=
  if 0 < calculateCommission rate amount then
    [{ agentId, amount := calculateCommission rate amount, currency, sourceType, sourceId }]
  else []

theorem commissionFor_sourceId {rate amount : ℚ} {agentId : UserId} {currency : Currency}
    {sourceType : CommissionSource} {sourceId : TransactionId} :
    ∀ commission ∈ commissionFor rate amount agentId currency sourceType sourceId,
      commission.sourceId = sourceId := by
  intro commission h
  unfold commissionFor at h
  split at h
  · rw [List.mem_singleton.mp h]
  · cases h

end Afcon360.Wallet
