import Mathlib.Algebra.Order.Ring.Int
import Afcon360.Foundation.Guard
import Afcon360.Foundation.Run
import Afcon360.Foundation.Table

/-!
# Delegated permissions

`DelegationService` hands scopes from one user to another for some hours. A row is inserted
once; a revocation and the two ways to expire it, the sweep and the listing, only clear its
flag. The check of a permission looks at the flag, the deadline, the scopes and the approval.

The tables stand beside what was granted and what was revoked, and a permission is what
these two say.
-/

namespace Afcon360.Auth.Delegation

open Foundation

/-- Microseconds since the epoch, in UTC. -/
abbrev Instant := ℤ

/-! ## Rules -/

inductive DelegationScope
  | paymentGateways | walletManagement | userManagement | complianceAccess | financialController
  | regulatorAccess | systemSettings | accommodationRegistrationManagement
  deriving DecidableEq, Repr

/-- The text a scope is stored as. -/
def DelegationScope.value : DelegationScope → String
  | .paymentGateways => "payment_gateways"
  | .walletManagement => "wallet_management"
  | .userManagement => "user_management"
  | .complianceAccess => "compliance_access"
  | .financialController => "financial_controller"
  | .regulatorAccess => "regulator_access"
  | .systemSettings => "system_settings"
  | .accommodationRegistrationManagement => "accommodation_registration_management"

/-- How a message prints a scope: the class and the name, which is the text in upper case. -/
def DelegationScope.name (scope : DelegationScope) : String :=
  "DelegationScope." ++ scope.value.toUpper

structure DelegationRule where
  allowedScopes : List DelegationScope
  maxDurationHours : ℤ
  requiresApproval : Bool

/-- `DELEGATION_RULES`, by the roles of delegator and delegatee. -/
def delegationRules : List ((String × String) × DelegationRule) :=
  [(("owner", "super_admin"),
      { allowedScopes := [.paymentGateways, .walletManagement, .userManagement, .complianceAccess,
          .financialController, .regulatorAccess, .systemSettings]
        maxDurationHours := 168
        requiresApproval := false }),
    (("super_admin", "admin"),
      { allowedScopes := [.paymentGateways, .walletManagement, .complianceAccess,
          .financialController, .accommodationRegistrationManagement]
        maxDurationHours := 72
        requiresApproval := true }),
    (("admin", "user"),
      { allowedScopes := [.walletManagement, .accommodationRegistrationManagement]
        maxDurationHours := 24
        requiresApproval := true }),
    (("user", "user"),
      { allowedScopes := [.accommodationRegistrationManagement]
        maxDurationHours := 168
        requiresApproval := false })]

/-- The rule for two roles. -/
def ruleFor (delegatorRole delegateeRole : String) : Option DelegationRule :=
  delegationRules.lookup (delegatorRole, delegateeRole)

/-- What `can_delegate` returns. -/
structure Permission where
  allowed : Bool
  error : Option String
  requiresApproval : Bool
  maxDurationHours : ℤ

/-- `can_delegate`. -/
def canDelegate (delegatorRole delegateeRole : String) (scope : DelegationScope) : Permission :=
  match ruleFor delegatorRole delegateeRole with
  | none =>
    ⟨false, some ("No delegation rule for " ++ delegatorRole ++ " → " ++ delegateeRole), false, 0⟩
  | some rule =>
    let error := "Scope " ++ scope.name ++ " not allowed for " ++ delegatorRole ++ " → " ++
      delegateeRole
    ⟨scope ∈ rule.allowedScopes, if scope ∈ rule.allowedScopes then none else some error,
      rule.requiresApproval, rule.maxDurationHours⟩

/-! ## Rows -/

/-- The columns of `auth_delegations` that are written once, with the check of the table. -/
structure Terms where
  reference : String
  delegatorId : ℕ
  delegateeId : ℕ
  delegatorRole : String
  delegateeRole : String
  scopes : List String
  reason : String
  durationHours : ℤ
  requiresApproval : Bool
  approvedByUserId : Option ℕ
  approvedAt : Option Instant
  createdAt : Instant
  expiresAt : Instant
  expires_after_creation : createdAt < expiresAt

/-- A row: its terms and the columns that change. -/
structure Row extends Terms where
  isActive : Bool := true
  revokedAt : Option Instant := none
  revokedByUserId : Option ℕ := none
  revocationReason : Option String := none

/-- `auth_delegations`. -/
abbrev Delegations := Table Row (fun row => row.reference)

namespace Row

/-- `is_expired`. -/
def isExpired (now : Instant) (row : Row) : Bool := row.expiresAt ≤ now

/-- `is_valid`; an approver with the id 0 counts as missing. -/
def isValid (now : Instant) (row : Row) : Bool :=
  row.isActive && !row.isExpired now &&
    !(row.requiresApproval && (row.approvedByUserId.filter (· ≠ 0)).isNone)

/-- `has_scope`. -/
def hasScope (scopeValue : String) (row : Row) : Bool := scopeValue ∈ row.scopes

/-- `revoke`. -/
def revoke (now : Instant) (revokedBy : ℕ) (reason : String) (row : Row) : Row :=
  { row with
    isActive := false
    revokedAt := some now
    revokedByUserId := some revokedBy
    revocationReason := some reason }

/-- The row with its flag cleared. -/
def expire (row : Row) : Row := { row with isActive := false }

/-- The row lets the user use the scope: the query and the test of
`check_delegation_permission`. -/
def permits (now : Instant) (userId : ℕ) (scope : DelegationScope) (row : Row) : Bool :=
  row.delegateeId = userId && row.isActive && decide (now < row.expiresAt) &&
    row.hasScope scope.value && row.isValid now

end Row

/-! ## Calls -/

/-- The arguments of `create_delegation`. -/
structure CreateArgs where
  delegatorId : ℕ
  delegateeId : ℕ
  delegatorRole : String
  delegateeRole : String
  scopes : List DelegationScope
  durationHours : ℤ
  reason : String
  approvedBy : Option ℕ := none

inductive DelegationCall
  | create (args : CreateArgs) (token : String)
  | revoke (reference : String) (revokedBy : ℕ) (reason : String)
  | getActive (userId : Option ℕ)
  | cleanup

/-- Why a call fails; `failed` is any exception of the database or of a lookup. -/
inductive DelegationError
  | cannotDelegate (scope : DelegationScope) (error : String)
  | durationExceeds (maxDurationHours : ℤ)
  | requiresApproval
  | notFound
  | alreadyRevoked
  | failed
  deriving DecidableEq

/-- The `error` of the answer; an exception brings its own text. -/
def DelegationError.text : DelegationError → Option String
  | .cannotDelegate scope error => some ("Cannot delegate scope " ++ scope.name ++ ": " ++ error)
  | .durationExceeds maxDurationHours =>
    some ("Duration exceeds maximum of " ++ toString maxDurationHours ++ " hours")
  | .requiresApproval => some "This delegation requires approval"
  | .notFound => some "Delegation not found"
  | .alreadyRevoked => some "Delegation already revoked"
  | .failed => none

/-- What a call finds outside the table: which users there are, and how an instant is
printed in a reference. -/
structure DelegationEnv where
  users : ℕ → Bool
  stamp : Instant → String

/-- The row `create_delegation` adds, if it passes the check of the table. -/
def CreateArgs.terms? (env : DelegationEnv) (args : CreateArgs) (rule : DelegationRule)
    (now : Instant) (token : String) : Option Terms :=
  if h : now < now + args.durationHours * 3600000000 then
    some
      { reference := "DEL-" ++ env.stamp now ++ "-" ++ token
        delegatorId := args.delegatorId
        delegateeId := args.delegateeId
        delegatorRole := args.delegatorRole
        delegateeRole := args.delegateeRole
        scopes := args.scopes.map DelegationScope.value
        reason := args.reason
        durationHours := args.durationHours
        requiresApproval := rule.requiresApproval
        approvedByUserId := args.approvedBy
        approvedAt := (args.approvedBy.filter (· ≠ 0)).map fun _ => now
        createdAt := now
        expiresAt := now + args.durationHours * 3600000000
        expires_after_creation := h }
  else none

/-- The users a row refers to exist. -/
def Terms.known (env : DelegationEnv) (terms : Terms) : Bool :=
  env.users terms.delegatorId && env.users terms.delegateeId &&
    terms.approvedByUserId.all env.users

/-- `create_delegation`. -/
def createDelegation (env : DelegationEnv) (table : Delegations) (now : Instant)
    (args : CreateArgs) (token : String) : Except DelegationError (Terms × Delegations) :=
  match args.scopes.find? (fun scope =>
      !(canDelegate args.delegatorRole args.delegateeRole scope).allowed) with
  | some scope =>
    .error (.cannotDelegate scope
      ((canDelegate args.delegatorRole args.delegateeRole scope).error.getD "None"))
  | none =>
    match ruleFor args.delegatorRole args.delegateeRole with
    | none => .error .failed
    | some rule => do
        require (args.durationHours ≤ rule.maxDurationHours)
          (.durationExceeds rule.maxDurationHours)
        require (¬ (rule.requiresApproval ∧ args.approvedBy.filter (· ≠ 0) = none))
          .requiresApproval
        match args.terms? env rule now token with
        | none => .error .failed
        | some terms => do
            require (terms.known env = true) .failed
            match table.insert? { toTerms := terms } with
            | none => .error .failed
            | some table => pure (terms, table)

/-- `revoke_delegation`. -/
def revokeDelegation (env : DelegationEnv) (table : Delegations) (now : Instant)
    (reference : String) (revokedBy : ℕ) (reason : String) : Except DelegationError Delegations :=
  match table.lookup reference with
  | none => .error .notFound
  | some (i, row) => do
      require (row.isActive = true) .alreadyRevoked
      require (env.users revokedBy = true) .failed
      pure (table.modify i (Row.revoke now revokedBy reason) fun _ => rfl)

/-- The rows the query of `get_active_delegations` finds. -/
def queried (userId : Option ℕ) (row : Row) : Bool :=
  row.isActive && userId.all (fun id => row.delegateeId = id)

/-- The list `get_active_delegations` returns. -/
def listActive (table : Delegations) (now : Instant) (userId : Option ℕ) : List Row :=
  table.rows.filter (fun row => queried userId row && decide (now < row.expiresAt))

/-- Clear the flag of the rows among these that are expired. -/
def expireWhere (table : Delegations) (now : Instant) (among : Row → Bool) : Delegations :=
  table.rewrite (fun row => if among row ∧ row.expiresAt ≤ now then row.expire else row) (by
    intro row
    split <;> rfl)

/-- `get_active_delegations`: the list, and the table after the flags of the other rows were
cleared. -/
def getActiveDelegations (table : Delegations) (now : Instant) (userId : Option ℕ) :
    List Row × Delegations :=
  (listActive table now userId, expireWhere table now (queried userId))

/-- `cleanup_expired_delegations`: the number of expired rows, and the table. -/
def cleanupExpiredDelegations (table : Delegations) (now : Instant) : ℕ × Delegations :=
  (table.rows.countP (fun row => row.isActive && decide (row.expiresAt ≤ now)),
    expireWhere table now Row.isActive)

/-- `check_delegation_permission`. -/
def checkDelegationPermission (table : Delegations) (now : Instant) (userId : ℕ)
    (requiredScope : DelegationScope) : Bool :=
  table.rows.any (Row.permits now userId requiredScope)

/-! ## Histories -/

/-- The table, the time of the latest call, and what the calls so far granted and revoked. -/
structure Office where
  table : Delegations
  clock : Instant
  granted : List Terms
  revoked : List String

/-- What a call answers. -/
inductive Answer
  | created (terms : Terms)
  | revoked
  | listed (rows : List Row)
  | swept (count : ℕ)
  | failure (error : DelegationError)

/-- One call at a time. -/
def Office.call (env : DelegationEnv) (s : Office) (now : Instant) : DelegationCall →
    Answer × Office
  | .create args token =>
    match createDelegation env s.table now args token with
    | .error e => (.failure e, { s with clock := now })
    | .ok (terms, table) =>
      (.created terms, { s with table, clock := now, granted := s.granted ++ [terms] })
  | .revoke reference revokedBy reason =>
    match revokeDelegation env s.table now reference revokedBy reason with
    | .error e => (.failure e, { s with clock := now })
    | .ok table => (.revoked, { s with table, clock := now, revoked := s.revoked ++ [reference] })
  | .getActive userId =>
    let (rows, table) := getActiveDelegations s.table now userId
    (.listed rows, { s with table, clock := now })
  | .cleanup =>
    let (count, table) := cleanupExpiredDelegations s.table now
    (.swept count, { s with table, clock := now })

/-- A call when its time has come. -/
def Step (env : DelegationEnv) (s : Office) (label : Instant × DelegationCall) (t : Office) :
    Prop :=
  s.clock ≤ label.1 ∧ t = (s.call env label.1 label.2).2

/-- No delegation yet. -/
def Office.opened (clock : Instant) : Office := ⟨⟨[], .nil⟩, clock, [], []⟩

/-- A delegation is in force: not revoked and not expired. -/
def Office.InForce (s : Office) (now : Instant) (terms : Terms) : Prop :=
  terms.reference ∉ s.revoked ∧ now < terms.expiresAt

/-- The rules allow the delegation. -/
structure Lawful (terms : Terms) : Prop where
  rule : ∃ rule, ruleFor terms.delegatorRole terms.delegateeRole = some rule ∧
    (∀ text ∈ terms.scopes, ∃ scope ∈ rule.allowedScopes, scope.value = text) ∧
    terms.expiresAt ≤ terms.createdAt + rule.maxDurationHours * 3600000000 ∧
    (rule.requiresApproval = true → ∃ approver, terms.approvedByUserId = some approver ∧
      approver ≠ 0)
  approved : terms.requiresApproval = true →
    ∃ approver, terms.approvedByUserId = some approver ∧ approver ≠ 0

end Afcon360.Auth.Delegation
