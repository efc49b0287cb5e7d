import Mathlib.Data.Int.Notation

/-!
# The check of assigned identifiers

`BaseModel.__setattr__` looks at each value that is assigned to a column whose name ends in
`_id`, also by the constructor, and raises `RuntimeError` where the value is not of the kind
the column is for: a UUID for a text column, a positive number otherwise. Some names and some
columns are exceptions. A configuration that sets `PRODUCTION` switches the check off.
-/

namespace Afcon360.Utils

/-- What is assigned to a column. -/
inductive IdValue
  | int (value : ℤ)
  | text (value : String)
  | uuid
  deriving DecidableEq, Repr

/-- How the column is declared. -/
inductive IdColumn
  | string
  | other
  deriving DecidableEq, Repr

namespace IDGuard

/-- `NON_FK_STRING_IDS`. -/
def nonFkStringIds : List String :=
  ["session_id", "public_id", "key_id", "device_id", "resource_id", "wallet_txn_id", "context_id",
    "group_booking_id", "booking_reference", "payment_reference", "method_id", "idempotency_key",
    "entity_id", "event_id", "correlation_id", "causation_id", "delivery_id", "actor_id",
    "aggregate_id", "provider_message_id", "org_id", "tax_id"]

/-- `STRING_FK_EXCEPTIONS`. -/
def stringFkExceptions : List (String × String) := [("UserProfile", "user_id")]

/-- `UUID_FK_EXCEPTIONS`. -/
def uuidFkExceptions : List (String × String) :=
  [("LedgerEntryModel", "transaction_id"), ("LedgerEntryModel", "account_id"),
    ("TransactionModel", "account_id"), ("LedgerReversalReference", "original_entry_id"),
    ("LedgerReversalReference", "reversal_entry_id"),
    ("LedgerReversalReference", "original_transaction_id"),
    ("BookingPayment", "wallet_invoice_id")]

def isHexDigit (c : Char) : Bool := c.isDigit ∨ 'a' ≤ c.toLower ∧ c.toLower ≤ 'f'

/-- The text matches the pattern of `check_public_id`, whose `$` also stands before a last line
break. -/
def isPublicId (text : String) : Bool :=
  let chars := text.toList
  let body := if chars.getLast? = some '\n' then chars.dropLast else chars
  body.length = 36 ∧ body.zipIdx.all (fun entry =>
    if entry.2 ∈ [8, 13, 18, 23] then entry.1 = '-' else isHexDigit entry.1)

/-- `check_public_id`. -/
def checkPublicId : IdValue → Bool
  | .int value => isPublicId (toString value)
  | .text value => isPublicId value
  | .uuid => true

/-- `check_fk_assignment`. -/
def checkFkAssignment (model field : String) (value : IdValue) : Bool :=
  if stringFkExceptions.contains (model, field) then
    match value with
    | .text text => isPublicId text
    | _ => false
  else if uuidFkExceptions.contains (model, field) then
    match value with
    | .uuid => true
    | .text text => isPublicId text
    | .int _ => false
  else
    match value with
    | .int number => 0 < number
    | _ => false

/-- `BaseModel.__setattr__` lets the assignment to a field whose name ends in `_id` pass. -/
def admits (production : Bool) (model field : String) (column : IdColumn)
    (value : Option IdValue) : Bool :=
  production ∨ field ∈ nonFkStringIds ∨
    value.all (fun value =>
      match column with
      | .string => checkPublicId value
      | .other => checkFkAssignment model field value)

end IDGuard

end Afcon360.Utils
