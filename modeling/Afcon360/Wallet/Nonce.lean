import Mathlib.Data.Int.Notation
import Mathlib.Data.List.Perm.Basic
import Mathlib.Data.List.Nodup
import Afcon360.Foundation.Run

/-!
# Nonces

`NonceProtectionService`. A nonce is generated for a user, is valid for some minutes and is
to be accepted once. `validate_nonce` reads the row, checks it and marks it used; the read
takes no lock and other requests may act before the mark. Whatever raises in between, the
request is accepted.

A row keeps its position when others are deleted, so the position stands for one generated
nonce and its validity period.
-/

namespace Afcon360.Wallet

open Foundation

/-- What the service reads of `nonce_protection_config`. -/
structure NonceConfig where
  enabled : Bool := true
  nonceTtlMinutes : ℕ := 15
  maxNoncesPerUserPerHour : ℕ := 1000
  maxNoncesPerAggregatorPerHour : ℕ := 10000
  allowNonceReuseSameAmount : Bool := false

/-- A row of `user_nonces`. Times are in microseconds. -/
structure UserNonce where
  userId : ℕ
  userType : String := "user"
  nonce : String
  nonceType : String := "transaction"
  transactionType : Option String := none
  amount : Option ℤ := none
  currency : Option String := none
  used : Bool := false
  voided : Bool := false
  createdAt : ℕ
  expiresAt : ℕ
  usedAt : Option ℕ := none

/-- Why a request was allowed or rejected. -/
inductive NonceReason
  | disabled | notFound | alreadyUsed | voided | expired | typeMismatch | amountMismatch | valid
  | failedOpen
  deriving DecidableEq, Repr

namespace NonceReason

def text : NonceReason → String
  | .disabled => "Nonce protection disabled"
  | .notFound => "Nonce not found"
  | .alreadyUsed => "Nonce already used"
  | .voided => "Nonce voided"
  | .expired => "Nonce expired"
  | .typeMismatch => "Transaction type mismatch"
  | .amountMismatch => "Amount mismatch"
  | .valid => "Nonce valid"
  | .failedOpen => "Validation error - allowed"

/-- The key `valid` of the result; `action` is `allow` or `reject` accordingly. -/
def allows : NonceReason → Bool
  | .disabled | .valid | .failedOpen => true
  | _ => false

end NonceReason

/-- The arguments of `validate_nonce` that are read. -/
structure NonceRequest where
  userId : ℕ
  nonce : String
  transactionType : Option String := none
  amount : Option ℤ := none

/-- Two values that are there, and differ. -/
def mismatch {α : Type} [DecidableEq α] (absent : α) (asked stored : Option α) : Bool :=
  (asked.filter (· ≠ absent)).any (fun a => (stored.filter (· ≠ absent)).any (fun b => b ≠ a))

/-- The checks of `validate_nonce` on the row, in their order; `none` when all are passed. -/
def UserNonce.check (row : UserNonce) (config : NonceConfig) (now : ℕ) (request : NonceRequest) :
    Option NonceReason :=
  if row.used then some .alreadyUsed
  else if row.voided then some .voided
  else if row.expiresAt < now then some .expired
  else if mismatch "" request.transactionType row.transactionType then some .typeMismatch
  else if ¬ config.allowNonceReuseSameAmount ∧ mismatch 0 request.amount row.amount then
    some .amountMismatch
  else none

/-- A validation that passed the checks and has not marked its row. -/
structure NonceCall where
  request : NonceRequest
  row : ℕ

/-- A result, with the row that was found. -/
structure NonceAnswer where
  request : NonceRequest
  row : Option ℕ
  reason : NonceReason

/-- The tables, the validations under way and the results given. -/
structure NonceServer where
  config : Option NonceConfig := some {}
  rows : List (Option UserNonce) := []
  calls : List NonceCall := []
  log : List NonceAnswer := []

namespace NonceServer

inductive Move
  | configure (config : NonceConfig)
  | generate (now : ℕ) (user : UserNonce)
  | lookup (now : ℕ) (request : NonceRequest)
  | failLookup (request : NonceRequest)
  | mark (place now : ℕ)
  | failMark (place now : ℕ) (persisted : Bool)
  | voidNonce (nonce : String)
  | cleanup (now : ℕ)

def isEnabled (s : NonceServer) : Bool := s.config.any (·.enabled)

/-- A microsecond count of an hour. -/
def hour : ℕ := 3600000000

/-- `_check_rate_limits`. -/
def underLimit (s : NonceServer) (config : NonceConfig) (now : ℕ) (user : UserNonce) : Bool :=
  let limit := if user.userType = "aggregator" then config.maxNoncesPerAggregatorPerHour
    else config.maxNoncesPerUserPerHour
  s.rows.countP (fun row => row.any (fun row =>
    row.userId = user.userId ∧ row.userType = user.userType ∧ now ≤ row.createdAt + hour)) < limit

/-- `generate_nonce`; `user.nonce` is the generated text. A text that a row has already makes
the insert fail. -/
def generate (s : NonceServer) (now : ℕ) (user : UserNonce) : NonceServer :=
  match s.config with
  | none => s
  | some config =>
    if config.enabled ∧ s.underLimit config now user ∧
        ¬ s.rows.any (fun row => row.any (·.nonce = user.nonce)) then
      { s with
        rows := s.rows ++ [some { user with
          used := false, voided := false, usedAt := none, createdAt := now
          expiresAt := now + config.nonceTtlMinutes * 60000000 }] }
    else s

/-- The row of the nonce and the user. -/
def find (s : NonceServer) (request : NonceRequest) : Option ℕ :=
  s.rows.findIdx? (fun row => row.any (fun row =>
    row.nonce = request.nonce ∧ row.userId = request.userId))

def answer (s : NonceServer) (request : NonceRequest) (row : Option ℕ) (reason : NonceReason) :
    NonceServer :=
  { s with log := s.log ++ [⟨request, row, reason⟩] }

/-- `validate_nonce` up to the mark. -/
def lookup (s : NonceServer) (now : ℕ) (request : NonceRequest) : NonceServer :=
  match s.config.filter (·.enabled) with
  | none => s.answer request none .disabled
  | some config =>
    match s.find request with
    | none => s.answer request none .notFound
    | some id =>
      match (s.rows[id]?.join).bind (·.check config now request) with
      | some reason => s.answer request (some id) reason
      | none => { s with calls := s.calls ++ [⟨request, id⟩] }

/-- The update of the two columns. -/
def markUsed (s : NonceServer) (id now : ℕ) : NonceServer :=
  { s with
    rows := s.rows.modify id (Option.map (fun row => { row with used := true, usedAt := some now }))
      }

/-- The mark and the commit. The update of a row that is gone raises. -/
def mark (s : NonceServer) (place now : ℕ) (call : NonceCall) : NonceServer :=
  let done := { s with calls := s.calls.eraseIdx place }
  if (s.rows[call.row]?.join).isSome then
    (done.markUsed call.row now).answer call.request (some call.row) .valid
  else done.answer call.request (some call.row) .failedOpen

/-- A commit that raises. It may have been carried out. -/
def failMark (s : NonceServer) (place now : ℕ) (persisted : Bool) (call : NonceCall) :
    NonceServer :=
  let done := { s with calls := s.calls.eraseIdx place }
  (if persisted then done.markUsed call.row now else done).answer call.request (some call.row)
    .failedOpen

/-- `void_nonce`. -/
def voidNonce (s : NonceServer) (nonce : String) : NonceServer :=
  match s.rows.findIdx? (fun row => row.any (fun row => row.nonce = nonce)) with
  | none => s
  | some id =>
    { s with
      rows := s.rows.modify id (Option.map (fun row =>
        if row.used then row else { row with voided := true })) }

/-- `cleanup_expired_nonces`. -/
def cleanup (s : NonceServer) (now : ℕ) : NonceServer :=
  { s with rows := s.rows.map (Option.filter (fun row => ¬ row.expiresAt < now)) }

/-- The server after a step. -/
def after (s : NonceServer) : Move → NonceServer
  | .configure config => { s with config := some config }
  | .generate now user => s.generate now user
  | .lookup now request => s.lookup now request
  | .failLookup request => s.answer request none .failedOpen
  | .mark place now =>
    match s.calls[place]? with
    | some call => s.mark place now call
    | none => s
  | .failMark place now persisted =>
    match s.calls[place]? with
    | some call => s.failMark place now persisted call
    | none => s
  | .voidNonce nonce => s.voidNonce nonce
  | .cleanup now => s.cleanup now

def Step (s : NonceServer) (move : Move) (t : NonceServer) : Prop := t = s.after move

/-- Validations are made while the protection is enabled. -/
def Enabled (s : NonceServer) : Move → Prop
  | .lookup _ _ => s.isEnabled
  | _ => True

/-- No validation of the same user and nonce is under way. -/
def Alone (s : NonceServer) : Move → Prop
  | .lookup _ request => ∀ call ∈ s.calls,
      ¬ (call.request.userId = request.userId ∧ call.request.nonce = request.nonce)
  | _ => True

/-- The requests of the user with the nonce that were allowed in the validity period of the
row. -/
def allowed (s : NonceServer) (userId : ℕ) (nonce : String) (id : ℕ) : List NonceAnswer :=
  s.log.filter (fun answer => answer.request.userId = userId ∧ answer.request.nonce = nonce ∧
    answer.row = some id ∧ answer.reason.allows)

/-! ## Steps -/

/-- The rows of the answers that found their nonce valid. -/
def validRows (s : NonceServer) : List ℕ :=
  s.log.filterMap (fun answer => if answer.reason = .valid then answer.row else none)

/-- The rows that a validation holds or held. -/
def taken (s : NonceServer) : List ℕ := s.calls.map (·.row) ++ s.validRows

structure Inv (s : NonceServer) : Prop where
  nodup : s.taken.Nodup
  bound : ∀ id ∈ s.taken, id < s.rows.length
  used : ∀ id ∈ s.validRows, ∀ row, s.rows[id]? = some (some row) → row.used
  pair : ∀ call ∈ s.calls, ∀ row, s.rows[call.row]? = some (some row) →
    row.nonce = call.request.nonce ∧ row.userId = call.request.userId
  named : ∀ answer ∈ s.log, answer.reason.allows →
    answer.reason = .failedOpen ∨ answer.reason = .valid ∧ answer.row.isSome

/-- No row changes its user or nonce, or becomes unused again. -/
structure Kept (rows rows' : List (Option UserNonce)) : Prop where
  length : rows.length ≤ rows'.length
  row : ∀ id < rows.length, ∀ new, rows'[id]? = some (some new) →
    ∃ old, rows[id]? = some (some old) ∧ new.nonce = old.nonce ∧ new.userId = old.userId ∧
      (old.used → new.used)

theorem Kept.append (rows : List (Option UserNonce)) (new : Option UserNonce) :
    Kept rows (rows ++ [new]) := by
  refine ⟨by simp, ?_⟩
  intro id hid row hrow
  rw [List.getElem?_append_left hid] at hrow
  exact ⟨row, hrow, rfl, rfl, fun h => h⟩

theorem Kept.modify (rows : List (Option UserNonce)) (id : ℕ) {f : UserNonce → UserNonce}
    (hf : ∀ row, (f row).nonce = row.nonce ∧ (f row).userId = row.userId ∧
      (row.used → (f row).used)) : Kept rows (rows.modify id (Option.map f)) := by
  refine ⟨by simp, ?_⟩
  intro other hother new hnew
  rw [List.getElem?_modify] at hnew
  obtain ⟨old, hold, hmap⟩ := Option.map_eq_some_iff.mp hnew
  split at hmap
  · obtain ⟨row, rfl, rfl⟩ := Option.map_eq_some_iff.mp hmap
    exact ⟨row, hold, hf row⟩
  · cases hmap
    exact ⟨new, hold, rfl, rfl, fun h => h⟩

theorem Kept.filter (rows : List (Option UserNonce)) (p : UserNonce → Bool) :
    Kept rows (rows.map (Option.filter p)) := by
  refine ⟨by simp, ?_⟩
  intro id hid new hnew
  rw [List.getElem?_map] at hnew
  obtain ⟨old, hold, hfilter⟩ := Option.map_eq_some_iff.mp hnew
  obtain ⟨rfl, -⟩ := Option.filter_eq_some_iff.mp hfilter
  exact ⟨new, hold, rfl, rfl, fun h => h⟩

variable {s t : NonceServer}

variable {request : NonceRequest} {row : UserNonce}

theorem Inv.of_kept (inv : Inv s) {rows : List (Option UserNonce)} (hkept : Kept s.rows rows) :
    Inv { s with rows } := by
  refine ⟨inv.nodup, ?_, ?_, ?_, inv.named⟩
  · intro id hid
    exact Nat.lt_of_lt_of_le (inv.bound id hid) hkept.length
  · intro id hid new hnew
    obtain ⟨old, hold, -, -, hused⟩ :=
      hkept.row id (inv.bound id (List.mem_append_right _ hid)) new hnew
    exact hused (inv.used id hid old hold)
  · intro call hcall new hnew
    have hbound := inv.bound call.row
      (List.mem_append_left _ (List.mem_map_of_mem hcall))
    obtain ⟨old, hold, hnonce, huser, -⟩ := hkept.row call.row hbound new hnew
    obtain ⟨hpairNonce, hpairUser⟩ := inv.pair call hcall old hold
    exact ⟨hnonce.trans hpairNonce, huser.trans hpairUser⟩

theorem Inv.answer (inv : Inv s) (request : NonceRequest) (row : Option ℕ) {reason : NonceReason}
    (hreason : reason.allows → reason = .failedOpen) : Inv (s.answer request row reason) := by
  have hvalid : (s.answer request row reason).validRows = s.validRows := by
    have hne : reason ≠ .valid := by
      rintro rfl
      cases hreason rfl
    simp [validRows, NonceServer.answer, hne]
  have htaken : (s.answer request row reason).taken = s.taken := by
    rw [taken, hvalid]
    rfl
  refine ⟨htaken ▸ inv.nodup, htaken ▸ inv.bound, hvalid ▸ inv.used, inv.pair, ?_⟩
  intro answer hanswer hallows
  obtain hanswer | hanswer := List.mem_append.mp hanswer
  · exact inv.named answer hanswer hallows
  · cases List.mem_singleton.mp hanswer
    exact .inl (hreason hallows)

theorem Inv.drop (inv : Inv s) (place : ℕ) : Inv { s with calls := s.calls.eraseIdx place } := by
  have hsub : ((s.calls.eraseIdx place).map (·.row) ++ s.validRows).Sublist s.taken :=
    ((List.eraseIdx_sublist _ _).map _).append_right _
  refine ⟨inv.nodup.sublist hsub, ?_, inv.used, ?_, inv.named⟩
  · intro id hid
    exact inv.bound id (hsub.subset hid)
  · intro call hcall
    exact inv.pair call (List.mem_of_mem_eraseIdx hcall)

theorem kept_markUsed (s : NonceServer) (id now : ℕ) : Kept s.rows (s.markUsed id now).rows :=
  Kept.modify s.rows id (fun _ => ⟨rfl, rfl, fun _ => rfl⟩)

theorem used_markUsed (s : NonceServer) (id now : ℕ)
    (hrow : (s.markUsed id now).rows[id]? = some (some row)) : row.used := by
  rw [markUsed, List.getElem?_modify] at hrow
  obtain ⟨old, -, hmap⟩ := Option.map_eq_some_iff.mp hrow
  rw [if_pos rfl] at hmap
  obtain ⟨_, -, rfl⟩ := Option.map_eq_some_iff.mp hmap
  rfl

/-- The row of a validation that ends is counted among the valid ones instead. -/
theorem taken_mark {place : ℕ} {call : NonceCall} (hcall : s.calls[place]? = some call) :
    ((s.calls.eraseIdx place).map (·.row) ++ (s.validRows ++ [call.row])).Perm s.taken := by
  obtain ⟨hlt, rfl⟩ := List.getElem?_eq_some_iff.mp hcall
  have hcalls := (List.getElem_cons_eraseIdx_perm hlt).map (·.row)
  rw [← List.append_assoc]
  refine (List.perm_append_singleton _ _).trans ?_
  exact (List.Perm.append_right s.validRows hcalls)

theorem Inv.mark (inv : Inv s) {place : ℕ} {call : NonceCall}
    (hcall : s.calls[place]? = some call) (now : ℕ) : Inv (s.mark place now call) := by
  rw [NonceServer.mark]
  split
  · have hmarked : Inv (s.markUsed call.row now) := inv.of_kept (kept_markUsed s call.row now)
    have hperm := taken_mark hcall
    have hvalid : (({ s with calls := s.calls.eraseIdx place } : NonceServer).markUsed call.row now
        |>.answer call.request (some call.row) .valid).validRows = s.validRows ++ [call.row] := by
      simp [validRows, NonceServer.answer, markUsed]
    refine ⟨?_, ?_, ?_, ?_, ?_⟩
    · rw [taken, hvalid]
      exact hperm.nodup_iff.mpr inv.nodup
    · rw [taken, hvalid]
      intro id hid
      exact hmarked.bound id (hperm.mem_iff.mp hid)
    · rw [hvalid]
      intro id hid row hrow
      obtain hid | hid := List.mem_append.mp hid
      · exact hmarked.used id hid row hrow
      · cases List.mem_singleton.mp hid
        exact used_markUsed s call.row now hrow
    · intro other hother
      exact hmarked.pair other (List.mem_of_mem_eraseIdx hother)
    · intro answer hanswer hallows
      obtain hanswer | hanswer := List.mem_append.mp hanswer
      · exact inv.named answer hanswer hallows
      · cases List.mem_singleton.mp hanswer
        exact .inr ⟨rfl, rfl⟩
  · exact (inv.drop place).answer _ _ (fun _ => rfl)

theorem Inv.failMark (inv : Inv s) (place now : ℕ) (persisted : Bool) (call : NonceCall) :
    Inv (s.failMark place now persisted call) := by
  have hdrop := inv.drop place
  rw [NonceServer.failMark]
  cases persisted with
  | false => exact hdrop.answer _ _ (fun _ => rfl)
  | true =>
    have hkept := hdrop.of_kept
      (kept_markUsed { s with calls := s.calls.eraseIdx place } call.row now)
    exact Inv.answer hkept _ _ (fun _ => rfl)

theorem find_spec {id : ℕ} (h : s.find request = some id) :
    ∃ row, s.rows[id]? = some (some row) ∧ row.nonce = request.nonce ∧
      row.userId = request.userId := by
  obtain ⟨hlt, hrow, -⟩ := List.findIdx?_eq_some_iff_getElem.mp h
  rw [List.getElem?_eq_getElem hlt]
  cases hfound : s.rows[id] with
  | none => simp [hfound] at hrow
  | some row =>
    simp only [hfound, Option.any_some, decide_eq_true_eq] at hrow
    exact ⟨row, rfl, hrow⟩

theorem check_used {config : NonceConfig} {now : ℕ}
    (h : row.check config now request = none) : ¬ row.used := by
  intro hused
  rw [UserNonce.check, if_pos hused] at h
  cases h

theorem check_not_allows {config : NonceConfig} {now : ℕ}
    {reason : NonceReason} (h : row.check config now request = some reason) :
    reason.allows = false := by
  rw [UserNonce.check] at h
  split_ifs at h <;> cases h <;> rfl

theorem Inv.lookup (inv : Inv s) (now : ℕ) (henabled : s.isEnabled) (halone : ∀ call ∈ s.calls,
      ¬ (call.request.userId = request.userId ∧ call.request.nonce = request.nonce)) :
    Inv (s.lookup now request) := by
  rw [NonceServer.lookup]
  split
  · rename_i hdisabled
    rw [isEnabled] at henabled
    cases hconfig : s.config with
    | none => simp [hconfig] at henabled
    | some config => simp_all
  · rename_i config hconfig
    split
    · exact inv.answer _ _ (fun h => by cases h)
    · rename_i id hfind
      obtain ⟨row, hrow, hnonce, huser⟩ := find_spec hfind
      simp only [hrow, Option.join_some, Option.bind_some]
      split
      · rename_i reason hreason
        exact inv.answer _ _ (fun h => by rw [check_not_allows hreason] at h; cases h)
      · rename_i hpassed
        have hlt := (List.getElem?_eq_some_iff.mp hrow).1
        have hfree : id ∉ s.taken := by
          intro hid
          obtain hid | hid := List.mem_append.mp hid
          · obtain ⟨call, hcall, rfl⟩ := List.mem_map.mp hid
            obtain ⟨hcallNonce, hcallUser⟩ := inv.pair call hcall row hrow
            exact halone call hcall ⟨hcallUser ▸ huser, hcallNonce ▸ hnonce⟩
          · exact check_used hpassed (inv.used id hid row hrow)
        have hperm : ((s.calls ++ [(⟨request, id⟩ : NonceCall)]).map (·.row) ++ s.validRows).Perm
            (id :: s.taken) := by
          rw [List.map_append, List.append_assoc]
          exact List.perm_middle
        refine ⟨?_, ?_, inv.used, ?_, inv.named⟩
        · exact hperm.nodup_iff.mpr (List.nodup_cons.mpr ⟨hfree, inv.nodup⟩)
        · intro other hother
          obtain rfl | hother := List.mem_cons.mp (hperm.mem_iff.mp hother)
          · exact hlt
          · exact inv.bound other hother
        · intro call hcall found hfound
          obtain hcall | hcall := List.mem_append.mp hcall
          · exact inv.pair call hcall found hfound
          · cases List.mem_singleton.mp hcall
            rw [hrow] at hfound
            cases hfound
            exact ⟨hnonce, huser⟩

/-! ## Runs -/

/-- Every step keeps the invariant while the protection is enabled and validations of one
nonce do not overlap. -/
theorem Inv.step (inv : Inv s) {move : Move}
    (h : Guarded (fun s move => s.Enabled move ∧ s.Alone move) Step s move t) : Inv t := by
  obtain ⟨⟨henabled, halone⟩, rfl⟩ := h
  cases move with
  | configure config => exact ⟨inv.nodup, inv.bound, inv.used, inv.pair, inv.named⟩
  | generate now user =>
    simp only [after, NonceServer.generate]
    split
    · exact inv
    · split
      · exact inv.of_kept (Kept.append _ _)
      · exact inv
  | lookup now request => exact inv.lookup now henabled halone
  | failLookup request => exact inv.answer _ _ (fun _ => rfl)
  | mark place now =>
    simp only [after]
    split
    · rename_i call hcall
      exact inv.mark hcall now
    · exact inv
  | failMark place now persisted =>
    simp only [after]
    split
    · exact inv.failMark place now persisted _
    · exact inv
  | voidNonce nonce =>
    simp only [after, NonceServer.voidNonce]
    split
    · exact inv
    · refine inv.of_kept (Kept.modify _ _ ?_)
      intro row
      split
      · exact ⟨rfl, rfl, fun h => h⟩
      · exact ⟨rfl, rfl, fun h => h⟩
  | cleanup now => exact inv.of_kept (Kept.filter _ _)

theorem Inv.valid_le_one (inv : Inv s) (id : ℕ) :
    s.log.countP (fun answer => answer.reason = .valid ∧ answer.row = some id) ≤ 1 := by
  have hnodup := (List.nodup_append.mp inv.nodup).2.1
  refine Nat.le_trans (Nat.le_of_eq ?_) (List.nodup_iff_count_le_one.mp hnodup id)
  rw [validRows, List.count_filterMap]
  congr 1
  funext answer
  by_cases h : answer.reason = .valid
  · simp only [h, if_true, true_and]
    exact (beq_eq_decide _ _).symm
  · simp [h]

/-- While the protection is enabled, whatever other requests do and whichever calls to the
store fail, a user's nonce is accepted at most once in its validity period, provided that
its validations do not overlap; requests whose own validation raised are let through and
do not count. -/
theorem validateNonce_once {moves : List Move} (hcalls : s.calls = []) (hlog : s.log = [])
    (run : Run (Guarded (fun s move => s.Enabled move ∧ s.Alone move) Step) s moves t)
    (userId : ℕ) (nonce : String) (id : ℕ) :
    ((t.allowed userId nonce id).filter (fun answer => answer.reason ≠ .failedOpen)).length ≤
      1 := by
  have start : Inv s := by
    refine ⟨?_, ?_, ?_, ?_, ?_⟩ <;> simp [taken, validRows, hcalls, hlog]
  have inv : Inv t := run.invariant Inv (fun _ _ _ inv h => inv.step h) start
  refine Nat.le_trans ?_ (inv.valid_le_one id)
  rw [allowed, List.filter_filter, ← List.countP_eq_length_filter]
  refine List.countP_mono_left ?_
  intro answer hanswer h
  simp only [Bool.and_eq_true, decide_eq_true_eq] at h ⊢
  obtain ⟨hreason, -, -, hrow, hallows⟩ := h
  rcases inv.named answer hanswer hallows with hfailed | ⟨hvalid, -⟩
  · exact absurd hfailed hreason
  · exact ⟨hvalid, hrow⟩

/-- A nonce of user 7, valid until 900. -/
def oneNonce : NonceServer :=
  { rows := [some { userId := 7, nonce := "n", createdAt := 0, expiresAt := 900 }] }

def nonceRequest : NonceRequest := { userId := 7, nonce := "n" }

/-- The second validation begins when the first is over. -/
def twoRequests : List Move :=
  [.lookup 10 nonceRequest, .mark 0 11, .lookup 12 nonceRequest]

theorem validateNonce_once_twoRequests :
    (twoRequests.foldl after oneNonce).log.map (·.reason) = [.valid, .alreadyUsed] ∧
    (((twoRequests.foldl after oneNonce).allowed 7 "n" 0).filter
      (fun answer => answer.reason ≠ .failedOpen)).length ≤ 1 := by
  have run : Run (Guarded (fun s move => s.Enabled move ∧ s.Alone move) Step) oneNonce twoRequests
      (twoRequests.foldl after oneNonce) :=
    .cons ⟨⟨rfl, fun _ h => by cases h⟩, rfl⟩ (.cons ⟨⟨trivial, trivial⟩, rfl⟩
      (.cons ⟨⟨rfl, fun _ h => by cases h⟩, rfl⟩ (.nil _)))
  exact ⟨by decide +kernel, validateNonce_once rfl rfl run 7 "n" 0⟩

/-- Two validations read the row before either marks it. -/
def overlapping : List Move :=
  [.lookup 10 nonceRequest, .lookup 10 nonceRequest, .mark 0 11, .mark 0 11]

/-- The commit of the first validation fails. -/
def commitFails : List Move :=
  [.lookup 10 nonceRequest, .failMark 0 11 false, .lookup 12 nonceRequest, .mark 0 13]

/-- Either way the nonce is accepted twice in its validity period. -/
theorem nonce_accepted_twice :
    ((overlapping.foldl after oneNonce).allowed 7 "n" 0).length = 2 ∧
    ((commitFails.foldl after oneNonce).allowed 7 "n" 0).length = 2 := by
  decide +kernel

end NonceServer

end Afcon360.Wallet
