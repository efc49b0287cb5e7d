import Mathlib.Logic.Basic

/-!
# Database sessions

A session sees a working copy of what the database holds. Reads and writes begin a
transaction when none is open; a commit makes the working copy the committed one and
a rollback discards it. `block` is `with session.begin(): …`: it refuses to begin
inside an open transaction, commits when its body returns and rolls back when an
exception escapes.

A body may end the block's transaction itself. Whether another one may then begin
inside the block is left open: `reopens`.
-/

namespace Foundation

universe u

variable {σ : Type u} {ε α : Type}

structure Session (σ : Type u) where
  committed : σ
  working : σ
  /-- A transaction is open. -/
  active : Bool := false
  /-- Control is inside a block. -/
  inBlock : Bool := false

/-- What a piece of work leaves: its result or the exception, and the session. -/
abbrev Work (σ : Type u) (ε α : Type) := Session σ → Except ε α × Session σ

namespace Session

/-- A session in which nothing has begun. -/
def idle (s : σ) : Session σ := ⟨s, s, false, false⟩

def commit (session : Session σ) : Session σ :=
  { session with committed := session.working, active := false }

def rollback (session : Session σ) : Session σ :=
  { session with working := session.committed, active := false }

/-- A statement that is executed outside of an explicit transaction begins one. -/
def read (session : Session σ) : Session σ := { session with active := true }

def write (session : Session σ) (f : σ → σ) : Session σ :=
  { session with working := f session.working, active := true }

/-- `begin`: refused in an open transaction, and inside a block that has lost its
transaction unless such a block may begin again. -/
def begin? (reopens : Bool) (session : Session σ) : Option (Session σ) :=
  if session.active ∨ session.inBlock ∧ ¬ reopens then none
  else some { session with active := true }

/-- `with session.begin(): body`; `refused` is what a refused `begin` raises. -/
def block (reopens : Bool) (refused : ε) (body : Work σ ε α) : Work σ ε α := fun session =>
  match session.begin? reopens with
  | none => (.error refused, session)
  | some opened =>
    match body { opened with inBlock := true } with
    | (.ok a, left) =>
      (.ok a, { (if left.active then left.commit else left) with inBlock := session.inBlock })
    | (.error e, left) =>
      (.error e,
        { (if left.active then left.rollback else left) with inBlock := session.inBlock })

variable {reopens : Bool} {refused e : ε} {body : Work σ ε α} {session left : Session σ} {a : α}

/-- The session at the start of a block's body. -/
def opened (s : σ) : Session σ := ⟨s, s, true, true⟩

theorem block_refused (h : session.active = true) :
    block reopens refused body session = (.error refused, session) := by
  simp [block, begin?, h]

theorem block_ok {s : σ} (h : body (opened s) = (.ok a, left)) (hopen : left.active = true) :
    block reopens refused body (idle s) = (.ok a, { left.commit with inBlock := false }) := by
  have hbody : body ⟨s, s, true, true⟩ = (.ok a, left) := h
  simp [block, begin?, idle, hbody, hopen]

/-- When an exception escapes, an open transaction is rolled back; one that the body
ended itself stays as it ended. -/
theorem block_error {s : σ} (h : body (opened s) = (.error e, left)) :
    block reopens refused body (idle s) =
      (.error e, { (if left.active then left.rollback else left) with inBlock := false }) := by
  have hbody : body ⟨s, s, true, true⟩ = (.error e, left) := h
  simp [block, begin?, idle, hbody]

/-- Inside a block whose transaction was ended, a second block is refused unless the
session reopens. -/
theorem block_closed (hblock : session.inBlock = true) (hclosed : reopens = false) :
    block reopens refused body session = (.error refused, session) := by
  simp [block, begin?, hblock, hclosed]

end Session

end Foundation
