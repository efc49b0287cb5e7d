import Mathlib.Algebra.Order.Ring.Int
import Afcon360.Foundation.Run

/-!
# Mobile tokens

Access and refresh tokens of the native apps live in Redis under the digest of the token,
each with its record and a lifetime. A refresh token is exchanged by a script that deletes
it, leaves a marker of its use and stores its successor. A session is revoked by deleting
the keys it registered and setting a marker that outlives every token.

The steps are single Redis commands, `MULTI` blocks and scripts. A call of several commands
is cut between them and goes on later; a call that is never taken up has crashed.
-/

namespace Afcon360.Auth.Mobile

open Foundation

/-- Milliseconds since the epoch. -/
abbrev Instant := ℤ

def accessTtlSeconds : ℤ := 10 * 60
def refreshTtlSeconds : ℤ := 30 * 24 * 60 * 60
def sessionRevokeTtlSeconds : ℤ := 90 * 24 * 60 * 60

/-- A lifetime in seconds. -/
def lifetime (seconds : ℤ) : ℤ := seconds * 1000

inductive TokenType
  | access | refresh
  deriving DecidableEq, Repr

/-- The record stored with a token. -/
structure TokenRecord where
  userPublicId : String
  sessionId : String
  serverSessionId : String
  client : String
  deviceId : String
  issuedAt : ℤ
  tokenType : TokenType
  deriving DecidableEq, Repr

/-- A key of `_token_key`: the kind and the token behind the digest. -/
inductive TokenKey
  | access (token : String)
  | refresh (token : String)
  | refreshUsed (token : String)
  deriving DecidableEq, Repr

/-! ## Redis -/

/-- The keys of the three families, with the instant at which each expires. -/
structure Redis where
  tokens : TokenKey → Option (TokenRecord × Instant) := fun _ => none
  sessionKeys : String → Option (List TokenKey × Instant) := fun _ => none
  revoked : String → Option Instant := fun _ => none

namespace Redis

/-- `GET` -/
def get (redis : Redis) (now : Instant) (key : TokenKey) : Option TokenRecord :=
  ((redis.tokens key).filter (fun entry => now < entry.2)).map Prod.fst

/-- `SETEX` -/
def setex (redis : Redis) (now : Instant) (key : TokenKey) (seconds : ℤ) (record : TokenRecord) :
    Redis :=
  { redis with tokens := Function.update redis.tokens key (some (record, now + lifetime seconds)) }

/-- `DEL` -/
def delete (redis : Redis) (key : TokenKey) : Redis :=
  { redis with tokens := Function.update redis.tokens key none }

/-- `SMEMBERS` on the set of a session. -/
def smembers (redis : Redis) (now : Instant) (session : String) : List TokenKey :=
  (((redis.sessionKeys session).filter (fun entry => now < entry.2)).map Prod.fst).getD []

/-- `SADD` and `EXPIRE` on the set of a session. -/
def register (redis : Redis) (now : Instant) (session : String) (keys : List TokenKey) : Redis :=
  { redis with
    sessionKeys := Function.update redis.sessionKeys session
      (some (redis.smembers now session ++ keys, now + lifetime refreshTtlSeconds)) }

/-- `DEL` on the set of a session. -/
def forget (redis : Redis) (session : String) : Redis :=
  { redis with sessionKeys := Function.update redis.sessionKeys session none }

/-- `EXISTS` on the marker of a revoked session. -/
def isRevoked (redis : Redis) (now : Instant) (session : String) : Bool :=
  (redis.revoked session).any (fun expiry => now < expiry)

/-- `SETEX` on the marker. -/
def markRevoked (redis : Redis) (now : Instant) (session : String) : Redis :=
  { redis with
    revoked := Function.update redis.revoked session
      (some (now + lifetime sessionRevokeTtlSeconds)) }

/-- The `MULTI` block of `issue_mobile_tokens`. -/
def issueBlock (redis : Redis) (now : Instant) (common : TokenRecord)
    (accessToken refreshToken : String) : Redis :=
  ((redis.setex now (.access accessToken) accessTtlSeconds
    { common with tokenType := .access }).setex
    now (.refresh refreshToken) refreshTtlSeconds { common with tokenType := .refresh }).register
      now
      common.sessionId [.access accessToken, .refresh refreshToken]

/-- The script of `rotate_mobile_refresh_token`. -/
def rotateScript (redis : Redis) (now : Instant) (token newToken : String) (record : TokenRecord) :
    ℤ × Redis :=
  if redis.isRevoked now record.sessionId then (-2, redis)
  else
    match redis.get now (.refresh token) with
    | none => if (redis.get now (.refreshUsed token)).isSome then (-1, redis) else (0, redis)
    | some current =>
      (1, (((redis.delete (.refresh token)).setex now (.refreshUsed token) refreshTtlSeconds
        current).setex now (.refresh newToken) refreshTtlSeconds record).register now
          record.sessionId [.refresh newToken])

/-- The `MULTI` block of `store_rotated_access_token`. -/
def storeBlock (redis : Redis) (now : Instant) (token : String) (record : TokenRecord) : Redis :=
  (redis.setex now (.access token) accessTtlSeconds record).register now record.sessionId
    [.access token]

/-- The `MULTI` block of `mark_mobile_session_revoked`, with the keys read before. -/
def revokeBlock (redis : Redis) (now : Instant) (session : String) (keys : List TokenKey) : Redis :=
  (keys.foldl delete (redis.markRevoked now session)).forget session

end Redis

/-! ## Calls -/

/-- A refresh token that was stored: its record, when, and the first token of its line. -/
structure RefreshToken where
  token : String
  record : TokenRecord
  storedAt : Instant
  root : String
  deriving DecidableEq, Repr

/-- Redis, the calls under way, what requests keep in `flask.g`, and the history. -/
structure System where
  redis : Redis := {}
  clock : Instant := 0
  /-- Loads that have read their token and will look at the marker next. -/
  loading : List (ℕ × String × TokenRecord) := []
  /-- Revocations that have read the keys of their session. -/
  revoking : List (String × List TokenKey) := []
  /-- The context a request has authenticated, by token. -/
  contexts : ℕ → Option (String × TokenRecord) := fun _ => none
  stored : List RefreshToken := []
  exchanged : List String := []
  completed : List (String × Instant) := []

/-- A command. A load is answered from the request, or reads its token; the marker comes
after that, and then the sessions and the user in the database decide. -/
inductive Command
  | issue (common : TokenRecord) (accessToken refreshToken : String)
  | rotate (token newToken : String) (record : TokenRecord)
  | storeAccess (token : String) (record : TokenRecord)
  | readKeys (session : String)
  | revoke (place : ℕ)
  | load (request : ℕ) (token : String)
  | checkMarker (place : ℕ) (admitted : Bool)

/-- What a command shows. -/
inductive Event
  | issued
  | rotated (code : ℤ)
  | stored
  | keysRead
  | revoked (session : String)
  | tokenRead
  | cached (record : TokenRecord)
  | authenticated (record : TokenRecord)
  | refused
  deriving DecidableEq

namespace System

/-- The refresh token was stored at some time. -/
def knows (s : System) (token : String) : Bool := s.stored.any (fun row => row.token = token)

/-- The record a caller passes with a refresh token is that stored with it, issued anew. -/
def passes (s : System) (token : String) (record : TokenRecord) : Bool :=
  s.stored.all (fun row => row.token ≠ token ∨
    record = { row.record with issuedAt := record.issuedAt })

/-- The first token of the line a token belongs to. -/
def rootOf (s : System) (token : String) : String :=
  ((s.stored.find? (fun row => row.token = token)).map RefreshToken.root).getD token

/-- `rotate_mobile_refresh_token`. -/
def rotate (s : System) (now : Instant) (token newToken : String) (record : TokenRecord) :
    Event × System :=
  let (code, redis) := s.redis.rotateScript now token newToken record
  if code = 1 then
    (.rotated code,
      { s with
        redis
        stored := s.stored ++ [⟨newToken, record, now, s.rootOf token⟩]
        exchanged := s.exchanged ++ [token] })
  else (.rotated code, { s with redis })

/-- The first command of `load_mobile_bearer_context`, or its answer without one. -/
def load (s : System) (now : Instant) (request : ℕ) (token : String) : Event × System :=
  if token = "" ∨ 256 < token.length then (.refused, s)
  else
    match (s.contexts request).filter (fun context => context.1 = token) with
    | some context => (.cached context.2, s)
    | none =>
      match s.redis.get now (.access token) with
      | none => (.refused, s)
      | some record =>
        if record.tokenType ≠ .access ∨ record.userPublicId = "" ∨ record.sessionId = "" ∨
            record.serverSessionId = "" then (.refused, s)
        else (.tokenRead, { s with loading := s.loading ++ [(request, token, record)] })

/-- The marker, then the verdict of the database. -/
def checkMarker (s : System) (now : Instant) (place : ℕ) (admitted : Bool) :
    Option (Event × System) :=
  match s.loading[place]? with
  | none => none
  | some (request, token, record) =>
    let t := { s with loading := s.loading.eraseIdx place }
    if s.redis.isRevoked now record.sessionId ∨ ¬ admitted then some (.refused, t)
    else some (.authenticated record,
      { t with contexts := Function.update t.contexts request (some (token, record)) })

/-- The second command of `mark_mobile_session_revoked`. -/
def revoke (s : System) (now : Instant) (place : ℕ) : Option (Event × System) :=
  match s.revoking[place]? with
  | none => none
  | some (session, keys) =>
    some (.revoked session,
      { s with
        redis := s.redis.revokeBlock now session keys
        revoking := s.revoking.eraseIdx place
        completed := s.completed ++ [(session, now)] })

/-- One command at its time. New refresh tokens are fresh, and a rotation gets the record of
the token it presents. -/
def command (s : System) (now : Instant) : Command → Option (Event × System)
  | .issue common accessToken refreshToken =>
    if s.knows refreshToken then none
    else some (.issued,
      { s with
        redis := s.redis.issueBlock now common accessToken refreshToken
        stored := s.stored ++
          [⟨refreshToken, { common with tokenType := .refresh }, now, refreshToken⟩] })
  | .rotate token newToken record =>
    if s.knows newToken ∨ newToken = token ∨ ¬ s.passes token record then none
    else some (s.rotate now token newToken record)
  | .storeAccess token record =>
    some (.stored, { s with redis := s.redis.storeBlock now token record })
  | .readKeys session =>
    some (.keysRead,
      { s with revoking := s.revoking ++ [(session, s.redis.smembers now session)] })
  | .revoke place => s.revoke now place
  | .load request token => some (s.load now request token)
  | .checkMarker place admitted => s.checkMarker now place admitted

/-- A command with its time, which does not run backwards. -/
def step (s : System) (label : Instant × Command) : Option (Event × System) :=
  if s.clock ≤ label.1 then
    (s.command label.1 label.2).map (fun next => (next.1, { next.2 with clock := label.1 }))
  else none

def Step (s : System) (label : Instant × Command) (t : System) : Prop :=
  ∃ event, s.step label = some (event, t)

end System

end Afcon360.Auth.Mobile
