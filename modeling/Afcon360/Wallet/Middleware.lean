import Afcon360.Foundation.Json
import Afcon360.Foundation.Run
import Afcon360.Foundation.Table

/-!
# Idempotency middleware

`IdempotencyMiddleware` answers a repeated request from what it recorded at the first
one. There are two tiers. Redis is asked first, under a digest of the key and the
path; the table `idempotency_keys` is the fallback, under the key alone. A response
found in the table is put back into Redis, but under other field names than those
the middleware writes after a request.

A request arrives in one step and, if the handler has to run, is answered in a later
one, so requests may overlap. Redis may be unreachable at each single call and may
lose entries at any time; the database is reachable.
-/

namespace Afcon360.Wallet

open Foundation

inductive Method
  | get | head | options | post | put | patch | delete
  deriving DecidableEq, Repr

def Method.mutating : Method → Bool
  | .post | .put | .patch | .delete => true
  | _ => false

/-- What the middleware reads of a request. The key is the header
`X-Idempotency-Key`. -/
structure Request where
  method : Method
  idempotencyKey : Option String
  path : String

/-- The key under which the middleware handles the request, if it does. -/
def Request.key? (request : Request) : Option String :=
  if request.method.mutating then request.idempotencyKey.filter (fun key => key ≠ "") else none

inductive Body
  | json (value : Json)
  | text (raw : String)

structure Response where
  status : ℕ
  body : Body

namespace Response

/-- A status of the two hundreds. -/
def success (response : Response) : Bool := 200 ≤ response.status ∧ response.status < 300

/-- `get_json`; a response that is not JSON has none. -/
def getJson (response : Response) : Json :=
  match response.body with
  | .json value => value
  | .text _ => .null

end Response

/-- The configuration, the digest, and the column types of the database: whether it
takes a value as `resource_id` and a body as `response_body`. -/
structure MiddlewareEnv where
  sha256 : String → String
  ttlSeconds : ℕ := 86400
  requireClientRequestId : Bool := true
  takes : Json → Json → Bool

/-- `DEFAULT_TTL_SECONDS`. -/
def defaultTtlSeconds : ℕ := 86400

/-- `_get_key`. -/
def MiddlewareEnv.getKey (env : MiddlewareEnv) (key path : String) : String :=
  "idempotency:" ++ env.sha256 (key ++ ":" ++ path)

/-- A value in Redis with the time it is dropped at. -/
structure CacheEntry where
  data : Json
  expiresAt : ℕ

/-- A row of `idempotency_keys`. -/
structure KeyRow where
  keyValue : String
  responseStatus : ℕ
  responseBody : Json
  expiresAt : ℕ

/-- A request whose handler runs; `seen` is the number of requests that had been
answered when it arrived. -/
structure Pending where
  request : Request
  seen : ℕ

/-- A request with its answer. -/
structure Exchange where
  request : Request
  seen : ℕ
  executed : Bool
  response : Response
  answeredAt : ℕ

/-- The two tiers, the requests in progress and the answers given so far. -/
structure Server where
  now : ℕ := 0
  redis : String → Option CacheEntry := fun _ => none
  keys : Table KeyRow KeyRow.keyValue := ⟨[], List.nodup_nil⟩
  pending : List Pending := []
  log : List Exchange := []

/-- A status as it comes back from a decoded document. -/
def statusOf : Json → ℕ
  | .num value => value.num.toNat
  | _ => 0

/-- The document `_after_request` puts into Redis. -/
def cacheData (status : ℕ) (body : Json) : Json :=
  .obj [("status_code", .num status), ("body", body)]

/-- The document `_get_from_db` returns, and `_before_request` puts into Redis. -/
def dbResponse (status : ℕ) (body : Json) : Json :=
  .obj [("status", .num status), ("body", body)]

/-- The answer read from a document under the field name for its status. -/
def replay (field : String) (data : Json) : Response where
  status := statusOf (data.get field (.num 200))
  body := .json (data.get "body" (.obj []))

/-- The answer to a mutating request without a key. -/
def keyRequired : Response where
  status := 400
  body := .json (.obj
    [("status", .str "error"), ("code", .str "IDEMPOTENCY_KEY_REQUIRED"),
      ("message", .str "X-Idempotency-Key header is required for this request")])

namespace Server

variable {env : MiddlewareEnv} {s : Server}

/-- `redis.get`; an error is logged and taken as a miss. -/
def redisGet (s : Server) (up : Bool) (cacheKey : String) : Option Json :=
  if up then
    ((s.redis cacheKey).filter (fun entry => s.now < entry.expiresAt)).map CacheEntry.data
  else none

/-- `redis.setex`; `none` if it raises. -/
def redisSetex (s : Server) (up : Bool) (cacheKey : String) (ttl : ℕ) (data : Json) :
    Option Server :=
  if up ∧ 0 < ttl then
    some { s with redis := Function.update s.redis cacheKey (some ⟨data, s.now + ttl⟩) }
  else none

/-- `_get_from_db`. -/
def getFromDb (s : Server) (key : String) : Option KeyRow :=
  ((s.keys.lookup key).map Prod.snd).filter (fun row => s.now < row.expiresAt)

/-- `_before_request`: the tables after it, and the answer unless the handler has to
run. -/
def beforeRequest (env : MiddlewareEnv) (s : Server) (request : Request) (readUp writeUp : Bool) :
    Server × Option Response :=
  match request.key? with
  | none =>
    if request.method.mutating ∧ env.requireClientRequestId then (s, some keyRequired)
    else (s, none)
  | some key =>
    let cacheKey := env.getKey key request.path
    match s.redisGet readUp cacheKey with
    | some data => (s, some (replay "status_code" data))
    | none =>
      match s.getFromDb key with
      | some row =>
        let data := dbResponse row.responseStatus row.responseBody
        ((s.redisSetex writeUp cacheKey defaultTtlSeconds data).getD s,
          some (replay "status" data))
      | none => (s, none)

/-- The last segment of the path. -/
def resourceType (path : String) : String :=
  if path = "" then "unknown"
  else String.ofList (path.toList.reverse.takeWhile (fun c => c ≠ '/')).reverse

def resourceId (data : Json) : Json :=
  (data.get "transaction_id" .null).orElse (data.get "id" .null)

/-- The row fits the columns of the table. -/
def fits (env : MiddlewareEnv) (key path : String) (data : Json) : Bool :=
  key.length ≤ 255 ∧ (resourceType path).length ≤ 50 ∧ env.takes (resourceId data) data

/-- `_save_to_db`: a key that is there already keeps its row. -/
def saveToDb (env : MiddlewareEnv) (s : Server) (key path : String) (status : ℕ) (data : Json) :
    Server :=
  if fits env key path data then
    match s.keys.insert? ⟨key, status, data, s.now + env.ttlSeconds⟩ with
    | some keys => { s with keys }
    | none => s
  else s

/-- `_after_request`. The table is written after Redis, so not if Redis raises; nor for
a body that has no fields to ask for. -/
def afterRequest (env : MiddlewareEnv) (s : Server) (request : Request) (response : Response)
    (storeUp : Bool) : Server :=
  match request.key? with
  | none => s
  | some key =>
    if response.success ∧ response.getJson.truthy then
      match s.redisSetex storeUp (env.getKey key request.path) env.ttlSeconds
          (cacheData response.status response.getJson) with
      | none => s
      | some stored =>
        if response.getJson.isObj then
          stored.saveToDb env key request.path response.status response.getJson
        else stored
    else s

/-- What happens to the server. -/
inductive Move
  | tick (seconds : ℕ)
  /-- Redis loses entries, all of them if it is emptied. -/
  | evict (lost : String → Bool)
  | arrive (request : Request) (readUp writeUp : Bool)
  /-- The handler of a pending request returns. -/
  | respond (position : ℕ) (response : Response) (storeUp : Bool)
  /-- The process of a pending request dies. -/
  | die (position : ℕ)

def arrive (env : MiddlewareEnv) (s : Server) (request : Request) (readUp writeUp : Bool) :
    Server :=
  match s.beforeRequest env request readUp writeUp with
  | (t, some response) =>
    { t with log := t.log ++ [⟨request, t.log.length, false, response, t.now⟩] }
  | (t, none) => { t with pending := t.pending ++ [⟨request, t.log.length⟩] }

def respond (env : MiddlewareEnv) (s : Server) (position : ℕ) (response : Response)
    (storeUp : Bool) : Server :=
  match s.pending[position]? with
  | none => s
  | some ⟨request, seen⟩ =>
    { s.afterRequest env request response storeUp with
      pending := s.pending.eraseIdx position
      log := s.log ++ [⟨request, seen, true, response, s.now⟩] }

def move (env : MiddlewareEnv) (s : Server) : Move → Server
  | .tick seconds => { s with now := s.now + seconds }
  | .evict lost =>
    { s with redis := fun cacheKey => if lost cacheKey then none else s.redis cacheKey }
  | .arrive request readUp writeUp => s.arrive env request readUp writeUp
  | .respond position response storeUp => s.respond env position response storeUp
  | .die position => { s with pending := s.pending.eraseIdx position }

def Step (env : MiddlewareEnv) (s : Server) (a : Move) (t : Server) : Prop := s.move env a = t

/-- The exchange is a successful run of the handler for the key on the path. -/
def Succeeded (key path : String) (exchange : Exchange) : Bool :=
  exchange.executed ∧ exchange.request.key? = some key ∧ exchange.request.path = path ∧
    exchange.response.success

/-- The first successful response to the key on the path. -/
def firstSuccess (log : List Exchange) (key path : String) : Option Response :=
  (log.find? (Succeeded key path)).map Exchange.response

/-- A request with a key that arrived after a first success on its path was answered
with that response, and the handler did not run; any other was answered by its
handler. -/
def Faithful (log : List Exchange) (exchange : Exchange) : Prop :=
  ∀ key, exchange.request.key? = some key →
    (∀ response,
      firstSuccess (log.take exchange.seen) key exchange.request.path = some response →
        exchange.response = response ∧ exchange.executed = false) ∧
    (firstSuccess (log.take exchange.seen) key exchange.request.path = none →
      exchange.executed = true)

/-- All answers given so far are faithful. -/
def Truthful (s : Server) : Prop := ∀ exchange ∈ s.log, Faithful s.log exchange

/-- The exchange is a success that is found under the key, in the table, or under the
digest, in Redis. -/
def Collides (env : MiddlewareEnv) (key path : String) (exchange : Exchange) : Prop :=
  ∃ key' path', Succeeded key' path' exchange ∧
    (key' = key ∨ env.getKey key' path' = env.getKey key path)

/-- A request with a key on a path: the key, or another one with the same digest, has
not succeeded on another path; a success of it has not expired, or is still in
Redis; and an entry of Redis without a status code, one restored from the table, is
of the status 200. -/
def Answerable (env : MiddlewareEnv) (s : Server) (key path : String) (readUp : Bool) : Prop :=
  (∀ exchange ∈ s.log, Collides env key path exchange → Succeeded key path exchange) ∧
  (∀ exchange ∈ s.log, Succeeded key path exchange →
    s.now < exchange.answeredAt + env.ttlSeconds ∨
      (s.redisGet readUp (env.getKey key path)).isSome) ∧
  (∀ data, s.redisGet readUp (env.getKey key path) = some data →
    data.get? "status_code" = none → statusOf (data.get "status" .null) = 200)

/-- A successful response to a key on a path: Redis takes it, its body is an object
with fields that fits the table, and the key, or another one with the same digest,
has not succeeded meanwhile. -/
def Storable (env : MiddlewareEnv) (s : Server) (key path : String) (response : Response)
    (storeUp : Bool) : Prop :=
  (storeUp ∧ 0 < env.ttlSeconds) ∧ response.getJson.truthy ∧ response.getJson.isObj ∧
    fits env key path response.getJson ∧
    ∀ exchange ∈ s.log, ¬ Collides env key path exchange

/-- The moves after which both tiers still hold the first successes. -/
def Recorded (env : MiddlewareEnv) (s : Server) : Move → Prop
  | .arrive request readUp _ =>
    ∀ key, request.key? = some key → s.Answerable env key request.path readUp
  | .respond position response storeUp =>
    ∀ request seen key, s.pending[position]? = some ⟨request, seen⟩ → request.key? = some key →
      response.success → s.Storable env key request.path response storeUp
  | _ => True

section Encoding

variable {status : ℕ} {body : Json}

@[simp] theorem statusOf_num (status : ℕ) : statusOf (.num status) = status := by
  simp [statusOf]

theorem replay_cacheData : replay "status_code" (cacheData status body) = ⟨status, .json body⟩ := by
  simp [replay, cacheData, Json.get, Json.get?, List.lookup_cons]

theorem replay_dbResponse : replay "status" (dbResponse status body) = ⟨status, .json body⟩ := by
  simp [replay, dbResponse, Json.get, Json.get?, List.lookup_cons]

theorem dbResponse_status_code : (dbResponse status body).get? "status_code" = none := by
  simp [dbResponse, Json.get?, List.lookup_cons]

theorem dbResponse_status : statusOf ((dbResponse status body).get "status" .null) = status := by
  simp [dbResponse, Json.get, Json.get?]

theorem replay_restored : replay "status_code" (dbResponse status body) = ⟨200, .json body⟩ := by
  simp [replay, dbResponse, Json.get, Json.get?, List.lookup_cons, statusOf]

end Encoding

section Log

variable {log : List Exchange} {key path : String} {exchange : Exchange}

theorem succeeded_iff :
    Succeeded key path exchange = true ↔
      exchange.executed = true ∧ exchange.request.key? = some key ∧ exchange.request.path = path ∧
        exchange.response.success = true := by
  simp [Succeeded]

theorem succeeded_key {key' path' : String} (h : Succeeded key path exchange)
    (h' : Succeeded key' path' exchange) : key' = key := by
  have hkey := (succeeded_iff.mp h).2.1
  have hkey' := (succeeded_iff.mp h').2.1
  exact Option.some.inj (hkey'.symm.trans hkey)

theorem firstSuccess_none :
    firstSuccess log key path = none ↔ ∀ exchange ∈ log, ¬ Succeeded key path exchange := by
  simp [firstSuccess]

/-- If all successes for the key on the path are one exchange, it is the first. -/
theorem firstSuccess_eq (hmem : exchange ∈ log) (hsucceeded : Succeeded key path exchange)
    (halone : ∀ other ∈ log, Succeeded key path other → other = exchange) :
    firstSuccess log key path = some exchange.response := by
  unfold firstSuccess
  cases hfind : log.find? (Succeeded key path) with
  | none => exact absurd hsucceeded (List.find?_eq_none.mp hfind exchange hmem)
  | some found =>
    rw [halone found (List.mem_of_find?_eq_some hfind) (List.find?_some hfind)]
    rfl

end Log

/-- The row is the record of the exchange. -/
structure Keeps (env : MiddlewareEnv) (exchange : Exchange) (row : KeyRow) : Prop where
  succeeded : ∃ path, Succeeded row.keyValue path exchange
  response : exchange.response = ⟨row.responseStatus, .json row.responseBody⟩
  expires : row.expiresAt = exchange.answeredAt + env.ttlSeconds

/-- The entry of Redis is the response of the exchange, stored or restored. -/
structure Caches (env : MiddlewareEnv) (exchange : Exchange) (cacheKey : String) (data : Json) :
    Prop where
  succeeded : ∃ key path, Succeeded key path exchange ∧ cacheKey = env.getKey key path
  response : ∃ status body, exchange.response = ⟨status, .json body⟩ ∧
    (data = cacheData status body ∨ data = dbResponse status body)

/-- Both tiers hold successes of the log and the table holds all of them; a key has one
success; and the answers are the right ones so far. -/
structure Inv (env : MiddlewareEnv) (s : Server) : Prop where
  rows : ∀ row ∈ s.keys.rows, ∃ exchange ∈ s.log, Keeps env exchange row
  kept : ∀ exchange ∈ s.log, ∀ key path, Succeeded key path exchange →
    ∃ row ∈ s.keys.rows, row.keyValue = key ∧ Keeps env exchange row
  cached : ∀ cacheKey entry, s.redis cacheKey = some entry →
    ∃ exchange ∈ s.log, Caches env exchange cacheKey entry.data
  alone : ∀ exchange ∈ s.log, ∀ other ∈ s.log, ∀ key path path', Succeeded key path exchange →
    Succeeded key path' other → other = exchange
  waiting : ∀ waits ∈ s.pending, waits.seen ≤ s.log.length ∧
    ∀ key, waits.request.key? = some key →
      firstSuccess (s.log.take waits.seen) key waits.request.path = none
  seen : ∀ exchange ∈ s.log, exchange.seen ≤ s.log.length
  truthful : s.Truthful

theorem Faithful.append {log : List Exchange} {exchange : Exchange} (h : Faithful log exchange)
    (hseen : exchange.seen ≤ log.length) (new : Exchange) : Faithful (log ++ [new]) exchange := by
  unfold Faithful
  rw [List.take_append_of_le_length hseen]
  exact h

section Answers

variable {exchange : Exchange}

theorem Inv.seen_append (inv : Inv env s) (hseen : exchange.seen ≤ s.log.length) :
    ∀ other ∈ s.log ++ [exchange], other.seen ≤ (s.log ++ [exchange]).length := by
  intro other hother
  rw [List.length_append, List.length_singleton]
  obtain hother | hother := List.mem_append.mp hother
  · exact Nat.le_succ_of_le (inv.seen other hother)
  · rw [List.mem_singleton.mp hother]
    exact Nat.le_succ_of_le hseen

theorem Inv.truthful_append (inv : Inv env s) (hseen : exchange.seen ≤ s.log.length)
    (hfaithful : Faithful s.log exchange) :
    ∀ other ∈ s.log ++ [exchange], Faithful (s.log ++ [exchange]) other := by
  intro other hother
  obtain hother | hother := List.mem_append.mp hother
  · exact (inv.truthful other hother).append (inv.seen other hother) exchange
  · rw [List.mem_singleton.mp hother]
    exact hfaithful.append hseen exchange

theorem Inv.waiting_append (inv : Inv env s) (exchange : Exchange) :
    ∀ waits ∈ s.pending, waits.seen ≤ (s.log ++ [exchange]).length ∧
      ∀ key, waits.request.key? = some key →
        firstSuccess ((s.log ++ [exchange]).take waits.seen) key waits.request.path = none := by
  intro waits hwaits
  obtain ⟨hseen, hnone⟩ := inv.waiting waits hwaits
  rw [List.take_append_of_le_length hseen, List.length_append]
  exact ⟨Nat.le_add_right_of_le hseen, hnone⟩

/-- An answer that is not a new success leaves the tiers as they are. -/
theorem Inv.answer (inv : Inv env s) (hseen : exchange.seen ≤ s.log.length)
    (hfaithful : Faithful s.log exchange) (hnot : ∀ key path, ¬ Succeeded key path exchange) :
    Inv env { s with log := s.log ++ [exchange] } where
  rows := by
    intro row hrow
    obtain ⟨kept, hkept, hkeeps⟩ := inv.rows row hrow
    exact ⟨kept, List.mem_append_left _ hkept, hkeeps⟩
  kept := by
    intro other hother key path hsucceeded
    obtain hother | hother := List.mem_append.mp hother
    · exact inv.kept other hother key path hsucceeded
    · rw [List.mem_singleton.mp hother] at hsucceeded
      exact absurd hsucceeded (hnot key path)
  cached := by
    intro cacheKey entry hentry
    obtain ⟨kept, hkept, hcaches⟩ := inv.cached cacheKey entry hentry
    exact ⟨kept, List.mem_append_left _ hkept, hcaches⟩
  alone := by
    intro first hfirst second hsecond key path path' hsucceeded hsucceeded'
    obtain hfirst | hfirst := List.mem_append.mp hfirst
    · obtain hsecond | hsecond := List.mem_append.mp hsecond
      · exact inv.alone first hfirst second hsecond key path path' hsucceeded hsucceeded'
      · rw [List.mem_singleton.mp hsecond] at hsucceeded'
        exact absurd hsucceeded' (hnot key path')
    · rw [List.mem_singleton.mp hfirst] at hsucceeded
      exact absurd hsucceeded (hnot key path)
  waiting := inv.waiting_append exchange
  seen := inv.seen_append hseen
  truthful := inv.truthful_append hseen hfaithful

end Answers

theorem restored_log {up : Bool} {cacheKey : String} {ttl : ℕ} {data : Json} :
    ((s.redisSetex up cacheKey ttl data).getD s).log = s.log := by
  unfold redisSetex
  split <;> rfl

/-- Redis may be given a response it does not hold yet, restored from the table. -/
theorem Inv.restore (inv : Inv env s) (up : Bool) (ttl : ℕ) {row : KeyRow} {path cacheKey : String}
    {exchange : Exchange} (hmem : exchange ∈ s.log) (hkeeps : Keeps env exchange row)
    (hsucceeded : Succeeded row.keyValue path exchange)
    (hcacheKey : cacheKey = env.getKey row.keyValue path) :
    Inv env ((s.redisSetex up cacheKey ttl
      (dbResponse row.responseStatus row.responseBody)).getD s) := by
  unfold redisSetex
  split
  · refine { inv with cached := ?_ }
    intro other entry hentry
    change Function.update s.redis cacheKey _ other = some entry at hentry
    rw [Function.update_apply] at hentry
    split at hentry
    · rename_i hother
      cases hentry
      refine ⟨exchange, hmem, ⟨row.keyValue, path, hsucceeded, hother.trans hcacheKey⟩, ?_⟩
      exact ⟨row.responseStatus, row.responseBody, hkeeps.response, .inr rfl⟩
    · exact inv.cached other entry hentry
  · exact inv

section Lookup

variable {key path : String} {readUp : Bool} {data : Json} {row : KeyRow} {exchange : Exchange}

theorem redisGet_some {cacheKey : String} (h : s.redisGet readUp cacheKey = some data) :
    ∃ entry, s.redis cacheKey = some entry ∧ entry.data = data := by
  unfold redisGet at h
  split at h
  · obtain ⟨entry, hentry, rfl⟩ := Option.map_eq_some_iff.mp h
    exact ⟨entry, (Option.filter_eq_some_iff.mp hentry).1, rfl⟩
  · cases h

theorem getFromDb_some (h : s.getFromDb key = some row) : row ∈ s.keys.rows ∧
    row.keyValue = key := by
  obtain ⟨hrow, -⟩ := Option.filter_eq_some_iff.mp h
  obtain ⟨⟨position, found⟩, hfound, rfl⟩ := Option.map_eq_some_iff.mp hrow
  obtain ⟨hget, hkey⟩ := Table.lookup_eq_some_iff.mp hfound
  exact ⟨List.mem_of_getElem? hget, hkey⟩

theorem getFromDb_live (hmem : row ∈ s.keys.rows) (hlive : s.now < row.expiresAt) :
    s.getFromDb row.keyValue = some row := by
  obtain ⟨position, hposition⟩ := List.mem_iff_getElem?.mp hmem
  have hlookup : s.keys.lookup row.keyValue = some (position, row) :=
    Table.lookup_eq_some_iff.mpr ⟨hposition, rfl⟩
  simp [getFromDb, hlookup, hlive]

/-- What Redis answers is the response of a success for the key on the path. -/
theorem Inv.replays_cached (inv : Inv env s) (hanswerable : s.Answerable env key path readUp)
    (hget : s.redisGet readUp (env.getKey key path) = some data) :
    ∃ exchange ∈ s.log, Succeeded key path exchange ∧
      exchange.response = replay "status_code" data := by
  obtain ⟨hclear, -, hstatus⟩ := hanswerable
  obtain ⟨entry, hentry, rfl⟩ := redisGet_some hget
  obtain ⟨exchange, hmem, ⟨key', path', hsucceeded, hdigest⟩, status, body, hresponse, hdata⟩ :=
    inv.cached _ entry hentry
  refine ⟨exchange, hmem, hclear exchange hmem ⟨key', path', hsucceeded, .inr hdigest.symm⟩, ?_⟩
  obtain hdata | hdata := hdata
  · rw [hdata, replay_cacheData, hresponse]
  · have htwo := hstatus entry.data hget
    rw [hdata, dbResponse_status] at htwo
    rw [hdata, replay_restored, hresponse, htwo dbResponse_status_code]

/-- What the table answers is the response of a success for the key on the path. -/
theorem Inv.replays_row (inv : Inv env s) (hanswerable : s.Answerable env key path readUp)
    (hrow : s.getFromDb key = some row) :
    ∃ exchange ∈ s.log, Succeeded key path exchange ∧ Keeps env exchange row := by
  obtain ⟨hmem, hkey⟩ := getFromDb_some hrow
  obtain ⟨exchange, hexchange, hkeeps⟩ := inv.rows row hmem
  obtain ⟨path', hsucceeded⟩ := hkeeps.succeeded
  refine ⟨exchange, hexchange, ?_, hkeeps⟩
  exact hanswerable.1 exchange hexchange ⟨row.keyValue, path', hsucceeded, .inl hkey⟩

/-- If neither tier answers, there is no success yet. -/
theorem Inv.first_if_missed (inv : Inv env s) (hanswerable : s.Answerable env key path readUp)
    (hget : s.redisGet readUp (env.getKey key path) = none) (hrow : s.getFromDb key = none) :
    ∀ exchange ∈ s.log, ¬ Succeeded key path exchange := by
  intro exchange hmem hsucceeded
  obtain ⟨row, hrowmem, rfl, hkeeps⟩ := inv.kept exchange hmem key path hsucceeded
  have hlive : s.now < row.expiresAt := by
    obtain hlive | hhit := hanswerable.2.1 exchange hmem hsucceeded
    · rw [hkeeps.expires]
      exact hlive
    · rw [hget] at hhit
      cases hhit
  rw [getFromDb_live hrowmem hlive] at hrow
  cases hrow

/-- The replay of a success is faithful. -/
theorem Inv.faithful_replay (inv : Inv env s) {request : Request}
    (hkey : request.key? = some key) (hmem : exchange ∈ s.log)
    (hsucceeded : Succeeded key request.path exchange) (time : ℕ) :
    Faithful s.log ⟨request, s.log.length, false, exchange.response, time⟩ := by
  intro key' hkey'
  cases hkey.symm.trans hkey'
  have hfirst : firstSuccess (s.log.take s.log.length) key request.path =
      some exchange.response := by
    rw [List.take_length]
    refine firstSuccess_eq hmem hsucceeded ?_
    intro other hother hsucceeded'
    exact inv.alone exchange hmem other hother key _ _ hsucceeded hsucceeded'
  refine ⟨?_, ?_⟩
  · intro response hresponse
    exact ⟨Option.some.inj (hfirst.symm.trans hresponse), rfl⟩
  · intro hnone
    rw [hfirst] at hnone
    cases hnone

end Lookup

section Steps

variable {request : Request} {readUp writeUp : Bool}

/-- A request whose handler starts. -/
theorem Inv.wait (inv : Inv env s)
    (hfirst : ∀ key, request.key? = some key →
      ∀ exchange ∈ s.log, ¬ Succeeded key request.path exchange) :
    Inv env { s with pending := s.pending ++ [⟨request, s.log.length⟩] } := by
  refine { inv with waiting := ?_ }
  intro waits hwaits
  obtain hwaits | hwaits := List.mem_append.mp hwaits
  · exact inv.waiting waits hwaits
  · obtain rfl := List.mem_singleton.mp hwaits
    refine ⟨le_refl _, ?_⟩
    intro key hkey
    rw [List.take_length]
    exact firstSuccess_none.mpr (hfirst key hkey)

theorem not_succeeded_replay (response : Response) (seen time : ℕ) (key path : String) :
    ¬ Succeeded key path ⟨request, seen, false, response, time⟩ := by
  simp [Succeeded]

theorem arrive_inv (inv : Inv env s) (hrecorded : s.Recorded env (.arrive request readUp writeUp)) :
    Inv env (s.arrive env request readUp writeUp) := by
  unfold arrive beforeRequest
  cases hkey : request.key? with
  | none =>
    have hvacuous : ∀ {goal : Prop} key, request.key? = some key → goal := by
      intro goal key h
      rw [hkey] at h
      cases h
    dsimp only
    by_cases hrequired : request.method.mutating ∧ env.requireClientRequestId
    · rw [if_pos hrequired]
      exact inv.answer (le_refl _) (fun key h => hvacuous key h) (not_succeeded_replay _ _ _)
    · rw [if_neg hrequired]
      exact inv.wait (fun key h => hvacuous key h)
  | some key =>
    have hanswerable := hrecorded key hkey
    dsimp only
    cases hget : s.redisGet readUp (env.getKey key request.path) with
    | some data =>
      obtain ⟨exchange, hmem, hsucceeded, hresponse⟩ := inv.replays_cached hanswerable hget
      have hfaithful := inv.faithful_replay hkey hmem hsucceeded s.now
      rw [hresponse] at hfaithful
      exact inv.answer (le_refl _) hfaithful (not_succeeded_replay _ _ _)
    | none =>
      cases hrow : s.getFromDb key with
      | some row =>
        obtain ⟨exchange, hmem, hsucceeded, hkeeps⟩ := inv.replays_row hanswerable hrow
        obtain rfl := (getFromDb_some hrow).2
        have hrestored := inv.restore writeUp defaultTtlSeconds hmem hkeeps hsucceeded rfl
        have hfaithful := hrestored.faithful_replay hkey (restored_log.symm ▸ hmem) hsucceeded
          (s.redisSetex writeUp (env.getKey row.keyValue request.path) defaultTtlSeconds
            (dbResponse row.responseStatus row.responseBody) |>.getD s).now
        rw [hkeeps.response, ← replay_dbResponse] at hfaithful
        exact hrestored.answer (le_refl _) hfaithful (not_succeeded_replay _ _ _)
      | none =>
        refine inv.wait ?_
        intro key' hkey'
        cases hkey.symm.trans hkey'
        exact inv.first_if_missed hanswerable hget hrow

theorem Inv.gone (inv : Inv env s) (position : ℕ) :
    Inv env { s with pending := s.pending.eraseIdx position } :=
  { inv with waiting := fun waits hwaits => inv.waiting waits (List.mem_of_mem_eraseIdx hwaits) }

variable {key : String} {response : Response} {storeUp : Bool} {seen : ℕ}

/-- The answer of a handler is faithful, since there was no success when the request
arrived. -/
theorem Inv.faithful_run (inv : Inv env s) (hwaits : ⟨request, seen⟩ ∈ s.pending) (time : ℕ) :
    Faithful s.log ⟨request, seen, true, response, time⟩ := by
  intro key hkey
  have hnone := (inv.waiting _ hwaits).2 key hkey
  refine ⟨?_, fun _ => rfl⟩
  intro found hfound
  rw [hnone] at hfound
  cases hfound

/-- No row has the key of a success that is the first one. -/
theorem Inv.key_free (inv : Inv env s) {path : String}
    (hstorable : s.Storable env key path response storeUp) :
    ∀ position row, s.keys.get? position = some row → row.keyValue ≠ key := by
  intro position row hget hrowkey
  obtain ⟨exchange, hmem, hkeeps⟩ := inv.rows row (List.mem_of_getElem? hget)
  obtain ⟨path', hsucceeded⟩ := hkeeps.succeeded
  exact hstorable.2.2.2.2 exchange hmem ⟨row.keyValue, path', hsucceeded, .inl hrowkey⟩

/-- The first success goes to both tiers. -/
theorem Inv.stores (inv : Inv env s) (hkey : request.key? = some key)
    (hsuccess : response.success = true)
    (hstorable : s.Storable env key request.path response storeUp) :
    ∃ keys : Table KeyRow KeyRow.keyValue,
      keys.rows = s.keys.rows ++
        [⟨key, response.status, response.getJson, s.now + env.ttlSeconds⟩] ∧
      s.afterRequest env request response storeUp =
        { s with
          redis := Function.update s.redis (env.getKey key request.path)
            (some ⟨cacheData response.status response.getJson, s.now + env.ttlSeconds⟩)
          keys } := by
  have hfree : ∃ keys, s.keys.insert?
      ⟨key, response.status, response.getJson, s.now + env.ttlSeconds⟩ = some keys := by
    unfold Table.insert?
    split
    · rename_i htaken
      obtain ⟨row, hrow, hrowkey⟩ := List.mem_map.mp htaken
      obtain ⟨position, hposition⟩ := List.mem_iff_getElem?.mp hrow
      exact absurd hrowkey (inv.key_free hstorable position row hposition)
    · exact ⟨_, rfl⟩
  obtain ⟨keys, hinsert⟩ := hfree
  obtain ⟨hup, htruthy, hobj, hfits, -⟩ := hstorable
  refine ⟨keys, (Table.insert?_eq_some_iff.mp hinsert).2, ?_⟩
  simp only [afterRequest, hkey, hsuccess, htruthy, redisSetex, hup, hobj, saveToDb, hfits, hinsert,
    and_self, if_true]

/-- The response of a first success has a JSON body. -/
theorem response_eq (htruthy : response.getJson.truthy = true) :
    response = ⟨response.status, .json response.getJson⟩ := by
  obtain ⟨status, body⟩ := response
  cases body with
  | json value => rfl
  | text raw => cases htruthy

/-- Keep the first success for a key in both tiers. -/
theorem Inv.keep (inv : Inv env s) (hwaits : ⟨request, seen⟩ ∈ s.pending)
    (hkey : request.key? = some key) (hsuccess : response.success = true)
    (hstorable : s.Storable env key request.path response storeUp) :
    Inv env { s.afterRequest env request response storeUp with
      pending := s.pending, log := s.log ++ [⟨request, seen, true, response, s.now⟩] } := by
  obtain ⟨keys, hrows, hafter⟩ := inv.stores hkey hsuccess hstorable
  obtain ⟨-, htruthy, -, -, hclear⟩ := hstorable
  rw [hafter]
  have hnew : Succeeded key request.path ⟨request, seen, true, response, s.now⟩ :=
    succeeded_iff.mpr ⟨rfl, hkey, rfl, hsuccess⟩
  have hkeeps : Keeps env ⟨request, seen, true, response, s.now⟩
      ⟨key, response.status, response.getJson, s.now + env.ttlSeconds⟩ :=
    ⟨⟨request.path, hnew⟩, response_eq htruthy, rfl⟩
  have hseen := (inv.waiting _ hwaits).1
  have hold : ∀ exchange ∈ s.log, ∀ path, ¬ Succeeded key path exchange :=
    fun exchange hmem path hsucceeded => hclear exchange hmem ⟨key, path, hsucceeded, .inl rfl⟩
  refine ⟨?_, ?_, ?_, ?_, inv.waiting_append _, inv.seen_append hseen,
    inv.truthful_append hseen (inv.faithful_run hwaits s.now)⟩
  · intro row hrow
    rw [hrows] at hrow
    obtain hrow | hrow := List.mem_append.mp hrow
    · obtain ⟨exchange, hmem, hkept⟩ := inv.rows row hrow
      exact ⟨exchange, List.mem_append_left _ hmem, hkept⟩
    · rw [List.mem_singleton.mp hrow]
      exact ⟨_, List.mem_append_right _ List.mem_cons_self, hkeeps⟩
  · intro exchange hexchange key' path' hsucceeded
    rw [hrows]
    obtain hexchange | hexchange := List.mem_append.mp hexchange
    · obtain ⟨row, hrow, hkept⟩ := inv.kept exchange hexchange key' path' hsucceeded
      exact ⟨row, List.mem_append_left _ hrow, hkept⟩
    · obtain rfl := List.mem_singleton.mp hexchange
      exact ⟨_, List.mem_append_right _ List.mem_cons_self, (succeeded_key hnew hsucceeded).symm,
        hkeeps⟩
  · intro cacheKey entry hentry
    change Function.update s.redis _ _ cacheKey = some entry at hentry
    rw [Function.update_apply] at hentry
    split at hentry
    · rename_i hdigest
      cases hentry
      refine ⟨_, List.mem_append_right _ List.mem_cons_self, ⟨key, request.path, hnew, hdigest⟩, ?_⟩
      exact ⟨response.status, response.getJson, response_eq htruthy, .inl rfl⟩
    · obtain ⟨exchange, hmem, hcaches⟩ := inv.cached cacheKey entry hentry
      exact ⟨exchange, List.mem_append_left _ hmem, hcaches⟩
  · intro first hfirst second hsecond key' path path' hsucceeded hsucceeded'
    obtain hbefore | hlast := List.mem_append.mp hfirst
    · obtain hbefore' | hlast' := List.mem_append.mp hsecond
      · exact inv.alone first hbefore second hbefore' key' path path' hsucceeded hsucceeded'
      · obtain rfl := List.mem_singleton.mp hlast'
        obtain rfl := succeeded_key hnew hsucceeded'
        exact absurd hsucceeded (hold first hbefore path)
    · obtain rfl := List.mem_singleton.mp hlast
      obtain rfl := succeeded_key hnew hsucceeded
      obtain hbefore' | hlast' := List.mem_append.mp hsecond
      · exact absurd hsucceeded' (hold second hbefore' path')
      · exact List.mem_singleton.mp hlast'

theorem respond_inv (inv : Inv env s) {position : ℕ}
    (hrecorded : s.Recorded env (.respond position response storeUp)) :
    Inv env (s.respond env position response storeUp) := by
  unfold respond
  cases hpending : s.pending[position]? with
  | none => exact inv
  | some waits =>
    obtain ⟨request, seen⟩ := waits
    have hwaits := List.mem_of_getElem? hpending
    have hseen := (inv.waiting _ hwaits).1
    -- Only a success for a key is a new success.
    have hother : (∀ key path, ¬ Succeeded key path ⟨request, seen, true, response, s.now⟩) →
        s.afterRequest env request response storeUp = s →
        Inv env { s.afterRequest env request response storeUp with
          pending := s.pending.eraseIdx position
          log := s.log ++ [⟨request, seen, true, response, s.now⟩] } := by
      intro hnot hsame
      rw [hsame]
      exact (inv.answer hseen (inv.faithful_run hwaits s.now) hnot).gone position
    dsimp only
    cases hkey : request.key? with
    | none =>
      refine hother ?_ (by simp only [afterRequest, hkey])
      intro key path hsucceeded
      have hkeyed := (succeeded_iff.mp hsucceeded).2.1
      rw [show request.key? = some key from hkeyed] at hkey
      cases hkey
    | some key =>
      cases hsuccess : response.success with
      | false =>
        refine hother ?_ (by simp [afterRequest, hkey, hsuccess])
        intro key path hsucceeded
        have hresponse := (succeeded_iff.mp hsucceeded).2.2.2
        rw [show response.success = true from hresponse] at hsuccess
        cases hsuccess
      | true =>
        have hstorable := hrecorded request seen key hpending hkey hsuccess
        exact (inv.keep hwaits hkey hsuccess hstorable).gone position

theorem step_inv (s : Server) (a : Move) (t : Server) (inv : Inv env s)
    (hstep : Guarded (Recorded env) (Step env) s a t) : Inv env t := by
  obtain ⟨hrecorded, rfl⟩ := hstep
  cases a with
  | tick seconds => exact { inv with }
  | evict lost =>
    refine { inv with cached := ?_ }
    intro cacheKey entry hentry
    change (if lost cacheKey then none else s.redis cacheKey) = some entry at hentry
    split at hentry
    · cases hentry
    · exact inv.cached cacheKey entry hentry
  | arrive request readUp writeUp => exact arrive_inv inv hrecorded
  | respond position response storeUp => exact respond_inv inv hrecorded
  | die position => exact inv.gone position

end Steps

theorem inv_fresh : Inv env {} where
  rows := by simp
  kept := by simp
  cached := by simp
  alone := by simp
  waiting := by simp
  seen := by simp
  truthful := by simp [Truthful]

/-- While every move leaves both tiers with the first successes, every repeated
request is answered with the first successful response to its key on its path, and
its handler does not run. -/
theorem repeats_answered {labels : List Move}
    (run : Run (Guarded (Recorded env) (Step env)) {} labels s) : s.Truthful :=
  (run.invariant (Inv env) step_inv inv_fresh).truthful

/-- A configuration for a run on fixed requests, with a digest that keeps the text. -/
def sampleEnv : MiddlewareEnv where
  sha256 := id
  takes := fun _ _ => true

def posted (path : String) : Request := ⟨.post, some "k-1", path⟩

def created (status : ℕ) : Response := ⟨status, .json (.obj [("transaction_id", .str "t-1")])⟩

/-- The deposit succeeds, Redis is emptied and then cannot be written. -/
def depositThenLoss : List Move :=
  [.arrive (posted "/deposit") true true, .respond 0 (created 201) true, .evict (fun _ => true),
    .arrive (posted "/deposit") true false]

/-- The repetition is answered from the table. -/
theorem repeats_answered_deposit :
    ((depositThenLoss.foldl (move sampleEnv) {}).log.map
      (fun exchange => (exchange.executed, exchange.response.status))) =
        [(true, 201), (false, 201)] ∧
      (depositThenLoss.foldl (move sampleEnv) {}).Truthful := by
  refine ⟨by decide +kernel, ?_⟩
  have run : Run (Guarded (Recorded sampleEnv) (Step sampleEnv)) {} depositThenLoss
      (depositThenLoss.foldl (move sampleEnv) {}) := by
    refine .cons ⟨?_, rfl⟩ (.cons ⟨?_, rfl⟩ (.cons ⟨trivial, rfl⟩ (.single ⟨?_, rfl⟩)))
    · intro key _
      exact ⟨nofun, nofun, nofun⟩
    · intro request seen key hpending hkey _
      obtain rfl : posted "/deposit" = request :=
        congrArg Pending.request (Option.some.inj hpending)
      obtain rfl : "k-1" = key := Option.some.inj hkey
      exact ⟨by decide, rfl, rfl, by decide +kernel, nofun⟩
    · intro key hkey
      obtain rfl : "k-1" = key := Option.some.inj hkey
      have hsucceeded : Succeeded "k-1" "/deposit"
          ⟨posted "/deposit", 0, true, created 201, 0⟩ := by decide +kernel
      refine ⟨?_, ?_, nofun⟩
      · intro exchange hexchange _
        rw [List.mem_singleton.mp hexchange]
        exact hsucceeded
      · intro exchange hexchange _
        rw [List.mem_singleton.mp hexchange]
        exact .inl (by decide)
  exact repeats_answered run

/-- The deposit succeeds with the status 201, Redis is emptied, one repetition restores
the response to Redis and the next one reads it there. -/
def restoredDeposit : List Move :=
  [.arrive (posted "/deposit") true true, .respond 0 (created 201) true, .evict (fun _ => true),
    .arrive (posted "/deposit") true true, .arrive (posted "/deposit") true true]

/-- The key of the deposit is used for a withdrawal. -/
def depositThenWithdraw : List Move :=
  [.arrive (posted "/deposit") true true, .respond 0 (created 200) true,
    .arrive (posted "/withdraw") true true]

/-- Redis is down when the deposit succeeds; the deposit is repeated. -/
def unrecordedDeposit : List Move :=
  [.arrive (posted "/deposit") true true, .respond 0 (created 200) false,
    .arrive (posted "/deposit") true true, .respond 0 (created 200) true]

/-- The restored response comes back with the status 200; the withdrawal is answered
with the deposit; the deposit that was not recorded is made again. -/
theorem repeats_not_answered :
    ¬ (restoredDeposit.foldl (move sampleEnv) {}).Truthful ∧
      ¬ (depositThenWithdraw.foldl (move sampleEnv) {}).Truthful ∧
      ¬ (unrecordedDeposit.foldl (move sampleEnv) {}).Truthful := by
  refine ⟨?_, ?_, ?_⟩
  · intro h
    have hlast := h ⟨posted "/deposit", 2, false, created 200, 0⟩
      (.tail _ (.tail _ (.head _))) "k-1" rfl
    have hsame := (hlast.1 (created 201) rfl).1
    exact absurd (congrArg Response.status hsame) (by decide)
  · intro h
    have hlast := h ⟨posted "/withdraw", 1, false, created 200, 0⟩ (.tail _ (.head _)) "k-1" rfl
    exact Bool.false_ne_true (hlast.2 rfl)
  · intro h
    have hlast := h ⟨posted "/deposit", 1, true, created 200, 0⟩ (.tail _ (.head _)) "k-1" rfl
    exact Bool.false_ne_true (hlast.1 (created 200) rfl).2.symm

end Server

end Afcon360.Wallet
