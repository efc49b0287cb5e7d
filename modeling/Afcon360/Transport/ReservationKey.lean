import Afcon360.Transport.ReservationCoherence

/-!
# One reservation for a key

The unique constraint on the user and the key lets one reservation through. Whoever finds it
by the lookup compares fingerprints. Whoever looks too early meets the constraint at its
insert and goes to a recovery path that looks the winner up again, with positional arguments
that the lookup does not take.

Two requests are the same when they would create reservations with equal fields. The
fingerprint sees the request and not the reservation: it tells two spellings of a stored
value apart, and it does not see the authority evidence or a default that the policy fills in.
-/

namespace Afcon360.Transport

open Foundation

/-- The fields of a reservation that its request decides, with codes in one spelling, and the
vehicles of its lines in order. -/
structure Material where
  header : TransportReservation
  vehicles : List ℤ
deriving DecidableEq, Repr

def TransportReservation.header (row : TransportReservation) : TransportReservation :=
  { row.terms with
    requestFingerprint := ""
    pool := ⟨(strip row.pool.providerType).toLower, row.pool.providerId,
      (strip row.pool.offeringCode).toLower⟩
    mode := (strip row.mode).toLower }

/-- The vehicles of the lines of a reservation. -/
def lineVehiclesOf (lines : List TransportReservationLine) (reservationId : ℕ) : List ℤ :=
  ((lines.filter (fun line => line.reservationId = reservationId)).filterMap
    (fun line => line.vehicleId)).insertionSort (· ≤ ·)

def ReservationTables.material (tables : ReservationTables) (reservationId : ℕ)
    (row : TransportReservation) : Material :=
  ⟨row.header, lineVehiclesOf tables.lines reservationId⟩

/-- The reservation that the request would create on its own; none when the policy or a
column refuses it. -/
def ReservationRequest.material (request : ReservationRequest) (context : ReservationContext)
    (user : ℕ) : Option Material :=
  match request.evaluate context user with
  | .error _ => none
  | .ok decision =>
    let row := request.draft (fun _ => "") user decision
    if row.fits then some ⟨row.header, lineVehiclesOf (request.materialiseLines 0) 0⟩ else none

/-- The policy reference a request ends up with. -/
def ReservationRequest.resolvedPolicyRef (request : ReservationRequest)
    (context : ReservationContext) : Option String :=
  request.commercialPolicyRef.filter (fun text => text ≠ "") <|>
    context.commercialPolicy request.offeringCode

/-- Two requests that the fingerprint tells apart exactly when their reservations differ:
what it does not see agrees when all it sees does, and equal reservations are asked for with
the same amount text, method, policy reference and list of vehicles. -/
structure SpelledAlike (context : ReservationContext) (user : ℕ)
    (request request' : ReservationRequest) : Prop where
  hidden : request.canonical = request'.canonical →
    request.authorityEvidence.getD [] = request'.authorityEvidence.getD [] ∧
      request.resolvedPolicyRef context = request'.resolvedPolicyRef context
  visible : request.material context user = request'.material context user →
    request.canonical.estimatedValue = request'.canonical.estimatedValue ∧
      request.canonical.paymentMethod = request'.canonical.paymentMethod ∧
      request.commercialPolicyRef = request'.commercialPolicyRef ∧
      request.canonical.specificVehicleIds = request'.canonical.specificVehicleIds

namespace ReservationRequest

variable {context : ReservationContext} {digest : CanonicalRequest → String} {user : ℕ}
variable {request request' : ReservationRequest}

theorem lineVehiclesOf_materialise (request : ReservationRequest) (reservationId : ℕ) :
    lineVehiclesOf (request.materialiseLines reservationId) reservationId =
      (request.lineVehicles.filterMap id).insertionSort (· ≤ ·) := by
  unfold lineVehiclesOf materialiseLines
  congr 1
  rw [List.filter_eq_self.mpr]
  · rw [List.filterMap_map]
    rfl
  · intro line hline
    obtain ⟨vehicle, -, rfl⟩ := List.mem_map.mp hline
    simp

theorem normalised_eq (text : Option String) :
    normalised text = (text.map (fun text => (strip text).toUpper)).filter
      (fun text => text ≠ "") := by
  cases text with
  | none => decide +kernel
  | some text => rfl

theorem mode_eq (hmode : request.mode ∈ reservationModes)
    (hmode' : request'.mode ∈ reservationModes)
    (h : (strip request.mode).toLower = (strip request'.mode).toLower) :
    request.mode = request'.mode := by
  simp only [reservationModes, List.mem_cons, List.not_mem_nil, or_false] at hmode hmode'
  rcases hmode with hmode | hmode <;> rcases hmode' with hmode' | hmode' <;>
    rw [hmode, hmode'] at h ⊢
  · exact absurd h (by decide +kernel)
  · exact absurd h (by decide +kernel)

theorem paymentTiming_congr (h : request.canonical = request'.canonical) :
    normalised request.paymentTiming = normalised request'.paymentTiming := by
  rw [normalised_eq, normalised_eq]
  exact congrArg (Option.filter _) (congrArg CanonicalRequest.paymentTiming h)

theorem paymentMethod_congr (h : request.canonical = request'.canonical) :
    normalised request.paymentMethod = normalised request'.paymentMethod := by
  rw [normalised_eq, normalised_eq]
  exact congrArg (Option.filter _) (congrArg CanonicalRequest.paymentMethod h)

/-- The evaluator sees what the canonical values and the policy reference decide. -/
theorem evaluate_congr (hcanonical : request.canonical = request'.canonical)
    (hpolicy : request.resolvedPolicyRef context = request'.resolvedPolicyRef context) :
    request.evaluate context user = request'.evaluate context user := by
  have htiming := paymentTiming_congr hcanonical
  have hmethod := paymentMethod_congr hcanonical
  have horganisation : request.onBehalfOfOrganisationId = request'.onBehalfOfOrganisationId :=
    congrArg CanonicalRequest.onBehalfOfOrganisationId hcanonical
  have hdeposit : ∀ timing, request.depositTerms context timing =
      request'.depositTerms context timing := by
    intro timing
    have hstart : request.windowStart.instant = request'.windowStart.instant :=
      congrArg CanonicalRequest.windowStart hcanonical
    have hvalue := congrArg (Option.map FixedPoint.value)
      (congrArg CanonicalRequest.estimatedValue hcanonical)
    simp only [canonical, Option.map_map, Function.comp_def, Decimal.value_formatF] at hvalue
    have hamount := congrArg (Option.map (fun value => value * context.depositPercent / 100)) hvalue
    simp only [Option.map_map, Function.comp_def] at hamount
    simp only [depositTerms, hstart, hamount]
  unfold resolvedPolicyRef at hpolicy
  simp only [evaluate, parseTiming, checkMethod, checkAuthority, htiming, hmethod, horganisation,
    hdeposit, hpolicy]

/-- Requests with the same canonical values, evidence and policy reference would create the
same reservation. -/
theorem material_of_canonical (hcanonical : request.canonical = request'.canonical)
    (hkey : request.idempotencyKey = request'.idempotencyKey)
    (hmode : request.mode ∈ reservationModes) (hmode' : request'.mode ∈ reservationModes)
    (hevidence : request.authorityEvidence.getD [] = request'.authorityEvidence.getD [])
    (hpolicy : request.resolvedPolicyRef context = request'.resolvedPolicyRef context) :
    request.material context user = request'.material context user := by
  have hsame := mode_eq hmode hmode' (congrArg CanonicalRequest.mode hcanonical)
  have hvehicles : request.vehicleIds.insertionSort (· ≤ ·) =
      request'.vehicleIds.insertionSort (· ≤ ·) :=
    congrArg CanonicalRequest.specificVehicleIds hcanonical
  have hquantity : request.requiredQuantity = request'.requiredQuantity :=
    congrArg CanonicalRequest.requiredQuantity hcanonical
  have hlines : lineVehiclesOf (request.materialiseLines 0) 0 =
      lineVehiclesOf (request'.materialiseLines 0) 0 := by
    rw [lineVehiclesOf_materialise, lineVehiclesOf_materialise]
    unfold lineVehicles isSpecific
    rw [hsame, hquantity]
    split
    · simpa [List.filterMap_map] using hvehicles
    · rfl
  have htotal : request.estimatedValue.map (fun amount => storedAmount amount.value) =
      request'.estimatedValue.map (fun amount => storedAmount amount.value) := by
    have hvalue := congrArg (Option.map (fun text => storedAmount (FixedPoint.value text)))
      (congrArg CanonicalRequest.estimatedValue hcanonical)
    simpa only [canonical, Option.map_map, Function.comp_def, Decimal.value_formatF] using hvalue
  have hheader : ∀ decision, (request.draft (fun _ => "") user decision).header =
      (request'.draft (fun _ => "") user decision).header := by
    intro decision
    have htiming := paymentTiming_congr hcanonical
    have hmethod := paymentMethod_congr hcanonical
    simp only [canonical, CanonicalRequest.mk.injEq] at hcanonical
    obtain ⟨hoffering, hprovider, hid, hstart, hend, -, -, -, -, -, horganisation, hevent, hsource,
      href, -, -⟩ := hcanonical
    simp only [TransportReservation.header, TransportReservation.terms, draft, pool, hoffering,
      hprovider, hid, hstart, hend, hquantity, hsame, htiming, hmethod, horganisation, hevent,
      hsource, href, htotal, hkey, hevidence]
  have hfits : ∀ decision, (request.draft (fun _ => "") user decision).fits =
      (request'.draft (fun _ => "") user decision).fits := by
    intro decision
    simp only [TransportReservation.fits, draft, htotal]
  unfold material
  rw [evaluate_congr hcanonical hpolicy]
  cases request'.evaluate context user with
  | error reason => rfl
  | ok decision => simp only [hheader decision, hfits decision, hlines]

theorem timing_of_evaluate {decision : PolicyDecision}
    (h : request.evaluate context user = .ok decision) :
    request.canonical.paymentTiming = normalised request.paymentTiming := by
  unfold evaluate at h
  obtain ⟨timing, htiming, -⟩ := bind_eq_ok.mp h
  cases htext : request.paymentTiming with
  | none =>
    have hnone : normalised request.paymentTiming = none := by
      rw [htext]
      decide +kernel
    simp [parseTiming, hnone] at htiming
  | some text =>
    have hsome : normalised (some text) =
        (some ((strip text).toUpper)).filter (fun text => text ≠ "") := rfl
    simp only [canonical, htext, Option.map_some]
    rw [hsome, Option.filter_some]
    split
    · rfl
    · rename_i hempty
      have hnone : normalised request.paymentTiming = none := by
        rw [htext, hsome, Option.filter_some, if_neg hempty]
      simp [parseTiming, hnone] at htiming

/-- Requests that create the same reservation and agree in the four spellings have the same
canonical values. -/
theorem canonical_of_material {material : Material}
    (h : request.material context user = some material)
    (h' : request'.material context user = some material)
    (hamount : request.canonical.estimatedValue = request'.canonical.estimatedValue)
    (hmethod : request.canonical.paymentMethod = request'.canonical.paymentMethod)
    (hpolicy : request.commercialPolicyRef = request'.commercialPolicyRef)
    (hvehicles : request.canonical.specificVehicleIds = request'.canonical.specificVehicleIds)
    (positive : 0 < request.requiredQuantity) (positive' : 0 < request'.requiredQuantity) :
    request.canonical = request'.canonical := by
  unfold ReservationRequest.material at h h'
  cases hdecision : request.evaluate context user with
  | error reason => simp [hdecision] at h
  | ok decision =>
    cases hdecision' : request'.evaluate context user with
    | error reason => simp [hdecision'] at h'
    | ok decision' =>
      simp only [hdecision, hdecision', Option.ite_none_right_eq_some, Option.some.injEq] at h h'
      have hheader := congrArg Material.header (h.2.trans h'.2.symm)
      simp only [TransportReservation.header, TransportReservation.terms, draft, pool,
        TransportReservation.mk.injEq, Pool.mk.injEq, true_and, and_true] at hheader
      obtain ⟨-, ⟨hprovider, hid, hoffering⟩, hstart, hend, hquantity, hmode, -, htiming, -,
        horganisation, -, hevent, hsource, href, -⟩ := hheader
      have htiming' : request.canonical.paymentTiming = request'.canonical.paymentTiming := by
        rw [timing_of_evaluate hdecision, timing_of_evaluate hdecision', htiming]
      simp only [canonical] at hamount hmethod hvehicles htiming'
      simp only [canonical, CanonicalRequest.mk.injEq]
      exact ⟨hoffering, hprovider, hid, hstart, hend, by omega, hmode, hmethod, htiming', hpolicy,
        horganisation, hevent, hsource, href, hvehicles, hamount⟩

/-- Under one spelling the fingerprint tells apart exactly the requests that would create
different reservations. -/
theorem canonical_iff_material {material : Material}
    (alike : SpelledAlike context user request request')
    (hkey : request.idempotencyKey = request'.idempotencyKey)
    (hmode : request.mode ∈ reservationModes) (hmode' : request'.mode ∈ reservationModes)
    (positive : 0 < request.requiredQuantity) (positive' : 0 < request'.requiredQuantity)
    (h : request.material context user = some material) :
    request.canonical = request'.canonical ↔ request'.material context user = some material := by
  constructor
  · intro hcanonical
    obtain ⟨hevidence, hpolicy⟩ := alike.hidden hcanonical
    rw [← material_of_canonical hcanonical hkey hmode hmode' hevidence hpolicy]
    exact h
  · intro h'
    obtain ⟨hamount, hmethod, hpolicy, hvehicles⟩ := alike.visible (h.trans h'.symm)
    exact canonical_of_material h h' hamount hmethod hpolicy hvehicles positive positive'

theorem facts_of_check {offering : TransportOffering}
    (h : request.check context = .ok (user, offering)) :
    request.actor = some user ∧ request.mode ∈ reservationModes ∧ 0 < request.requiredQuantity := by
  unfold check at h
  split at h
  · cases h
  split at h
  · cases h
  split at h
  · cases h
  rename_i hquantity
  split at h
  · cases h
  rename_i hmode
  split at h
  · cases h
  rename_i actor hactor
  split at h
  · cases h
  split at h
  · cases h
  split at h
  · cases h
  · cases h
    exact ⟨hactor, by simpa using hmode, by omega⟩

end ReservationRequest

namespace ReservationTables

variable {context : ReservationContext} {digest : CanonicalRequest → String}
variable {tables new : ReservationTables} {requests : List ReservationRequest}
variable {request : ReservationRequest} {row row' : TransportReservation} {i : ℕ}

/-- At most one reservation for a user and a key. -/
def KeysUnique (tables : ReservationTables) : Prop :=
  ∀ (i j : ℕ) (row row' : TransportReservation), tables.reservations[i]? = some row →
    tables.reservations[j]? = some row' → row.reservingUserId = row'.reservingUserId →
    row.idempotencyKey = row'.idempotencyKey → i = j

/-- The row stands for a request: it has its key, its fingerprint and its material. -/
structure StandsFor (context : ReservationContext) (digest : CanonicalRequest → String)
    (tables : ReservationTables) (i : ℕ) (row : TransportReservation)
    (request : ReservationRequest) : Prop where
  checked : ∃ offering, request.check context = .ok (row.reservingUserId, offering)
  key : row.idempotencyKey = request.idempotencyKey
  fingerprint : row.requestFingerprint = digest request.canonical
  material : request.material context row.reservingUserId = some (tables.material i row)

/-- Every reservation stands for one of the requests. -/
structure Keyed (context : ReservationContext) (digest : CanonicalRequest → String)
    (requests : List ReservationRequest) (tables : ReservationTables) : Prop where
  linked : tables.Linked
  unique : tables.KeysUnique
  rows : ∀ (i : ℕ) (row : TransportReservation), tables.reservations[i]? = some row →
    row.isDeleted = false ∧ ∃ request ∈ requests, StandsFor context digest tables i row request

theorem header_of_terms (h : row'.terms = row.terms) : row'.header = row.header :=
  (congrArg TransportReservation.header h : row'.terms.header = row.terms.header)

theorem lineVehiclesOf_shrink (shrinks : Shrinks tables new) (i : ℕ) :
    lineVehiclesOf new.lines i = lineVehiclesOf tables.lines i := by
  obtain ⟨f, hf, kept⟩ := shrinks.lines
  unfold lineVehiclesOf
  rw [hf, List.filter_map, List.filterMap_map]
  have hid : ((fun line : TransportReservationLine => decide (line.reservationId = i)) ∘ f) =
      fun line => decide (line.reservationId = i) := by
    funext line
    rw [Function.comp_apply, (kept line).reservationId]
  have hvehicle : ((fun line : TransportReservationLine => line.vehicleId) ∘ f) =
      fun line => line.vehicleId := by
    funext line
    rw [Function.comp_apply, (kept line).vehicleId]
  rw [hid, hvehicle]

theorem material_shrink (shrinks : Shrinks tables new) (hterms : row'.terms = row.terms) :
    new.material i row' = tables.material i row := by
  unfold material
  rw [header_of_terms hterms, lineVehiclesOf_shrink shrinks]

theorem material_insert_old (hi : i < tables.reservations.length) (row' : TransportReservation) :
    (tables.insertReservation row request).material i row' = tables.material i row' := by
  have hnone : (request.materialiseLines tables.reservations.length).filter
      (fun line => line.reservationId = i) = [] := by
    refine List.filter_eq_nil_iff.mpr ?_
    intro line hline
    have := (mem_materialiseLines hline).1
    simp only [decide_eq_true_eq]
    omega
  simp only [material, lineVehiclesOf, insertReservation, List.filter_append, hnone,
    List.append_nil]

theorem material_insert_new (linked : tables.Linked) :
    (tables.insertReservation row request).material tables.reservations.length row =
      ⟨row.header, lineVehiclesOf (request.materialiseLines 0) 0⟩ := by
  have hnone : tables.lines.filter
      (fun line => line.reservationId = tables.reservations.length) = [] := by
    refine List.filter_eq_nil_iff.mpr ?_
    intro line hline
    have := linked line hline
    simp only [decide_eq_true_eq]
    omega
  rw [ReservationRequest.lineVehiclesOf_materialise,
    ← ReservationRequest.lineVehiclesOf_materialise request tables.reservations.length]
  simp only [material, lineVehiclesOf, insertReservation, List.filter_append, hnone,
    List.nil_append]

theorem reservingUserId_of_terms (h : row'.terms = row.terms) :
    row'.reservingUserId = row.reservingUserId :=
  (congrArg TransportReservation.reservingUserId h :
    row'.terms.reservingUserId = row.terms.reservingUserId)

theorem idempotencyKey_of_terms (h : row'.terms = row.terms) :
    row'.idempotencyKey = row.idempotencyKey :=
  (congrArg TransportReservation.idempotencyKey h :
    row'.terms.idempotencyKey = row.terms.idempotencyKey)

theorem requestFingerprint_of_terms (h : row'.terms = row.terms) :
    row'.requestFingerprint = row.requestFingerprint :=
  (congrArg TransportReservation.requestFingerprint h :
    row'.terms.requestFingerprint = row.terms.requestFingerprint)

theorem Keyed.shrink (keyed : Keyed context digest requests tables) (shrinks : Shrinks tables new) :
    Keyed context digest requests new where
  linked := keyed.linked.shrink shrinks
  unique := by
    intro i j row row' hrow hrow' huser hkey
    obtain ⟨old, hold, hterms⟩ := shrinks.row_of hrow
    obtain ⟨old', hold', hterms'⟩ := shrinks.row_of hrow'
    refine keyed.unique i j old old' hold hold' ?_ ?_
    · rw [← reservingUserId_of_terms hterms, ← reservingUserId_of_terms hterms', huser]
    · rw [← idempotencyKey_of_terms hterms, ← idempotencyKey_of_terms hterms', hkey]
  rows := by
    intro i row hrow
    obtain ⟨old, hold, hterms⟩ := shrinks.row_of hrow
    obtain ⟨hdel, request, hrequest, ⟨offering, hcheck⟩, hkey, hfingerprint, hmaterial⟩ :=
      keyed.rows i old hold
    refine ⟨(TransportReservation.isDeleted_of_terms hterms).trans hdel, request, hrequest,
      ⟨offering, ?_⟩, ?_, ?_, ?_⟩
    · rw [reservingUserId_of_terms hterms]
      exact hcheck
    · exact (idempotencyKey_of_terms hterms).trans hkey
    · exact (requestFingerprint_of_terms hterms).trans hfingerprint
    · rw [reservingUserId_of_terms hterms, material_shrink shrinks hterms]
      exact hmaterial

end ReservationTables

/-! ## The calls -/

/-- The reservation at the position has the key of the request and the fields it asks for. -/
def Answers (context : ReservationContext) (tables : ReservationTables)
    (request : ReservationRequest) (user reservationId : ℕ) : Prop :=
  ∃ row, tables.reservations[reservationId]? = some row ∧ row.reservingUserId = user ∧
    row.idempotencyKey = request.idempotencyKey ∧
    request.material context user = some (tables.material reservationId row)

/-- What a creation has to be in order for the key, by its stage. -/
def CreateStage.KeyFit (context : ReservationContext) (digest : CanonicalRequest → String)
    (tables : ReservationTables) (request : ReservationRequest) (user : ℕ) : CreateStage → Prop
  | .decided decision | .vehiclesLocked decision | .vehiclesChecked decision
  | .supplyRead decision _ | .counting decision _ _ => request.evaluate context user = .ok decision
  | .inserted _ row => tables.keyUsed user request.idempotencyKey = false ∧
      row.isDeleted = false ∧ row.reservingUserId = user ∧
      row.idempotencyKey = request.idempotencyKey ∧
      row.requestFingerprint = digest request.canonical ∧
      request.material context user = some
        ⟨row.header, lineVehiclesOf (request.materialiseLines 0) 0⟩
  | .created reservationId | .returned reservationId => Answers context tables request user
      reservationId
  | _ => True

def ReservationCall.KeyFit (context : ReservationContext) (digest : CanonicalRequest → String)
    (requests : List ReservationRequest) (tables : ReservationTables) : ReservationCall → Prop
  | .create request user offering stage => request ∈ requests ∧
      request.check context = .ok (user, offering) ∧ stage.KeyFit context digest tables request user
  | _ => True

/-- Requests of a user under one key are spelled alike. -/
def AllSpelledAlike (context : ReservationContext) (requests : List ReservationRequest) : Prop :=
  ∀ request ∈ requests, ∀ request' ∈ requests, ∀ user, request.actor = some user →
    request'.actor = some user → request.idempotencyKey = request'.idempotencyKey →
    SpelledAlike context user request request'

/-- The hash tells the requests apart that their canonical values tell apart. -/
def CollisionFree (digest : CanonicalRequest → String) (requests : List ReservationRequest) :
    Prop :=
  ∀ request ∈ requests, ∀ request' ∈ requests,
    digest request.canonical = digest request'.canonical → request.canonical = request'.canonical

namespace ReservationDesk

variable {context : ReservationContext} {digest : CanonicalRequest → String}
variable {requests : List ReservationRequest} {s t : ReservationDesk} {place : ℕ}
variable {tables new : ReservationTables} {request : ReservationRequest} {user : ℕ}

variable {row : TransportReservation} {offering : TransportOffering}

theorem keyUsed_eq_false {key : String} :
    tables.keyUsed user key = false ↔ ∀ row ∈ tables.reservations,
      ¬ (row.reservingUserId = user ∧ row.idempotencyKey = key) := by
  unfold ReservationTables.keyUsed
  rw [List.any_eq_false]
  simp only [Bool.and_eq_true, decide_eq_true_eq]

theorem lookup_eq_some {key : String} {found : ℕ}
    (h : tables.lookupIdempotent user key = some found) :
    ∃ row, tables.reservations[found]? = some row ∧ row.reservingUserId = user ∧
      row.idempotencyKey = key := by
  obtain ⟨hlt, hfound, -⟩ := List.findIdx?_eq_some_iff_getElem.mp h
  simp only [Bool.and_eq_true, decide_eq_true_eq] at hfound
  exact ⟨_, List.getElem?_eq_getElem hlt, hfound.1.1, hfound.1.2⟩

theorem lookup_of_row {i : ℕ} (unique : tables.KeysUnique)
    (hrow : tables.reservations[i]? = some row) (hdel : row.isDeleted = false) :
    tables.lookupIdempotent row.reservingUserId row.idempotencyKey = some i := by
  cases hfound : tables.lookupIdempotent row.reservingUserId row.idempotencyKey with
  | none =>
    have hnot := List.findIdx?_eq_none_iff.mp hfound row (List.mem_of_getElem? hrow)
    simp [hdel] at hnot
  | some found =>
    obtain ⟨row', hrow', huser, hkey⟩ := lookup_eq_some hfound
    exact congrArg some (unique found i row' row hrow' hrow huser hkey)

/-- What the lookup returns to a checked request: the fingerprints agree exactly when the
materials do. -/
theorem fingerprint_iff {i : ℕ}
    (collisionFree : CollisionFree digest requests) (alike : AllSpelledAlike context requests)
    (keyed : tables.Keyed context digest requests) (hrequest : request ∈ requests)
    (hcheck : request.check context = .ok (user, offering))
    (hrow : tables.reservations[i]? = some row) (huser : row.reservingUserId = user)
    (hkey : row.idempotencyKey = request.idempotencyKey) :
    row.requestFingerprint = digest request.canonical ↔
      request.material context user = some (tables.material i row) := by
  obtain ⟨-, original, horiginal, ⟨offering', hcheck'⟩, hkey', hfingerprint, hmaterial⟩ :=
    keyed.rows i row hrow
  rw [huser] at hcheck' hmaterial
  obtain ⟨hactor, hmode, positive⟩ := ReservationRequest.facts_of_check hcheck
  obtain ⟨hactor', hmode', positive'⟩ := ReservationRequest.facts_of_check hcheck'
  have hkeys : original.idempotencyKey = request.idempotencyKey := hkey'.symm.trans hkey
  rw [hfingerprint, (⟨collisionFree original horiginal request hrequest, congrArg digest⟩ :
    digest original.canonical = digest request.canonical ↔
      original.canonical = request.canonical)]
  exact ReservationRequest.canonical_iff_material
    (alike original horiginal request hrequest user hactor' hactor hkeys) hkeys hmode' hmode
    positive' positive hmaterial

theorem keyFit_createStep {stage stage' : CreateStage}
    (collisionFree : CollisionFree digest requests) (alike : AllSpelledAlike context requests)
    (keyed : s.tables.Keyed context digest requests) (hrequest : request ∈ requests)
    (hcheck : request.check context = .ok (user, offering))
    (step : CreateStep context digest s place request user offering stage stage')
    (fit : stage.KeyFit context digest s.tables request user) :
    stage'.KeyFit context digest s.tables request user := by
  cases step with
  | wait => exact fit
  | replay found row hfound hrow hfingerprint =>
    obtain ⟨row', hrow', huser, hkey⟩ := lookup_eq_some hfound
    obtain rfl := Option.some.inj (hrow'.symm.trans hrow)
    exact ⟨row', hrow', huser, hkey,
      (fingerprint_iff collisionFree alike keyed hrequest hcheck hrow'
      huser hkey).mp hfingerprint⟩
  | decide decision hdecision => exact hdecision
  | insert decision rows row hcreated hused =>
    obtain ⟨hfits, rfl⟩ := ReservationRequest.created_eq_ok hcreated
    have hdecision : request.evaluate context user = .ok decision := fit
    have hfits' : (request.draft (fun _ => "") user decision).fits = true := hfits
    refine ⟨hused, rfl, rfl, rfl, rfl, ?_⟩
    simp only [ReservationRequest.material, hdecision, hfits', if_true]
    rfl
  | fail => trivial
  | lockVehicles => exact fit
  | capacityMode => exact fit
  | checkVehicles => exact fit
  | readSupply => exact fit
  | lockSupply => exact fit
  | count => exact fit

theorem answers_shrink {reservationId : ℕ} (shrinks : Shrinks tables new)
    (h : Answers context tables request user reservationId) :
    Answers context new request user reservationId := by
  obtain ⟨row, hrow, huser, hkey, hmaterial⟩ := h
  have hterms := shrinks.terms reservationId
  rw [hrow, Option.map_some] at hterms
  obtain ⟨row', hrow', hsame⟩ := Option.map_eq_some_iff.mp hterms
  refine ⟨row', hrow', ?_, ?_, ?_⟩
  · rw [ReservationTables.reservingUserId_of_terms hsame, huser]
  · rw [ReservationTables.idempotencyKey_of_terms hsame, hkey]
  · rw [ReservationTables.material_shrink shrinks hsame, hmaterial]

theorem answers_insert {reservationId : ℕ} {other : ReservationRequest}
    (h : Answers context tables request user reservationId) :
    Answers context (tables.insertReservation row other) request user reservationId := by
  obtain ⟨row', hrow', huser, hkey, hmaterial⟩ := h
  have hlt := (List.getElem?_eq_some_iff.mp hrow').1
  refine ⟨row', (List.getElem?_append_left hlt).trans hrow', huser, hkey, ?_⟩
  rw [ReservationTables.material_insert_old hlt, hmaterial]

/-- The requests made are among the given ones, and no call finds its key taken when it
inserts. -/
def keyStillFree (requests : List ReservationRequest) (s : ReservationDesk) : Move → Bool
  | .create request => request ∈ requests
  | .next place =>
    match s.calls[place]? with
    | some (.create request user _ (.counting _ _ [])) =>
      !s.tables.keyUsed user request.idempotencyKey
    | _ => true
  | _ => true

theorem keyed_insert (keyed : tables.Keyed context digest requests) (hrequest : request ∈ requests)
    (hcheck : request.check context = .ok (user, offering))
    (fit : (CreateStage.inserted [] row).KeyFit context digest tables request user) :
    (tables.insertReservation row request).Keyed context digest requests := by
  obtain ⟨hused, hdel, huser, hkey, hfingerprint, hmaterial⟩ := fit
  refine ⟨keyed.linked.insert, ?_, ?_⟩
  · have fresh : ∀ (i : ℕ) (other : TransportReservation), tables.reservations[i]? = some other →
        ¬ (other.reservingUserId = row.reservingUserId ∧
          other.idempotencyKey = row.idempotencyKey) := by
      intro i other hother
      rw [huser, hkey]
      exact keyUsed_eq_false.mp hused other (List.mem_of_getElem? hother)
    intro i j first second hfirst hsecond hsame hsame'
    rcases getElem?_append_cases hfirst with hold | ⟨rfl, rfl⟩ <;>
      obtain hold' | ⟨rfl, rfl⟩ := getElem?_append_cases hsecond
    · exact keyed.unique i j first second hold hold' hsame hsame'
    · exact (fresh i first hold ⟨hsame, hsame'⟩).elim
    · exact (fresh j second hold' ⟨hsame.symm, hsame'.symm⟩).elim
    · rfl
  · intro i header hheader
    obtain hold | ⟨rfl, rfl⟩ := getElem?_append_cases hheader
    · obtain ⟨hdel', original, horiginal, hchecked, hkey', hfingerprint', hmaterial'⟩ :=
        keyed.rows i header hold
      refine ⟨hdel', original, horiginal, hchecked, hkey', hfingerprint', ?_⟩
      rw [ReservationTables.material_insert_old (List.getElem?_eq_some_iff.mp hold).1, hmaterial']
    · refine ⟨hdel, request, hrequest, ⟨offering, ?_⟩, hkey, hfingerprint, ?_⟩
      · rw [huser]
        exact hcheck
      · rw [huser, ReservationTables.material_insert_new keyed.linked, hmaterial]

theorem keeps_keyed (collisionFree : CollisionFree digest requests)
    (alike : AllSpelledAlike context requests) :
    Keeps context digest (fun s move => keyStillFree requests s move = true)
      (ReservationTables.Keyed context digest requests)
      (ReservationCall.KeyFit context digest requests) where
  begin := by
    intro s move call hguard hbegin
    cases begins_of_beginCall hbegin with
    | create hcheck => exact ⟨by simpa [keyStillFree] using hguard, hcheck, trivial⟩
    | _ => trivial
  next := by
    intro s place call keyed fit
    cases call with
    | create request user offering stage =>
      exact ⟨fit.1, fit.2.1, keyFit_createStep collisionFree alike keyed fit.1 fit.2.1
        (createNext_step s place request user offering stage) fit.2.2⟩
    | _ => trivial
  abort := by
    intro tables call fit
    cases call with
    | create request user offering stage =>
      refine ⟨fit.1, fit.2.1, ?_⟩
      cases hstage : stage.underWay with
      | true => trivial
      | false => exact fit.2.2
    | _ => trivial
  commit := by
    intro s place call call' tables _ locked order hcall hcommit
    rcases commit_cases hcommit with ⟨request, user, offering, rows, row, rfl, rfl, rfl⟩ |
        ⟨supply, rfl, rfl, rfl⟩ | ⟨shrinks, hcreate, -⟩
    · obtain ⟨hrequest, hcheck, fit⟩ := order.each place _ hcall
      refine ⟨keyed_insert order.whole hrequest hcheck fit, ⟨hrequest, hcheck, ?_⟩, ?_⟩
      · obtain ⟨-, -, huser, hkey, -, hmaterial⟩ := fit
        refine ⟨row, List.getElem?_concat_length, huser, hkey, ?_⟩
        rw [ReservationTables.material_insert_new order.whole.linked, hmaterial]
      · intro q other hother hne hfit
        cases other with
        | create request' user' offering' stage' =>
          refine ⟨hfit.1, hfit.2.1, ?_⟩
          cases stage' with
          | inserted rows' row' =>
            obtain ⟨hused, hrest⟩ := hfit.2.2
            refine ⟨keyUsed_eq_false.mpr ?_, hrest⟩
            intro header hheader
            rcases List.mem_append.mp hheader with hold | hnew
            · exact keyUsed_eq_false.mp hused header hold
            · -- both calls would hold the key
              obtain rfl := List.mem_singleton.mp hnew
              obtain ⟨-, -, huser, hkey, -⟩ := fit
              rintro ⟨huser', hkey'⟩
              refine hne (locked q place _ _ (.key user' request'.idempotencyKey) hother hcall
                (by simp [ReservationCall.holds, CreateStage.holds]) ?_)
              rw [← huser', ← hkey', huser, hkey]
              simp [ReservationCall.holds, CreateStage.holds]
          | created reservationId => exact answers_insert hfit.2.2
          | returned reservationId => exact answers_insert hfit.2.2
          | _ => exact hfit.2.2
        | _ => trivial
    · have rows := order.whole.rows
      refine ⟨⟨order.whole.linked, order.whole.unique, fun i row hrow => ?_⟩, trivial, ?_⟩
      · obtain ⟨hdel, original, horiginal, hchecked, hkey, hfingerprint, hmaterial⟩ :=
          rows i row hrow
        exact ⟨hdel, original, horiginal, hchecked, hkey, hfingerprint, hmaterial⟩
      intro q other _ _ hfit
      cases other with
      | create request user offering stage =>
        refine ⟨hfit.1, hfit.2.1, ?_⟩
        cases stage <;> exact hfit.2.2
      | _ => trivial
    · refine ⟨order.whole.shrink shrinks, ?_, ?_⟩
      · cases call' with
        | create request user offering stage => exact (hcreate _ _ _ _ rfl).elim
        | _ => trivial
      · intro q other _ _ hfit
        cases other with
        | create request user offering stage =>
          refine ⟨hfit.1, hfit.2.1, ?_⟩
          cases stage with
          | inserted rows row =>
            obtain ⟨hused, hrest⟩ := hfit.2.2
            refine ⟨keyUsed_eq_false.mpr ?_, hrest⟩
            intro header hheader
            obtain ⟨position, hposition⟩ := List.mem_iff_getElem?.mp hheader
            obtain ⟨old, hold, hterms⟩ := shrinks.row_of hposition
            rw [ReservationTables.reservingUserId_of_terms hterms,
              ReservationTables.idempotencyKey_of_terms hterms]
            exact keyUsed_eq_false.mp hused old (List.mem_of_getElem? hold)
          | created reservationId => exact answers_shrink shrinks hfit.2.2
          | returned reservationId => exact answers_shrink shrinks hfit.2.2
          | _ => exact hfit.2.2
        | _ => trivial

/-- The stages whose next statement meets a reservation with the key: the lookup and the
insert. -/
def CreateStage.MeetsKey (stage : CreateStage) : Prop :=
  stage = .called ∨ ∃ decision rows, stage = .counting decision rows []

/-- In every interleaving whose requests under one key are spelled alike and in which no call
finds its key taken when it inserts: there is at most one reservation for a user and a key,
what a call returns has its key and the fields it asks for, and a call that meets the
reservation of its key gets it if it asks for the same and a conflict otherwise. -/
theorem reservation_once (context : ReservationContext) (digest : CanonicalRequest → String)
    (requests : List ReservationRequest) (collisionFree : CollisionFree digest requests)
    (alike : AllSpelledAlike context requests) (start t : ReservationDesk) (moves : List Move)
    (empty : start.tables.reservations = [] ∧ start.tables.lines = []) (idle : start.calls = [])
    (run : Run (Guarded (fun s move => keyStillFree requests s move = true) (step context digest))
      start moves t) :
    t.tables.KeysUnique ∧
    (∀ (place : ℕ) (request : ReservationRequest) (user : ℕ) (offering : TransportOffering)
      (reservationId : ℕ),
      (t.calls[place]? = some (ReservationCall.create request user offering
          (.created reservationId)) ∨
        t.calls[place]? = some (ReservationCall.create request user offering
          (.returned reservationId))) →
      Answers context t.tables request user reservationId) ∧
    (∀ (place : ℕ) (request : ReservationRequest) (user : ℕ) (offering : TransportOffering)
      (stage : CreateStage) (i : ℕ) (row : TransportReservation),
      t.calls[place]? = some (ReservationCall.create request user offering stage) →
      CreateStage.MeetsKey stage → t.tables.reservations[i]? = some row →
      row.reservingUserId = user → row.idempotencyKey = request.idempotencyKey →
      keyStillFree requests t (.next place) = true →
      t.createNext context digest place request user offering stage =
        if request.material context user = some (t.tables.material i row) then .returned i
        else .failed (.conflict
          "Idempotency key has already been used with a different material request")) := by
  have hstart : start.tables.Keyed context digest requests := by
    refine ⟨?_, ?_, ?_⟩
    · simp [ReservationTables.Linked, empty.2]
    · simp [ReservationTables.KeysUnique, empty.1]
    · simp [empty.1]
  obtain ⟨-, order⟩ := (keeps_keyed collisionFree alike).run_idle run idle hstart
  refine ⟨order.whole.unique, ?_, ?_⟩
  · rintro place request user offering reservationId (hcall | hcall) <;>
      exact (order.each place _ hcall).2.2
  · rintro place request user offering stage i row hcall hmeets hrow huser hkey hguard
    obtain ⟨hrequest, hcheck, -⟩ := order.each place _ hcall
    rcases hmeets with rfl | ⟨decision, rows, rfl⟩
    · have hfound := lookup_of_row order.whole.unique hrow (order.whole.rows i row hrow).1
      rw [huser, hkey] at hfound
      have hiff := fingerprint_iff collisionFree alike order.whole hrequest hcheck hrow huser hkey
      simp only [createNext, hfound, hrow, Option.any_some, decide_eq_true_eq, hiff]
    · exfalso
      simp only [keyStillFree, hcall, Bool.not_eq_true'] at hguard
      exact keyUsed_eq_false.mp hguard row (List.mem_of_getElem? hrow) ⟨huser, hkey⟩

/-! ## Two calls at once -/

/-- The same request for one unit from two calls. -/
def unitRequest : ReservationRequest := unitsRequest 1 "a" 1 100 200

/-- The second call looks after the first has committed. -/
def replayMoves : List Move :=
  [.register ⟨vanPool, 0, 1000, 2, false⟩, .next 0, .commit 0,
   .create unitRequest, .next 1, .next 1, .next 1, .next 1, .next 1, .next 1, .commit 1,
   .create unitRequest, .next 2]

/-- Both calls look before either inserts. -/
def keyRace : List Move :=
  [.register ⟨vanPool, 0, 1000, 2, false⟩, .next 0, .commit 0,
   .create unitRequest, .create unitRequest, .next 1, .next 2,
   .next 1, .next 1, .next 1, .next 1, .next 1, .commit 1,
   .next 2, .next 2, .next 2, .next 2, .next 2]

theorem unitRequest_alike : AllSpelledAlike operatorContext [unitRequest] := by
  intro request hrequest request' hrequest' user _ _ _
  obtain rfl := List.mem_singleton.mp hrequest
  obtain rfl := List.mem_singleton.mp hrequest'
  exact ⟨fun _ => ⟨rfl, rfl⟩, fun _ => ⟨rfl, rfl, rfl, rfl⟩⟩

theorem reservation_once_replay :
    let t := replayMoves.foldl (after operatorContext fun _ => "") ⟨{}, []⟩
    t.calls.drop 2 = [.create unitRequest 1 ⟨"van", 1, 10, []⟩ (.returned 0)] ∧
      t.tables.reservations.length = 1 ∧ t.tables.KeysUnique :=
  ⟨by decide +kernel, by decide +kernel,
    (reservation_once operatorContext (fun _ => "") [unitRequest]
      (by
        intro request hrequest request' hrequest' _
        rw [List.mem_singleton.mp hrequest, List.mem_singleton.mp hrequest'])
      unitRequest_alike ⟨{}, []⟩ _ replayMoves ⟨rfl, rfl⟩ rfl
      (Run.guarded_foldl (by decide +kernel))).1⟩

/-- The loser asks for the same and does not get the winner. -/
theorem loser_raises_type_error :
    let t := keyRace.foldl (after operatorContext fun _ => "") ⟨{}, []⟩
    t.calls.drop 2 = [.create unitRequest 1 ⟨"van", 1, 10, []⟩ (.failed .typeError)] ∧
      (t.tables.reservations.map fun row => (row.reservingUserId, row.idempotencyKey)) =
        [(1, "a")] := by
  constructor <;> decide +kernel

end ReservationDesk

end Afcon360.Transport
