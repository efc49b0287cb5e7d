import Mathlib.Data.List.Nodup
import Afcon360.Auth.MobileTokens

/-!
# Refresh tokens and revoked sessions over every interleaving

`Inv` relates Redis to the history: a refresh key stands for a stored token that was not
exchanged, an exchanged token keeps its marker for as long as it could have lived, a line of
tokens has one that was not exchanged at most, and a revoked session keeps its marker. The
markers decide, so it does not matter which keys a revocation saw.
-/

namespace Afcon360.Auth.Mobile

open Foundation

namespace Redis

variable {redis : Redis} {now : Instant} {key : TokenKey} {record : TokenRecord}
  {token newToken session : String}

theorem get_eq_some : redis.get now key = some record ↔
    ∃ expiry, redis.tokens key = some (record, expiry) ∧ now < expiry := by
  unfold get
  rw [Option.map_eq_some_iff]
  constructor
  · rintro ⟨⟨found, expiry⟩, hfound, rfl⟩
    obtain ⟨hentry, hlive⟩ := Option.filter_eq_some_iff.mp hfound
    exact ⟨expiry, hentry, by simpa using hlive⟩
  · rintro ⟨expiry, hentry, hlive⟩
    exact ⟨(record, expiry), Option.filter_eq_some_iff.mpr ⟨hentry, by simpa using hlive⟩, rfl⟩

theorem get_eq_none_of_tokens (h : redis.tokens key = none) : redis.get now key = none := by
  simp [get, h]

theorem mem_smembers (h : key ∈ redis.smembers now session) :
    ∃ keys expiry, redis.sessionKeys session = some (keys, expiry) ∧ key ∈ keys := by
  unfold smembers at h
  cases hentry : redis.sessionKeys session with
  | none => simp [hentry] at h
  | some entry =>
    by_cases hlive : now < entry.2
    · exact ⟨entry.1, entry.2, rfl, by simpa [hentry, hlive, Option.filter] using h⟩
    · simp [hentry, hlive, Option.filter] at h

theorem foldl_delete (keys : List TokenKey) (redis : Redis) :
    (∀ key, (keys.foldl delete redis).tokens key = if key ∈ keys then none else redis.tokens key) ∧
      (keys.foldl delete redis).sessionKeys = redis.sessionKeys ∧
      (keys.foldl delete redis).revoked = redis.revoked := by
  induction keys generalizing redis with
  | nil => simp
  | cons first rest ih =>
    obtain ⟨htokens, hsets, hmarkers⟩ := ih (redis.delete first)
    refine ⟨fun key => ?_, hsets, hmarkers⟩
    rw [List.foldl_cons, htokens key]
    by_cases hfirst : key = first
    · subst hfirst
      simp [delete]
    · simp [delete, hfirst]

/-- The script exchanges a token that is there, in a session that is not revoked. -/
theorem rotateScript_one (h : (redis.rotateScript now token newToken record).1 = 1) :
    redis.isRevoked now record.sessionId = false ∧
      ∃ current, redis.get now (.refresh token) = some current ∧
        (redis.rotateScript now token newToken record).2 =
          (((redis.delete (.refresh token)).setex now (.refreshUsed token) refreshTtlSeconds
            current).setex now (.refresh newToken) refreshTtlSeconds record).register now
              record.sessionId [.refresh newToken] := by
  unfold rotateScript at h ⊢
  split at h
  · cases h
  · rename_i hrevoked
    split at h
    · split at h <;> cases h
    · rename_i current hcurrent
      refine ⟨Bool.eq_false_iff.mpr hrevoked, current, hcurrent, ?_⟩
      simp only [hrevoked]
      rfl

/-- Otherwise it writes nothing. -/
theorem rotateScript_other (h : (redis.rotateScript now token newToken record).1 ≠ 1) :
    (redis.rotateScript now token newToken record).2 = redis := by
  unfold rotateScript at h ⊢
  split
  · rfl
  · rename_i hrevoked
    rw [if_neg hrevoked] at h
    split
    · split <;> rfl
    · rename_i current hcurrent
      simp only [hcurrent] at h
      exact absurd rfl h

/-- Nothing outlives a refresh token stored now. -/
def Lived (redis : Redis) (clock : Instant) : Prop :=
  ∀ key entry, redis.tokens key = some entry → entry.2 ≤ clock + lifetime refreshTtlSeconds

theorem Lived.mono {clock : Instant} (lived : redis.Lived clock) (hclock : clock ≤ now) :
    redis.Lived now :=
  fun key entry hentry => (lived key entry hentry).trans (Int.add_le_add_right hclock _)

theorem Lived.setex (lived : redis.Lived now) {seconds : ℤ}
    (hseconds : seconds ≤ refreshTtlSeconds) :
    (redis.setex now key seconds record).Lived now := by
  intro other entry hentry
  unfold Redis.setex at hentry
  by_cases hsame : other = key
  · simp only [hsame, Function.update_self, Option.some.injEq] at hentry
    subst hentry
    exact Int.add_le_add_left (Int.mul_le_mul_of_nonneg_right hseconds (by decide)) now
  · simp only [Function.update_of_ne hsame] at hentry
    exact lived other entry hentry

theorem Lived.delete (lived : redis.Lived now) : (redis.delete key).Lived now := by
  intro other entry hentry
  unfold Redis.delete at hentry
  by_cases hsame : other = key
  · simp [hsame] at hentry
  · simp only [Function.update_of_ne hsame] at hentry
    exact lived other entry hentry

end Redis

namespace System

/-! ## The invariant -/

structure Inv (s : System) : Prop where
  storedAt : ∀ row ∈ s.stored, row.storedAt ≤ s.clock
  completedAt : ∀ entry ∈ s.completed, entry.2 ≤ s.clock
  fresh : (s.stored.map RefreshToken.token).Nodup
  rooted : ∀ row ∈ s.stored, ∃ first ∈ s.stored, first.token = row.root
  once : s.exchanged.Nodup
  exchanged : ∀ token ∈ s.exchanged, ∃ row ∈ s.stored, row.token = token
  /-- A line has one token that was not exchanged, at most. -/
  line : ∀ row ∈ s.stored, ∀ other ∈ s.stored, row.root = other.root →
    row.token ∉ s.exchanged → other.token ∉ s.exchanged → row = other
  unused : ∀ token entry, s.redis.tokens (.refresh token) = some entry →
    token ∉ s.exchanged ∧ ∃ row ∈ s.stored, row.token = token ∧
      entry = (row.record, row.storedAt + lifetime refreshTtlSeconds)
  used : ∀ row ∈ s.stored, row.token ∈ s.exchanged →
    ∃ record expiry, s.redis.tokens (.refreshUsed row.token) = some (record, expiry) ∧
      row.storedAt + lifetime refreshTtlSeconds ≤ expiry
  marked : ∀ entry ∈ s.completed, ∃ expiry, s.redis.revoked entry.1 = some expiry ∧
    entry.2 + lifetime sessionRevokeTtlSeconds ≤ expiry
  unmarked : ∀ session expiry, s.redis.revoked session = some expiry →
    ∃ time, (session, time) ∈ s.completed
  registered : ∀ session keys expiry, s.redis.sessionKeys session = some (keys, expiry) →
    ∀ token, .refreshUsed token ∉ keys
  snapshots : ∀ entry ∈ s.revoking, ∀ token, .refreshUsed token ∉ entry.2
  lived : s.redis.Lived s.clock

variable {s t : System} {now : Instant} {event : Event} {token newToken session : String}
  {record : TokenRecord} {labels : List (Instant × Command)}

variable {row : RefreshToken} {action : Command} {time : Instant}

/-- Nothing was stored yet. -/
def opened (clock : Instant) : System := { clock }

theorem Inv.opened (clock : Instant) : Inv (opened clock) where
  storedAt := by simp [System.opened]
  completedAt := by simp [System.opened]
  fresh := .nil
  rooted := by simp [System.opened]
  once := .nil
  exchanged := by simp [System.opened]
  line := by simp [System.opened]
  unused := by simp [System.opened]
  used := by simp [System.opened]
  marked := by simp [System.opened]
  unmarked := by simp [System.opened]
  registered := by simp [System.opened]
  snapshots := by simp [System.opened]
  lived := by simp [System.opened, Redis.Lived]

/-- A command that adds nothing to the history, and deletes refresh keys at most. -/
theorem Inv.keep (inv : Inv s) (hclock : s.clock ≤ t.clock) (hstored : t.stored = s.stored)
    (hexchanged : t.exchanged = s.exchanged) (hcompleted : t.completed = s.completed)
    (hrefresh : ∀ token entry, t.redis.tokens (.refresh token) = some entry →
      s.redis.tokens (.refresh token) = some entry)
    (hused : ∀ token, t.redis.tokens (.refreshUsed token) = s.redis.tokens (.refreshUsed token))
    (hrevoked : t.redis.revoked = s.redis.revoked)
    (hregistered : ∀ session keys expiry, t.redis.sessionKeys session = some (keys, expiry) →
      ∀ token, .refreshUsed token ∉ keys)
    (hsnapshots : ∀ entry ∈ t.revoking, ∀ token, .refreshUsed token ∉ entry.2)
    (hlived : t.redis.Lived t.clock) : Inv t where
  storedAt := fun row hrow => (inv.storedAt row (hstored ▸ hrow)).trans hclock
  completedAt := fun entry hentry => (inv.completedAt entry (hcompleted ▸ hentry)).trans hclock
  fresh := hstored ▸ inv.fresh
  rooted := hstored ▸ inv.rooted
  once := hexchanged ▸ inv.once
  exchanged := by
    rw [hstored, hexchanged]
    exact inv.exchanged
  line := by
    rw [hstored, hexchanged]
    exact inv.line
  unused := by
    rw [hstored, hexchanged]
    exact fun token entry h => inv.unused token entry (hrefresh token entry h)
  used := by
    rw [hstored, hexchanged]
    intro row hrow hexchangedRow
    rw [hused]
    exact inv.used row hrow hexchangedRow
  marked := by
    rw [hcompleted, hrevoked]
    exact inv.marked
  unmarked := by
    rw [hcompleted, hrevoked]
    exact inv.unmarked
  registered := hregistered
  snapshots := hsnapshots
  lived := hlived

/-- A command that writes neither Redis nor the history. -/
structure Reads (s t : System) : Prop where
  redis : t.redis = s.redis
  stored : t.stored = s.stored
  exchanged : t.exchanged = s.exchanged
  completed : t.completed = s.completed
  revoking : t.revoking = s.revoking

theorem Inv.reads (inv : Inv s) (hclock : s.clock ≤ now) (reads : Reads s t) :
    Inv { t with clock := now } :=
  inv.keep hclock reads.stored reads.exchanged reads.completed
    (fun _ _ hentry => reads.redis ▸ hentry) (fun _ => by rw [reads.redis]) (by rw [reads.redis])
    (by
      rw [reads.redis]
      exact inv.registered)
    (by
      rw [reads.revoking]
      exact inv.snapshots)
    (by
      rw [reads.redis]
      exact inv.lived.mono hclock)

/-- Keys of tokens are added to the set of a session. -/
theorem registered_of_register {redis : Redis} {keys : List TokenKey}
    (h : ∀ session keys expiry, redis.sessionKeys session = some (keys, expiry) →
      ∀ token, .refreshUsed token ∉ keys)
    (hkeys : ∀ token, .refreshUsed token ∉ keys) (session : String) :
    ∀ other found expiry, (redis.register now session keys).sessionKeys other =
      some (found, expiry) → ∀ token, .refreshUsed token ∉ found := by
  intro other found expiry hfound token hmem
  unfold Redis.register at hfound
  by_cases hsame : other = session
  · subst hsame
    simp only [Function.update_self, Option.some.injEq, Prod.mk.injEq] at hfound
    rw [← hfound.1] at hmem
    obtain hold | hadded := List.mem_append.mp hmem
    · obtain ⟨old, oldExpiry, hentry, hin⟩ := Redis.mem_smembers hold
      exact h other old oldExpiry hentry token hin
    · exact hkeys token hadded
  · simp only [Function.update_of_ne hsame] at hfound
    exact h other found expiry hfound token hmem

theorem not_knows_iff : s.knows token = false ↔ ∀ row ∈ s.stored, row.token ≠ token := by
  simp [knows]

theorem rootOf_of_mem (fresh : (s.stored.map RefreshToken.token).Nodup)
    (hrow : row ∈ s.stored) : s.rootOf row.token = row.root := by
  unfold rootOf
  cases hfound : s.stored.find? (fun other => other.token = row.token) with
  | none =>
    have hnone := List.find?_eq_none.mp hfound row hrow
    simp at hnone
  | some found =>
    have hsame : found.token = row.token := by simpa using List.find?_some hfound
    have hmem := List.mem_of_find?_eq_some hfound
    rw [List.inj_on_of_nodup_map fresh hmem hrow hsame]
    rfl

theorem Inv.nodup_append (inv : Inv s) (hnew : s.knows newToken = false)
    (hrow : row.token = newToken) : ((s.stored ++ [row]).map RefreshToken.token).Nodup := by
  rw [List.map_append, List.nodup_append]
  refine ⟨inv.fresh, by simp, ?_⟩
  intro known hknown added hadded hsame
  obtain ⟨old, hold, rfl⟩ := List.mem_map.mp hknown
  have hadded' : added = row.token := by simpa using hadded
  exact not_knows_iff.mp hnew old hold (hsame.trans (hadded'.trans hrow))

theorem Inv.not_exchanged (inv : Inv s) (hnew : s.knows newToken = false) :
    newToken ∉ s.exchanged := by
  intro hexchanged
  obtain ⟨row, hrow, hsame⟩ := inv.exchanged newToken hexchanged
  exact not_knows_iff.mp hnew row hrow hsame

/-! ## Steps -/

theorem Inv.issue (inv : Inv s) (hclock : s.clock ≤ now) (hnew : s.knows newToken = false) :
    Inv { s with
      redis := s.redis.issueBlock now record token newToken
      stored := s.stored ++
        [⟨newToken, { record with tokenType := .refresh }, now, newToken⟩]
      clock := now } where
  storedAt := by
    intro row hrow
    obtain hold | hadded := List.mem_append.mp hrow
    · exact (inv.storedAt row hold).trans hclock
    · rw [List.mem_singleton.mp hadded]
  completedAt := fun entry hentry => (inv.completedAt entry hentry).trans hclock
  fresh := inv.nodup_append hnew rfl
  rooted := by
    intro row hrow
    obtain hold | hadded := List.mem_append.mp hrow
    · obtain ⟨first, hfirst, hroot⟩ := inv.rooted row hold
      exact ⟨first, List.mem_append_left _ hfirst, hroot⟩
    · exact ⟨row, hrow, by rw [List.mem_singleton.mp hadded]⟩
  once := inv.once
  exchanged := by
    intro old hold
    obtain ⟨row, hrow, hsame⟩ := inv.exchanged old hold
    exact ⟨row, List.mem_append_left _ hrow, hsame⟩
  line := by
    -- an old line starts at a known token
    have hlines : ∀ row ∈ s.stored, row.root ≠ newToken := by
      intro row hrow hsame
      obtain ⟨first, hfirst, hroot⟩ := inv.rooted row hrow
      exact not_knows_iff.mp hnew first hfirst (hroot.trans hsame)
    intro row hrow other hother hroots hrowUnused hotherUnused
    obtain hold | hadded := List.mem_append.mp hrow
    · obtain hotherOld | hotherAdded := List.mem_append.mp hother
      · exact inv.line row hold other hotherOld hroots hrowUnused hotherUnused
      · rw [List.mem_singleton.mp hotherAdded] at hroots
        exact absurd hroots (hlines row hold)
    · obtain hotherOld | hotherAdded := List.mem_append.mp hother
      · rw [List.mem_singleton.mp hadded] at hroots
        exact absurd hroots.symm (hlines other hotherOld)
      · rw [List.mem_singleton.mp hadded, List.mem_singleton.mp hotherAdded]
  unused := by
    intro found entry hentry
    by_cases hsame : found = newToken
    · subst hsame
      refine ⟨inv.not_exchanged hnew, _, List.mem_append_right _ (List.mem_singleton_self _), rfl,
        ?_⟩
      simpa [Redis.issueBlock, Redis.register, Redis.setex] using hentry.symm
    · have hold : s.redis.tokens (.refresh found) = some entry := by
        simpa [Redis.issueBlock, Redis.register, Redis.setex, hsame] using hentry
      obtain ⟨hunused, row, hrow, hfound, hvalue⟩ := inv.unused found entry hold
      exact ⟨hunused, row, List.mem_append_left _ hrow, hfound, hvalue⟩
  used := by
    intro row hrow hexchanged
    obtain hold | hadded := List.mem_append.mp hrow
    · simpa [Redis.issueBlock, Redis.register, Redis.setex] using inv.used row hold hexchanged
    · rw [List.mem_singleton.mp hadded] at hexchanged
      exact absurd hexchanged (inv.not_exchanged hnew)
  marked := inv.marked
  unmarked := inv.unmarked
  registered := registered_of_register inv.registered (by simp) record.sessionId
  snapshots := inv.snapshots
  lived := ((inv.lived.mono hclock).setex (by decide)).setex (le_refl _)

/-- A token and its successor: the line keeps one token that was not exchanged. -/
theorem Inv.exchange (inv : Inv s) (hclock : s.clock ≤ now) (hnew : s.knows newToken = false)
    (hne : newToken ≠ token) {current : TokenRecord}
    (hcurrent : s.redis.get now (.refresh token) = some current) :
    Inv { s with
      redis := (((s.redis.delete (.refresh token)).setex now (.refreshUsed token)
        refreshTtlSeconds current).setex now (.refresh newToken) refreshTtlSeconds
          record).register now record.sessionId [.refresh newToken]
      stored := s.stored ++ [⟨newToken, record, now, s.rootOf token⟩]
      exchanged := s.exchanged ++ [token]
      clock := now } := by
  obtain ⟨expiry, hentry, hlive⟩ := Redis.get_eq_some.mp hcurrent
  obtain ⟨hunused, before, hbefore, htoken, hvalue⟩ := inv.unused token _ hentry
  have hroot : s.rootOf token = before.root := by
    rw [← htoken]
    exact rootOf_of_mem inv.fresh hbefore
  have hnewExchanged : newToken ∉ s.exchanged ++ [token] := by
    intro hmem
    obtain hold | hsame := List.mem_append.mp hmem
    · exact inv.not_exchanged hnew hold
    · exact hne (List.mem_singleton.mp hsame)
  -- among the old tokens, the one given up was the unused one of its line
  have halone : ∀ row ∈ s.stored, row.root = before.root → row.token ∉ s.exchanged ++ [token] →
      False := by
    intro row hrow hsame hrowUnused
    rw [List.mem_append, not_or] at hrowUnused
    have heq := inv.line row hrow before hbefore hsame hrowUnused.1 (htoken ▸ hunused)
    exact hrowUnused.2 (List.mem_singleton.mpr (heq ▸ htoken))
  refine
    { storedAt := ?storedAt
      completedAt := fun entry hentry => (inv.completedAt entry hentry).trans hclock
      fresh := inv.nodup_append hnew rfl
      rooted := ?rooted
      once := ?once
      exchanged := ?exchanged
      line := ?line
      unused := ?unused
      used := ?used
      marked := inv.marked
      unmarked := inv.unmarked
      registered := registered_of_register inv.registered (by simp) record.sessionId
      snapshots := inv.snapshots
      lived := (((inv.lived.mono hclock).delete).setex (le_refl _)).setex (le_refl _) }
  case storedAt =>
    intro row hrow
    obtain hold | hadded := List.mem_append.mp hrow
    · exact (inv.storedAt row hold).trans hclock
    · rw [List.mem_singleton.mp hadded]
  case rooted =>
    intro row hrow
    obtain hold | hadded := List.mem_append.mp hrow
    · obtain ⟨first, hfirst, hrooted⟩ := inv.rooted row hold
      exact ⟨first, List.mem_append_left _ hfirst, hrooted⟩
    · obtain ⟨first, hfirst, hrooted⟩ := inv.rooted before hbefore
      refine ⟨first, List.mem_append_left _ hfirst, ?_⟩
      rw [List.mem_singleton.mp hadded, hrooted, hroot]
  case once =>
    rw [List.nodup_append]
    refine ⟨inv.once, by simp, ?_⟩
    intro old hold added hadded hsame
    exact hunused (List.mem_singleton.mp hadded ▸ hsame ▸ hold)
  case exchanged =>
    intro old hold
    obtain hearlier | hsame := List.mem_append.mp hold
    · obtain ⟨row, hrow, hfound⟩ := inv.exchanged old hearlier
      exact ⟨row, List.mem_append_left _ hrow, hfound⟩
    · exact ⟨before, List.mem_append_left _ hbefore,
        htoken.trans (List.mem_singleton.mp hsame).symm⟩
  case line =>
    intro row hrow other hother hroots hrowUnused hotherUnused
    obtain hold | hadded := List.mem_append.mp hrow
    · obtain hotherOld | hotherAdded := List.mem_append.mp hother
      · rw [List.mem_append, not_or] at hrowUnused hotherUnused
        exact inv.line row hold other hotherOld hroots hrowUnused.1 hotherUnused.1
      · rw [List.mem_singleton.mp hotherAdded] at hroots
        exact (halone row hold (hroots.trans hroot) hrowUnused).elim
    · obtain hotherOld | hotherAdded := List.mem_append.mp hother
      · rw [List.mem_singleton.mp hadded] at hroots
        exact (halone other hotherOld (hroots.symm.trans hroot) hotherUnused).elim
      · rw [List.mem_singleton.mp hadded, List.mem_singleton.mp hotherAdded]
  case unused =>
    intro found entry hfound
    by_cases hsame : found = newToken
    · subst hsame
      refine ⟨hnewExchanged, _, List.mem_append_right _ (List.mem_singleton_self _), rfl, ?_⟩
      simpa [Redis.register, Redis.setex] using hfound.symm
    · by_cases hgiven : found = token
      · subst hgiven
        simp [Redis.register, Redis.setex, Redis.delete, hsame] at hfound
      · have hold : s.redis.tokens (.refresh found) = some entry := by
          simpa [Redis.register, Redis.setex, Redis.delete, hsame, hgiven] using hfound
        obtain ⟨hfoundUnused, row, hrow, hrowToken, hrowValue⟩ := inv.unused found entry hold
        exact ⟨by simp [hfoundUnused, hgiven], row, List.mem_append_left _ hrow, hrowToken,
          hrowValue⟩
  case used =>
    intro row hrow hexchanged
    obtain hold | hadded := List.mem_append.mp hrow
    · by_cases hgiven : row.token = token
      · refine ⟨current, now + lifetime refreshTtlSeconds, ?_, ?_⟩
        · simp [Redis.register, Redis.setex, hgiven]
        · exact Int.add_le_add_right ((inv.storedAt row hold).trans hclock) _
      · have hearlier : row.token ∈ s.exchanged := by
          simpa [hgiven] using hexchanged
        simpa [Redis.register, Redis.setex, Redis.delete, hgiven] using inv.used row hold hearlier
    · rw [List.mem_singleton.mp hadded] at hexchanged
      exact absurd hexchanged hnewExchanged

/-- The block of a revocation: whichever keys it deletes, the markers of use stay. -/
theorem Inv.revokeBlock (inv : Inv s) (hclock : s.clock ≤ now) {keys : List TokenKey}
    {rest : List (String × List TokenKey)} (hkeys : ∀ token, .refreshUsed token ∉ keys)
    (hrest : ∀ entry ∈ rest, entry ∈ s.revoking) :
    Inv { s with
      redis := s.redis.revokeBlock now session keys
      revoking := rest
      completed := s.completed ++ [(session, now)]
      clock := now } := by
  obtain ⟨htokens, hsets, hmarkers⟩ := Redis.foldl_delete keys (s.redis.markRevoked now session)
  have hmarker : ∀ other, (s.redis.revokeBlock now session keys).revoked other =
      if other = session then some (now + lifetime sessionRevokeTtlSeconds)
      else s.redis.revoked other := by
    intro other
    rw [Redis.revokeBlock, Redis.forget, hmarkers]
    exact Function.update_apply _ _ _ _
  have htoken : ∀ key, (s.redis.revokeBlock now session keys).tokens key =
      if key ∈ keys then none else s.redis.tokens key := htokens
  refine
    { storedAt := fun row hrow => (inv.storedAt row hrow).trans hclock
      completedAt := ?completedAt
      fresh := inv.fresh
      rooted := inv.rooted
      once := inv.once
      exchanged := inv.exchanged
      line := inv.line
      unused := ?unused
      used := ?used
      marked := ?marked
      unmarked := ?unmarked
      registered := ?registered
      snapshots := fun entry hentry => inv.snapshots entry (hrest entry hentry)
      lived := ?lived }
  case completedAt =>
    intro entry hentry
    obtain hold | hadded := List.mem_append.mp hentry
    · exact (inv.completedAt entry hold).trans hclock
    · rw [List.mem_singleton.mp hadded]
  case unused =>
    intro token entry hentry
    rw [htoken] at hentry
    split at hentry
    · cases hentry
    · exact inv.unused token entry hentry
  case used =>
    intro row hrow hexchanged
    obtain ⟨record, expiry, hentry, hlong⟩ := inv.used row hrow hexchanged
    exact ⟨record, expiry, by rw [htoken, if_neg (hkeys row.token), hentry], hlong⟩
  case marked =>
    intro entry hentry
    rw [hmarker]
    obtain hold | hadded := List.mem_append.mp hentry
    · by_cases hsame : entry.1 = session
      · rw [if_pos hsame]
        exact ⟨_, rfl, Int.add_le_add_right ((inv.completedAt entry hold).trans hclock) _⟩
      · rw [if_neg hsame]
        exact inv.marked entry hold
    · rw [List.mem_singleton.mp hadded, if_pos rfl]
      exact ⟨_, rfl, le_refl _⟩
  case unmarked =>
    intro other expiry hexpiry
    rw [hmarker] at hexpiry
    split at hexpiry
    · rename_i hsame
      exact ⟨now, hsame ▸ List.mem_append_right _ (List.mem_singleton_self _)⟩
    · obtain ⟨time, htime⟩ := inv.unmarked other expiry hexpiry
      exact ⟨time, List.mem_append_left _ htime⟩
  case registered =>
    intro other found expiry hfound
    change Function.update (keys.foldl Redis.delete (s.redis.markRevoked now session)).sessionKeys
      session none other = some (found, expiry) at hfound
    by_cases hsame : other = session
    · rw [hsame, Function.update_self] at hfound
      cases hfound
    · rw [Function.update_of_ne hsame, hsets] at hfound
      exact inv.registered other found expiry hfound
  case lived =>
    intro key entry hentry
    rw [htoken] at hentry
    split at hentry
    · cases hentry
    · exact inv.lived.mono hclock key entry hentry

/-- What a rotation answers and leaves. -/
theorem rotate_cases (h : s.rotate now token newToken record = (event, t)) :
    (event = .rotated 1 ∧ s.redis.isRevoked now record.sessionId = false ∧
      ∃ current, s.redis.get now (.refresh token) = some current ∧
        t = { s with
          redis := (((s.redis.delete (.refresh token)).setex now (.refreshUsed token)
            refreshTtlSeconds current).setex now (.refresh newToken) refreshTtlSeconds
              record).register now record.sessionId [.refresh newToken]
          stored := s.stored ++ [⟨newToken, record, now, s.rootOf token⟩]
          exchanged := s.exchanged ++ [token] }) ∨
    ((s.redis.rotateScript now token newToken record).1 ≠ 1 ∧
      event = .rotated (s.redis.rotateScript now token newToken record).1 ∧ t = s) := by
  unfold rotate at h
  by_cases hone : (s.redis.rotateScript now token newToken record).1 = 1
  · obtain ⟨hrevoked, current, hcurrent, hredis⟩ := Redis.rotateScript_one hone
    simp only [hone, if_true, Prod.mk.injEq] at h
    exact .inl ⟨h.1.symm, hrevoked, current, hcurrent, by rw [← h.2, hredis]⟩
  · simp only [hone, if_false, Redis.rotateScript_other hone, Prod.mk.injEq] at h
    exact .inr ⟨hone, h.1.symm, h.2.symm⟩

theorem load_reads (s : System) (now : Instant) (request : ℕ) (token : String) :
    Reads s (s.load now request token).2 := by
  unfold load
  split
  · exact ⟨rfl, rfl, rfl, rfl, rfl⟩
  · split
    · exact ⟨rfl, rfl, rfl, rfl, rfl⟩
    · split
      · exact ⟨rfl, rfl, rfl, rfl, rfl⟩
      · split <;> exact ⟨rfl, rfl, rfl, rfl, rfl⟩

theorem checkMarker_reads {place : ℕ} {admitted : Bool}
    (h : s.checkMarker now place admitted = some (event, t)) : Reads s t := by
  unfold checkMarker at h
  split at h
  · cases h
  · split at h <;> cases h <;> exact ⟨rfl, rfl, rfl, rfl, rfl⟩

theorem Inv.command (inv : Inv s) (hclock : s.clock ≤ now)
    (h : s.command now action = some (event, t)) : Inv { t with clock := now } := by
  cases action with
  | issue common accessToken refreshToken =>
    simp only [System.command] at h
    split at h
    · cases h
    · rename_i hnew
      cases h
      exact inv.issue hclock (Bool.eq_false_iff.mpr hnew)
  | rotate token newToken record =>
    simp only [System.command] at h
    split at h
    · cases h
    · rename_i hguard
      simp only [not_or] at hguard
      rcases rotate_cases (Option.some.inj h) with
        ⟨-, -, current, hcurrent, rfl⟩ | ⟨-, -, rfl⟩
      · exact inv.exchange hclock (Bool.eq_false_iff.mpr hguard.1) hguard.2.1 hcurrent
      · exact inv.reads hclock ⟨rfl, rfl, rfl, rfl, rfl⟩
  | storeAccess token record =>
    cases h
    exact inv.keep hclock rfl rfl rfl
      (fun other entry hentry => by simpa [Redis.storeBlock, Redis.register, Redis.setex]
        using hentry)
      (fun other => by simp [Redis.storeBlock, Redis.register, Redis.setex]) rfl
      (registered_of_register inv.registered (by simp) record.sessionId) inv.snapshots
      ((inv.lived.mono hclock).setex (by decide))
  | readKeys session =>
    cases h
    refine inv.keep hclock rfl rfl rfl (fun _ _ h => h) (fun _ => rfl) rfl inv.registered ?_
      (inv.lived.mono hclock)
    intro entry hentry token hmem
    rcases List.mem_append.mp hentry with hold | hadded
    · exact inv.snapshots entry hold token hmem
    · rw [List.mem_singleton.mp hadded] at hmem
      obtain ⟨keys, expiry, hkeys, hin⟩ := Redis.mem_smembers hmem
      exact inv.registered session keys expiry hkeys token hin
  | revoke place =>
    simp only [System.command, System.revoke] at h
    split at h
    · cases h
    · rename_i session keys hplace
      cases h
      exact inv.revokeBlock hclock (inv.snapshots _ (List.mem_of_getElem? hplace))
        (fun entry hentry => List.mem_of_mem_eraseIdx hentry)
  | load request token =>
    have hreads := load_reads s now request token
    rw [Option.some.inj h] at hreads
    exact inv.reads hclock hreads
  | checkMarker place admitted => exact inv.reads hclock (checkMarker_reads h)

theorem step_cases (h : s.step (now, action) = some (event, t)) :
    s.clock ≤ now ∧ ∃ u, s.command now action = some (event, u) ∧ t = { u with clock := now } := by
  unfold step at h
  split at h
  · rename_i hclock
    obtain ⟨⟨shown, u⟩, hcommand, hnext⟩ := Option.map_eq_some_iff.mp h
    cases hnext
    exact ⟨hclock, u, hcommand, rfl⟩
  · cases h

theorem Inv.step {label : Instant × Command} (inv : Inv s) (h : Step s label t) : Inv t := by
  obtain ⟨event, hstep⟩ := h
  obtain ⟨hclock, u, hcommand, rfl⟩ := step_cases hstep
  exact inv.command hclock hcommand

theorem Inv.run {clock : Instant} (run : Run Step (System.opened clock) labels t) : Inv t :=
  run.invariant Inv (fun _ _ _ inv h => inv.step h) (Inv.opened clock)

/-! ## A revoked session -/

/-- The marker of a completed revocation is seen while it lives. -/
theorem Inv.isRevoked (inv : Inv s) (hcompleted : (session, time) ∈ s.completed)
    (hnow : now < time + lifetime sessionRevokeTtlSeconds) :
    s.redis.isRevoked now session = true := by
  obtain ⟨expiry, hmarker, hlong⟩ := inv.marked _ hcompleted
  have hlive : now < expiry := lt_of_lt_of_le hnow hlong
  simp [Redis.isRevoked, hmarker, hlive]

theorem Inv.not_isRevoked (inv : Inv s) (hopen : ∀ time, (session, time) ∉ s.completed) :
    s.redis.isRevoked now session = false := by
  cases hmarker : s.redis.revoked session with
  | none => simp [Redis.isRevoked, hmarker]
  | some expiry =>
    obtain ⟨time, htime⟩ := inv.unmarked session expiry hmarker
    exact absurd htime (hopen time)

/-- The record passed with a stored token is of its session. -/
theorem session_of_passes (h : s.passes token record = true)
    (hrow : row ∈ s.stored) (htoken : row.token = token) :
    record.sessionId = row.record.sessionId := by
  have hsame := List.all_eq_true.mp h row hrow
  simp only [htoken, ne_eq, not_true_eq_false, false_or, decide_eq_true_eq] at hsame
  rw [hsame]

/-- The guards of a rotation, and its answer. -/
theorem rotate_of_step (h : s.step (now, .rotate token newToken record) = some (event, t)) :
    s.passes token record = true ∧
      event = .rotated (s.redis.rotateScript now token newToken record).1 := by
  obtain ⟨-, u, hcommand, -⟩ := step_cases h
  simp only [System.command] at hcommand
  split at hcommand
  · cases hcommand
  · rename_i hguard
    simp only [not_or, not_not] at hguard
    refine ⟨hguard.2.2, ?_⟩
    rcases rotate_cases (Option.some.inj hcommand) with ⟨hevent, hrevoked, current, hcurrent, -⟩ |
      ⟨-, hevent, -⟩
    · rw [hevent]
      simp [Redis.rotateScript, hrevoked, hcurrent]
    · exact hevent

/-- Completed revocations stay, and a context is kept by a request that finds no marker. -/
theorem command_keeps (h : s.command now action = some (event, t)) :
    s.completed ⊆ t.completed ∧ (t.contexts = s.contexts ∨ ∃ request token record,
      s.redis.isRevoked now record.sessionId = false ∧
        t.contexts = Function.update s.contexts request (some (token, record))) := by
  cases action with
  | issue common accessToken refreshToken =>
    simp only [System.command] at h
    split at h <;> cases h
    exact ⟨List.Subset.refl _, .inl rfl⟩
  | rotate token newToken record =>
    simp only [System.command] at h
    split at h
    · cases h
    · obtain ⟨-, -, current, -, rfl⟩ | ⟨-, -, rfl⟩ := rotate_cases (Option.some.inj h)
      · exact ⟨List.Subset.refl _, .inl rfl⟩
      · exact ⟨List.Subset.refl _, .inl rfl⟩
  | storeAccess token record =>
    cases h
    exact ⟨List.Subset.refl _, .inl rfl⟩
  | readKeys session =>
    cases h
    exact ⟨List.Subset.refl _, .inl rfl⟩
  | revoke place =>
    simp only [System.command, System.revoke] at h
    split at h <;> cases h
    exact ⟨List.subset_append_left _ _, .inl rfl⟩
  | load request token =>
    have hkept : (s.load now request token).2.completed = s.completed ∧
        (s.load now request token).2.contexts = s.contexts := by
      unfold load
      repeat' split
      all_goals exact ⟨rfl, rfl⟩
    rw [Option.some.inj h] at hkept
    exact ⟨hkept.1 ▸ List.Subset.refl _, .inl hkept.2⟩
  | checkMarker place admitted =>
    simp only [System.command, System.checkMarker] at h
    split at h
    · cases h
    · rename_i request token record hplace
      split at h <;> cases h
      · exact ⟨List.Subset.refl _, .inl rfl⟩
      · rename_i hadmitted
        rw [not_or] at hadmitted
        exact ⟨List.Subset.refl _,
          .inr ⟨request, token, record, Bool.eq_false_iff.mpr hadmitted.1, rfl⟩⟩

theorem clock_le (run : Run Step s labels t) : s.clock ≤ t.clock := by
  refine run.relation (fun s t => s.clock ≤ t.clock) (fun _ => le_refl _)
    (fun _ _ _ => le_trans) ?_
  rintro s label t ⟨event, hstep⟩
  obtain ⟨hclock, u, -, rfl⟩ := step_cases hstep
  exact hclock

/-- While the marker of its revocation lives, the contexts of a session are those there were. -/
theorem Inv.contexts_of_run (run : Run Step s labels t) (inv : Inv s)
    (hcompleted : (session, time) ∈ s.completed)
    (hwindow : t.clock < time + lifetime sessionRevokeTtlSeconds) {request : ℕ}
    (hcontext : t.contexts request = some (token, record)) (hsession : record.sessionId = session) :
    s.contexts request = some (token, record) := by
  induction run with
  | nil s => exact hcontext
  | cons hstep rest ih =>
    rename_i before middle last label labels
    obtain ⟨event, hstepped⟩ := hstep
    obtain ⟨hclock, u, hcommand, rfl⟩ := step_cases hstepped
    obtain ⟨hkeeps, hcontexts⟩ := command_keeps hcommand
    have hmiddle := ih (inv.step ⟨event, hstepped⟩) (hkeeps hcompleted) hwindow hcontext
    obtain hsame | ⟨asking, asked, found, hunmarked, hadded⟩ := hcontexts
    · exact hsame ▸ hmiddle
    · simp only [hadded] at hmiddle
      by_cases hasking : request = asking
      · -- a context added now would be of a session without a marker
        rw [hasking, Function.update_self] at hmiddle
        cases hmiddle
        have hmarked := inv.isRevoked hcompleted (lt_of_le_of_lt (clock_le rest) hwindow)
        rw [hsession, hmarked] at hunmarked
        cases hunmarked
      · rwa [Function.update_of_ne hasking] at hmiddle

theorem completed_of_run (run : Run Step s labels t) : s.completed ⊆ t.completed := by
  refine run.relation (fun s t => s.completed ⊆ t.completed) (fun _ => List.Subset.refl _)
    (fun _ _ _ => List.Subset.trans) ?_
  rintro s label t ⟨event, hstep⟩
  obtain ⟨-, u, hcommand, rfl⟩ := step_cases hstep
  exact (command_keeps hcommand).1

/-- A session whose revocation had completed in `s` at `time`, seen from the later `t`: until
the marker ends its refresh tokens are not exchanged and a look at the marker refuses, a load
finds only what its request had authenticated by then, and tokens stored in time for that
are gone before the marker is. -/
structure Barred (s t : System) (session : String) (time : Instant) : Prop where
  rotate : ∀ now token newToken record event u, now < time + lifetime sessionRevokeTtlSeconds →
    (∃ row ∈ t.stored, row.token = token ∧ row.record.sessionId = session) →
    t.step (now, .rotate token newToken record) = some (event, u) → event = .rotated (-2)
  marker : ∀ now place admitted request token record event u,
    now < time + lifetime sessionRevokeTtlSeconds →
    t.loading[place]? = some (request, token, record) → record.sessionId = session →
    t.step (now, .checkMarker place admitted) = some (event, u) → event = .refused
  load : ∀ now request token event u, now < time + lifetime sessionRevokeTtlSeconds →
    t.step (now, .load request token) = some (event, u) →
    event = .refused ∨ event = .tokenRead ∨ ∃ record, event = .cached record ∧
      (record.sessionId = session → s.contexts request = some (token, record))
  outlived : t.clock + lifetime refreshTtlSeconds ≤ time + lifetime sessionRevokeTtlSeconds →
    ∀ key entry, t.redis.tokens key = some entry →
      entry.2 ≤ time + lifetime sessionRevokeTtlSeconds

theorem load_event (s : System) (now : Instant) (request : ℕ) (token : String) :
    (s.load now request token).1 = .refused ∨ (s.load now request token).1 = .tokenRead ∨
      ∃ record, (s.load now request token).1 = .cached record ∧
        s.contexts request = some (token, record) := by
  unfold load
  split
  · exact .inl rfl
  · split
    · rename_i context hcontext
      obtain ⟨hkept, hsame⟩ := Option.filter_eq_some_iff.mp hcontext
      have htoken : context.1 = token := by simpa using hsame
      exact .inr (.inr ⟨context.2, rfl, by rw [hkept, ← htoken]⟩)
    · split
      · exact .inl rfl
      · split
        · exact .inl rfl
        · exact .inr (.inl rfl)

theorem Inv.barred (inv : Inv s) (run : Run Step s labels t)
    (hcompleted : (session, time) ∈ s.completed) : Barred s t session time where
  rotate := by
    intro now token newToken record event u hnow hstored hstep
    obtain ⟨row, hrow, htoken, hsession⟩ := hstored
    obtain ⟨hpasses, hevent⟩ := rotate_of_step hstep
    have hmarked : t.redis.isRevoked now record.sessionId = true := by
      rw [session_of_passes hpasses hrow htoken, hsession]
      exact (run.invariant Inv (fun _ _ _ inv h => inv.step h) inv).isRevoked
        (completed_of_run run hcompleted) hnow
    rw [hevent]
    simp [Redis.rotateScript, hmarked]
  marker := by
    intro now place admitted request token record event u hnow hplace hsession hstep
    obtain ⟨-, v, hcommand, -⟩ := step_cases hstep
    have hmarked : t.redis.isRevoked now record.sessionId = true := by
      rw [hsession]
      exact (run.invariant Inv (fun _ _ _ inv h => inv.step h) inv).isRevoked
        (completed_of_run run hcompleted) hnow
    simp only [System.command, System.checkMarker, hplace, hmarked, true_or, if_true,
      Option.some.injEq, Prod.mk.injEq] at hcommand
    exact hcommand.1.symm
  load := by
    intro now request token event u hnow hstep
    obtain ⟨hclock, v, hcommand, -⟩ := step_cases hstep
    have hevent := load_event t now request token
    rw [Option.some.inj hcommand] at hevent
    obtain hrefused | hread | ⟨record, hcached, hcontext⟩ := hevent
    · exact .inl hrefused
    · exact .inr (.inl hread)
    · refine .inr (.inr ⟨record, hcached, fun hsession => ?_⟩)
      exact inv.contexts_of_run run hcompleted (lt_of_le_of_lt hclock hnow) hcontext hsession
  outlived := by
    intro hearly key entry hentry
    exact ((run.invariant Inv (fun _ _ _ inv h => inv.step h) inv).lived key entry hentry).trans
      hearly

/-- An exchanged token shows its marker of use. -/
theorem Inv.replayed (inv : Inv s) (hrow : row ∈ s.stored) (hexchanged : row.token ∈ s.exchanged)
    (hopen : ∀ time, (row.record.sessionId, time) ∉ s.completed)
    (hnow : now < row.storedAt + lifetime refreshTtlSeconds)
    (hstep : s.step (now, .rotate row.token newToken record) = some (event, t)) :
    event = .rotated (-1) := by
  obtain ⟨hpasses, hevent⟩ := rotate_of_step hstep
  have hunmarked : s.redis.isRevoked now record.sessionId = false := by
    rw [session_of_passes hpasses hrow rfl]
    exact inv.not_isRevoked hopen
  have hgone : s.redis.get now (.refresh row.token) = none := by
    refine Redis.get_eq_none_of_tokens ?_
    cases hentry : s.redis.tokens (.refresh row.token) with
    | none => rfl
    | some entry => exact absurd hexchanged (inv.unused row.token entry hentry).1
  obtain ⟨kept, expiry, hused, hlong⟩ := inv.used row hrow hexchanged
  have hreplay : s.redis.get now (.refreshUsed row.token) = some kept :=
    Redis.get_eq_some.mpr ⟨expiry, hused, lt_of_lt_of_le hnow hlong⟩
  rw [hevent]
  simp [Redis.rotateScript, hunmarked, hgone, hreplay]

/-- Over every interleaving, with `s` an earlier state of the run. -/
theorem tokens_of_run {clock : Instant} {more : List (Instant × Command)}
    (before : Run Step (System.opened clock) labels s) (after : Run Step s more t) :
    t.exchanged.Nodup ∧
    (∀ row ∈ t.stored, row.token ∈ t.exchanged →
      (∀ time, (row.record.sessionId, time) ∉ t.completed) →
      ∀ now newToken record event u, now < row.storedAt + lifetime refreshTtlSeconds →
        t.step (now, .rotate row.token newToken record) = some (event, u) →
        event = .rotated (-1)) ∧
    (∀ row ∈ t.stored, ∀ other ∈ t.stored, row.root = other.root →
      row.token ∉ t.exchanged → other.token ∉ t.exchanged → row = other) ∧
    ∀ session time, (session, time) ∈ s.completed → Barred s t session time := by
  have inv := Inv.run (before.append after)
  refine ⟨inv.once, ?_, inv.line, ?_⟩
  · intro row hrow hexchanged hopen now newToken record event u hnow hstep
    exact inv.replayed hrow hexchanged hopen hnow hstep
  · intro session time hcompleted
    exact (Inv.run before).barred after hcompleted

/-! ## A revocation that runs while a token is exchanged -/

/-- The state after a command. -/
def next (s : System) (label : Instant × Command) : Option System := (s.step label).map Prod.snd

theorem step_of_next (s : System) (label : Instant × Command) (t : System)
    (h : next s label = some t) : Step s label t := by
  obtain ⟨⟨event, u⟩, hstep, rfl⟩ := Option.map_eq_some_iff.mp h
  exact ⟨event, hstep⟩

def phone : TokenRecord := ⟨"u-1", "d-1", "w-1", "driver", "p-1", 0, .refresh⟩

/-- Request 1 authenticates, and the second token is stored after the session's keys were
read. -/
def signedOut : List (Instant × Command) :=
  [(1000, .issue phone "a1" "r1"), (2000, .load 1 "a1"), (2000, .checkMarker 0 true),
    (3000, .readKeys "d-1"), (4000, .rotate "r1" "r2" { phone with issuedAt := 4 }),
    (5000, .revoke 0)]

/-- The access token of the rotation comes after the revocation. -/
def lateAccess : List (Instant × Command) :=
  [(6000, .storeAccess "a2" { phone with tokenType := .access }), (7000, .load 2 "a2")]

/-- Neither the second refresh token nor the late access token is of use. -/
theorem late_tokens_barred :
    ∃ s t, exec next (System.opened 0) signedOut = some s ∧ exec next s lateAccess = some t ∧
      t.exchanged = ["r1"] ∧ t.exchanged.Nodup ∧
      (t.step (8000, .rotate "r2" "r3" phone)).map Prod.fst = some (.rotated (-2)) ∧
      (t.step (8000, .checkMarker 0 true)).map Prod.fst = some .refused := by
  have hrun : (exec next (System.opened 0) signedOut).any (fun s =>
      decide (("d-1", 5000) ∈ s.completed) && (exec next s lateAccess).any (fun t =>
        decide (t.exchanged = ["r1"] ∧
          t.loading = [(2, "a2", { phone with tokenType := .access })] ∧
          (∃ row ∈ t.stored, row.token = "r2" ∧ row.record.sessionId = "d-1") ∧
          (t.step (8000, .rotate "r2" "r3" phone)).isSome = true ∧
          (t.step (8000, .checkMarker 0 true)).isSome = true))) = true := by
    decide +kernel
  obtain ⟨s, hs, hfacts⟩ := (Option.any_eq_true _ _).mp hrun
  rw [Bool.and_eq_true] at hfacts
  obtain ⟨t, ht, hlate⟩ := (Option.any_eq_true _ _).mp hfacts.2
  obtain ⟨hexchanged, hloading, hrow, hrotate, hmarker⟩ := of_decide_eq_true hlate
  obtain ⟨honce, -, -, hbarred⟩ :=
    tokens_of_run (Run.of_exec step_of_next hs) (Run.of_exec step_of_next ht)
  have hend := hbarred "d-1" 5000 (of_decide_eq_true hfacts.1)
  refine ⟨s, t, hs, ht, hexchanged, honce, ?_, ?_⟩
  · obtain ⟨⟨event, u⟩, hstep⟩ := Option.isSome_iff_exists.mp hrotate
    rw [hstep, hend.rotate 8000 "r2" "r3" phone event u (by decide) hrow hstep]
    rfl
  · obtain ⟨⟨event, u⟩, hstep⟩ := Option.isSome_iff_exists.mp hmarker
    rw [hstep, hend.marker 8000 0 true 2 "a2" _ event u (by decide) (by rw [hloading]; rfl)
      rfl hstep]
    rfl

/-- The request that authenticated before the revocation is answered from its context after. -/
theorem cached_after_revocation :
    ¬ ∀ (clock : Instant) (labels : List (Instant × Command)) (s : System),
        Run Step (System.opened clock) labels s →
      ∀ session time, (session, time) ∈ s.completed →
      ∀ now request token event u, now < time + lifetime sessionRevokeTtlSeconds →
        s.step (now, .load request token) = some (event, u) →
        ∀ record, record.sessionId = session →
          event ≠ .cached record ∧ event ≠ .authenticated record := by
  intro claim
  have hrun : (exec next (System.opened 0) signedOut).any (fun s =>
      decide (("d-1", 5000) ∈ s.completed ∧ (s.step (6000, .load 1 "a1")).map Prod.fst =
        some (.cached { phone with tokenType := .access }))) = true := by
    decide +kernel
  obtain ⟨s, hs, hfacts⟩ := (Option.any_eq_true _ _).mp hrun
  obtain ⟨hcompleted, hcached⟩ := of_decide_eq_true hfacts
  obtain ⟨⟨event, u⟩, hstep, hevent⟩ := Option.map_eq_some_iff.mp hcached
  exact (claim 0 signedOut s (Run.of_exec step_of_next hs) "d-1" 5000 hcompleted 6000 1 "a1" event u
    (by decide) hstep { phone with tokenType := .access } rfl).1 hevent

end System

end Afcon360.Auth.Mobile
