import KidsChores.Models

/-!
# Idempotency service

`app/services/idempotency.py`: a response is stored in Redis under the member and
the key, and a replayed request gets it back without running its handler.
-/

set_option autoImplicit false

namespace KidsChores.Services.Idempotency

open KidsChores.Models
open KidsChores.Library.PyDatetime

/-- `_TTL_SECONDS`. -/
def ttlSeconds : Int := 24 * 60 * 60

structure CacheEntry (Response : Type) where
  memberId : Uuid
  idempotencyKey : String
  expiresAt : Instant
  response : Response

/-- The Redis keys of the service; an expired entry is not seen any more. -/
abbrev Cache (Response : Type) := List (CacheEntry Response)

variable {State Response Error : Type}

/-- `GET idem:{member_id}:{idempotency_key}`. -/
def Cache.get (cache : Cache Response) (now : Instant) (memberId : Uuid)
    (idempotencyKey : String) : Option Response :=
  (cache.find? fun entry => entry.memberId = memberId ∧
    entry.idempotencyKey = idempotencyKey ∧ now < entry.expiresAt).map
      CacheEntry.response

/-- `SET … EX _TTL_SECONDS NX`. -/
def Cache.setNx (cache : Cache Response) (now : Instant) (memberId : Uuid)
    (idempotencyKey : String) (response : Response) : Cache Response :=
  match cache.get now memberId idempotencyKey with
  | some _ => cache
  | none => ⟨memberId, idempotencyKey, now + timedeltaSeconds ttlSeconds,
      response⟩ :: cache

/-! ## Reads after a `SET NX` -/

theorem Cache.get_eq_none_iff {cache : Cache Response} {now : Instant}
    {memberId : Uuid} {idempotencyKey : String} :
    cache.get now memberId idempotencyKey = none ↔
      ∀ entry ∈ cache, entry.memberId = memberId →
        entry.idempotencyKey = idempotencyKey → entry.expiresAt ≤ now := by
  simp [Cache.get, List.find?_eq_none]

/-- A key that is not cached stays so until a response is stored. -/
theorem Cache.get_none_later {cache : Cache Response} {now later : Instant}
    {memberId : Uuid} {idempotencyKey : String}
    (missing : cache.get now memberId idempotencyKey = none) (after : now ≤ later) :
    cache.get later memberId idempotencyKey = none := by
  rw [Cache.get_eq_none_iff] at missing ⊢
  intro entry member sameMember sameKey
  exact Int.le_trans (missing entry member sameMember sameKey) after

theorem Cache.setNx_cached {cache : Cache Response} {now : Instant}
    {memberId : Uuid} {idempotencyKey : String} {cached response : Response}
    (found : cache.get now memberId idempotencyKey = some cached) :
    cache.setNx now memberId idempotencyKey response = cache := by
  simp [Cache.setNx, found]

theorem Cache.setNx_missing {cache : Cache Response} {now : Instant}
    {memberId : Uuid} {idempotencyKey : String} {response : Response}
    (missing : cache.get now memberId idempotencyKey = none) :
    cache.setNx now memberId idempotencyKey response =
      ⟨memberId, idempotencyKey, now + timedeltaSeconds ttlSeconds, response⟩ ::
        cache := by
  simp [Cache.setNx, missing]

theorem Cache.get_setNx_same {cache : Cache Response} {now later : Instant}
    {memberId : Uuid} {idempotencyKey : String} {response : Response}
    (missing : cache.get now memberId idempotencyKey = none)
    (live : later < now + timedeltaSeconds ttlSeconds) :
    (cache.setNx now memberId idempotencyKey response).get later memberId
      idempotencyKey = some response := by
  rw [Cache.setNx_missing missing]
  simp [Cache.get, live]

theorem Cache.get_setNx_other {cache : Cache Response} {now later : Instant}
    {memberId otherMember : Uuid} {idempotencyKey otherKey : String}
    {response : Response}
    (different : ¬ (memberId = otherMember ∧ idempotencyKey = otherKey)) :
    (cache.setNx now memberId idempotencyKey response).get later otherMember
      otherKey = cache.get later otherMember otherKey := by
  cases found : cache.get now memberId idempotencyKey with
  | some cached => rw [Cache.setNx_cached found]
  | none =>
      rw [Cache.setNx_missing found, Cache.get, Cache.get, List.find?_cons_of_neg]
      rw [decide_eq_true_iff]
      exact fun same => different ⟨same.1, same.2.1⟩

/-- Two caches that hold the same of both members hold the same of them after the same
`SET NX`. -/
theorem Cache.setNx_same {cache other : Cache Response} {now later : Instant}
    {memberId asked : Uuid} {idempotencyKey wanted : String} {response : Response}
    (same : cache.get now memberId idempotencyKey = other.get now memberId idempotencyKey)
    (sameAsked : cache.get later asked wanted = other.get later asked wanted) :
    (cache.setNx now memberId idempotencyKey response).get later asked wanted =
      (other.setNx now memberId idempotencyKey response).get later asked wanted := by
  unfold Cache.setNx
  rw [← same]
  cases cache.get now memberId idempotencyKey with
  | some cached => exact sameAsked
  | none =>
      unfold Cache.get at sameAsked ⊢
      rw [List.find?_cons, List.find?_cons]
      split
      · rfl
      · exact sameAsked

/-! ## A call -/

/-- `deserialize` raises on a response stored by another kind of request. -/
def runIdempotent (now : Instant) (memberId : Uuid) (idempotencyKey : String)
    (deserialize : Response → Except Error Response)
    (handler : State → Except Error (Response × State)) (cache : Cache Response)
    (state : State) : Except Error (Response × State) × Cache Response :=
  match cache.get now memberId idempotencyKey with
  | some cached => ((deserialize cached).map fun response => (response, state), cache)
  | none =>
      match handler state with
      | .error raised => (.error raised, cache)
      | .ok (response, next) =>
          (.ok (response, next), cache.setNx now memberId idempotencyKey response)

/-- A call that returns has either replayed a response and left the state alone,
or run its handler. -/
theorem runIdempotent_ok {now : Instant} {memberId : Uuid}
    {idempotencyKey : String} {deserialize : Response → Except Error Response}
    {handler : State → Except Error (Response × State)} {cache : Cache Response}
    {state next : State} {response : Response}
    (returned : (runIdempotent now memberId idempotencyKey deserialize handler cache
      state).1 = .ok (response, next)) :
    next = state ∨ (cache.get now memberId idempotencyKey = none ∧
      handler state = .ok (response, next)) := by
  unfold runIdempotent at returned
  cases stored : cache.get now memberId idempotencyKey with
  | some cached =>
      simp only [stored] at returned
      cases read : deserialize cached with
      | error raised =>
          rw [read] at returned
          cases returned
      | ok known =>
          rw [read] at returned
          cases returned
          exact Or.inl rfl
  | none =>
      simp only [stored] at returned
      split at returned
      · cases returned
      · rename_i known after run
        cases returned
        exact Or.inr ⟨rfl, run⟩

end KidsChores.Services.Idempotency
