import Mathlib.Logic.Function.Basic
import KidsChores.Library.Runs
import KidsChores.Routers.Requests

/-!
# Idempotent requests step by step

A task mutation crosses two stores: `run_idempotent` reads Redis, runs the
handler on the open session and stores the response, and only then does `get_db`
commit the session.  Each of the four steps can fail, and a command can also
take effect and fail afterwards, when its reply is lost.  A failure rolls the
session back; it takes nothing back from Redis.
-/

set_option autoImplicit false

namespace KidsChores.Routers.IdempotentRequests

open KidsChores.Models
open KidsChores.Library.PyDatetime
open KidsChores.Library.Runs
open KidsChores.Services.Idempotency
open KidsChores.Session

/-- The arguments of one request.  Its handler reads the committed state and
leaves a response and the change the commit will make. -/
structure Mutation (State Response Error : Type) where
  memberId : Uuid
  idempotencyKey : String
  handler : State → Except Error (Response × (State → State))
  deserialize : Response → Except Error Response

inductive Phase (State Response : Type) where
  | ready
  | missed
  | ran (response : Response) (change : State → State)
  | stored (response : Response) (change : State → State)
  | committed (response : Response)
  | replayed (response : Response)
  | failed

/-- Redis, the database and the requests.  A cached response is tagged with the
request that stored it. -/
structure Config (Id State Response : Type) where
  now : Instant
  state : State
  cache : Cache (Id × Response)
  phase : Id → Phase State Response

inductive Outcome where
  | succeeds
  | fails
  | failsAfter
  deriving DecidableEq, Repr

structure Step (Id : Type) where
  id : Id
  elapsed : Nat
  outcome : Outcome
  deriving DecidableEq, Repr

variable {Id State Response Error : Type}

def opening (now : Instant) (state : State) : Config Id State Response :=
  ⟨now, state, [], fun _ => .ready⟩

def Config.tick (config : Config Id State Response) (elapsed : Nat) :
    Config Id State Response :=
  { config with now := config.now + elapsed }

def replay (deserialize : Response → Except Error Response) (cached : Response) :
    Phase State Response :=
  match deserialize cached with
  | .error _ => .failed
  | .ok response => .replayed response

def Phase.replayed? : Phase State Response → Option Response
  | .replayed response => some response
  | _ => none

def Phase.isFailed : Phase State Response → Bool
  | .failed => true
  | _ => false

section Step

variable [DecidableEq Id]

def Config.enter (config : Config Id State Response) (id : Id)
    (phase : Phase State Response) : Config Id State Response :=
  { config with phase := Function.update config.phase id phase }

def Config.store (config : Config Id State Response) (id : Id)
    (request : Mutation State Response Error) (response : Response) :
    Config Id State Response :=
  { config with
    cache := config.cache.setNx config.now request.memberId request.idempotencyKey
      (id, response) }

/-- The next step of a request at the time of `config`. -/
def advance (requests : Id → Mutation State Response Error)
    (config : Config Id State Response) (id : Id) (outcome : Outcome) :
    Config Id State Response :=
  let request := requests id
  match config.phase id, outcome with
  | .ready, .succeeds =>
      match config.cache.get config.now request.memberId request.idempotencyKey with
      | some (_, cached) => config.enter id (replay request.deserialize cached)
      | none => config.enter id .missed
  | .ready, _ => config.enter id .failed
  | .missed, .succeeds =>
      match request.handler config.state with
      | .error _ => config.enter id .failed
      | .ok (response, change) => config.enter id (.ran response change)
  | .missed, _ => config.enter id .failed
  | .ran response change, .succeeds =>
      (config.store id request response).enter id (.stored response change)
  | .ran response _, .failsAfter =>
      (config.store id request response).enter id .failed
  | .ran _ _, .fails => config.enter id .failed
  | .stored _ _, .fails => config.enter id .failed
  | .stored response change, _ =>
      { config.enter id (.committed response) with state := change config.state }
  | .committed _, _ => config
  | .replayed _, _ => config
  | .failed, _ => config

def requestStep (requests : Id → Mutation State Response Error)
    (config : Config Id State Response) (step : Step Id) :
    Config Id State Response :=
  advance requests (config.tick step.elapsed) step.id step.outcome

end Step

/-! ## One request by itself -/

/-- A router's handler: the session it leaves is what the commit writes. -/
def ofHandler (handler : Handler) (db : Database) :
    Except RequestError (Routers.Response × (Database → Database)) :=
  (handler ⟨db, true⟩).map fun result => (result.1, fun _ => result.2.db)

/-- The flush at the commit refuses a session with an update no column takes. -/
def commitOutcome (handler : Handler) (db : Database) : Outcome :=
  match handler ⟨db, true⟩ with
  | .ok (_, session) => if session.flushable then .succeeds else .fails
  | .error _ => .succeeds

/-- The cache as Redis has it. -/
def untagged (cache : Cache (Id × Response)) : Cache Response :=
  cache.map fun entry =>
    ⟨entry.memberId, entry.idempotencyKey, entry.expiresAt, entry.response.2⟩

theorem get_untagged (cache : Cache (Id × Response)) (now : Instant)
    (memberId : Uuid) (idempotencyKey : String) :
    (untagged cache).get now memberId idempotencyKey =
      (cache.get now memberId idempotencyKey).map Prod.snd := by
  induction cache with
  | nil => rfl
  | cons entry rest ih =>
      simp only [Cache.get, untagged, List.map_cons] at ih ⊢
      by_cases hit : entry.memberId = memberId ∧ entry.idempotencyKey = idempotencyKey ∧
          now < entry.expiresAt
      · simp [hit]
      · rw [List.find?_cons_of_neg (by simpa using hit),
          List.find?_cons_of_neg (by simpa using hit)]
        exact ih

theorem setNx_untagged (cache : Cache (Id × Response)) (now : Instant)
    (memberId : Uuid) (idempotencyKey : String) (id : Id) (response : Response) :
    untagged (cache.setNx now memberId idempotencyKey (id, response)) =
      (untagged cache).setNx now memberId idempotencyKey response := by
  cases found : cache.get now memberId idempotencyKey with
  | none =>
      have missing : (untagged cache).get now memberId idempotencyKey = none := by
        rw [get_untagged, found]
        rfl
      rw [Cache.setNx_missing found, Cache.setNx_missing missing]
      rfl
  | some cached =>
      have known : (untagged cache).get now memberId idempotencyKey =
          some cached.2 := by
        rw [get_untagged, found]
        rfl
      rw [Cache.setNx_cached found, Cache.setNx_cached known]

/-- Without a failure and without another request between its steps, a request
does what `runHandler` says. -/
theorem requestStep_uninterrupted [DecidableEq Id]
    (requests : Id → Mutation Database Routers.Response RequestError)
    (clock : Clock) (member : Member) (handler : Handler) {id : Id}
    {config : Config Id Database Routers.Response}
    (ready : config.phase id = .ready) (time : config.now = clock.now)
    (sameMember : (requests id).memberId = member.id)
    (sameHandler : (requests id).handler = ofHandler handler) :
    let after := runFrom (requestStep requests) config
      [⟨id, 0, .succeeds⟩, ⟨id, 0, .succeeds⟩, ⟨id, 0, .succeeds⟩,
        ⟨id, 0, commitOutcome handler config.state⟩]
    let expected := (runHandler clock member (requests id).idempotencyKey
      (requests id).deserialize handler ⟨config.state, untagged config.cache⟩).1
    after.state = expected.db ∧ untagged after.cache = expected.cache := by
  have read := get_untagged config.cache clock.now member.id
    (requests id).idempotencyKey
  cases cached : config.cache.get clock.now member.id (requests id).idempotencyKey with
  | some stored =>
      cases known : (requests id).deserialize stored.2 with
      | error raised =>
          simp [runFrom, requestStep, advance, Config.tick, Config.enter, replay, ready,
            time, sameMember, runHandler, runIdempotent, cached, known, read, Except.map]
      | ok response =>
          simp [runFrom, requestStep, advance, Config.tick, Config.enter, replay, ready,
            time, sameMember, runHandler, runIdempotent, cached, known, read, Except.map]
  | none =>
      cases handled : handler ⟨config.state, true⟩ with
      | error raised =>
          simp [runFrom, requestStep, advance, Config.tick, Config.enter, ready, time,
            sameMember, sameHandler, ofHandler, runHandler, runIdempotent, cached, read,
            handled, Except.map]
      | ok result =>
          cases flushed : result.2.flushable with
          | true =>
              simp [runFrom, requestStep, advance, Config.tick, Config.enter,
                Config.store, ready, time, sameMember, sameHandler, ofHandler,
                commitOutcome, runHandler, runIdempotent, cached, read, handled,
                Except.map, flushed, setNx_untagged]
          | false =>
              simp [runFrom, requestStep, advance, Config.tick, Config.enter,
                Config.store, ready, time, sameMember, sameHandler, ofHandler,
                commitOutcome, runHandler, runIdempotent, cached, read, handled,
                Except.map, flushed, setNx_untagged]

end KidsChores.Routers.IdempotentRequests
