import Mathlib.Logic.Function.Basic
import KidsChores.Library.Runs
import KidsChores.Services.Idempotency

/-!
# Overlapping calls of `run_idempotent`

A call takes three steps, each atomic: the `GET`, the run of its handler and the
`SET NX`.  A schedule says which call takes its next step, and when; nothing
holds the key between two steps of a call.
-/

set_option autoImplicit false

namespace KidsChores.Services.IdempotentCalls

open KidsChores.Models
open KidsChores.Library.PyDatetime
open KidsChores.Library.Runs
open KidsChores.Services.Idempotency

/-- The arguments of one call.  What `deserialize` makes of a stored response,
when it does not raise, is that response. -/
structure IdempotentCall (State Response Error : Type) where
  memberId : Uuid
  idempotencyKey : String
  handler : State → Except Error (Response × State)
  deserialize : Response → Except Error Response
  faithful : ∀ stored response,
    deserialize stored = .ok response → response = stored

inductive Phase (Response : Type) where
  | ready
  | missed
  | ran (response : Response)
  | executed (response : Response)
  | replayed (response : Response)
  | raised
  deriving DecidableEq, Repr

structure Config (Id State Response : Type) where
  state : State
  cache : Cache Response
  phase : Id → Phase Response

/-- One step of a call within a day of `start`, the life of a cached response. -/
structure Turn (Id : Type) (start : Instant) where
  id : Id
  now : Instant
  since : start ≤ now
  before : now < start + timedeltaSeconds ttlSeconds

variable {Id State Response Error : Type}

def opening (state : State) (cache : Cache Response) : Config Id State Response :=
  ⟨state, cache, fun _ => .ready⟩

/-- The phase a call is in once it was handed a cached response. -/
def replay (deserialize : Response → Except Error Response) (cached : Response) :
    Phase Response :=
  match deserialize cached with
  | .error _ => .raised
  | .ok response => .replayed response

section Step

variable [DecidableEq Id]

def Config.enter (config : Config Id State Response) (id : Id)
    (phase : Phase Response) : Config Id State Response :=
  { config with phase := Function.update config.phase id phase }

def callStep (calls : Id → IdempotentCall State Response Error) {start : Instant}
    (config : Config Id State Response) (turn : Turn Id start) :
    Config Id State Response :=
  let call := calls turn.id
  match config.phase turn.id with
  | .ready =>
      match config.cache.get turn.now call.memberId call.idempotencyKey with
      | some cached => config.enter turn.id (replay call.deserialize cached)
      | none => config.enter turn.id .missed
  | .missed =>
      match call.handler config.state with
      | .error _ => config.enter turn.id .raised
      | .ok (response, next) =>
          { config.enter turn.id (.ran response) with state := next }
  | .ran response =>
      { config.enter turn.id (.executed response) with
        cache := config.cache.setNx turn.now call.memberId call.idempotencyKey
          response }
  | .executed _ => config
  | .replayed _ => config
  | .raised => config

end Step

/-! ## What a caller sees -/

/-- The handler of the call has returned. -/
def Phase.TookEffect : Phase Response → Prop
  | .ran _ => True
  | .executed _ => True
  | _ => False

/-- The handler has returned and its response is not stored yet. -/
def Phase.storing : Phase Response → Bool
  | .ran _ => true
  | _ => false

/-- What the call has returned to its caller. -/
def Phase.returned? : Phase Response → Option Response
  | .executed response => some response
  | .replayed response => some response
  | _ => none

/-- Without another call between its steps, a call does what `runIdempotent`
says. -/
theorem callStep_uninterrupted [DecidableEq Id]
    (calls : Id → IdempotentCall State Response Error) {start : Instant}
    (turn : Turn Id start) {config : Config Id State Response}
    (ready : config.phase turn.id = .ready) :
    let after := runFrom (callStep calls) config [turn, turn, turn]
    let expected := runIdempotent turn.now (calls turn.id).memberId
      (calls turn.id).idempotencyKey (calls turn.id).deserialize
      (calls turn.id).handler config.cache config.state
    after.cache = expected.2 ∧
      ((∃ response, expected.1 = .ok (response, after.state) ∧
          (after.phase turn.id).returned? = some response) ∨
        (∃ raised, expected.1 = .error raised ∧ after.state = config.state ∧
          after.phase turn.id = .raised)) := by
  cases cached : config.cache.get turn.now (calls turn.id).memberId
      (calls turn.id).idempotencyKey with
  | some stored =>
      cases read : (calls turn.id).deserialize stored with
      | error raised =>
          simp [runFrom, callStep, runIdempotent, Config.enter, replay, ready, cached,
            read, Except.map]
      | ok response =>
          simp [runFrom, callStep, runIdempotent, Config.enter, replay, ready, cached,
            read, Except.map, Phase.returned?]
  | none =>
      cases handled : (calls turn.id).handler config.state with
      | error raised =>
          simp [runFrom, callStep, runIdempotent, Config.enter, ready, cached, handled]
      | ok outcome =>
          simp [runFrom, callStep, runIdempotent, Config.enter, ready, cached, handled,
            Phase.returned?]

end KidsChores.Services.IdempotentCalls
