import KidsChores.Library.Counters
import KidsChores.Library.Runs
import KidsChores.Services.RateLimit

/-!
# Calls of the rate limiter, interleaved

`check_rate_limit` sends the `INCR` of its counter and, when that created the counter,
its `EXPIRE`.  They are two commands: those of other calls run in between, and a call
can be aborted there.
-/

set_option autoImplicit false

namespace KidsChores.Services.LimiterCalls

open KidsChores.Library
open KidsChores.Library.PyDatetime
open KidsChores.Library.Runs
open KidsChores.Services.RateLimit

universe u

inductive Outcome where
  | returned
  | raised
  | aborted
  deriving DecidableEq, Repr

/-- How far a call is.  `count` is the reply of its `INCR`, and `window` numbers the
counters that were created under its key. -/
inductive Phase where
  | ready
  | counted (count window : Nat)
  | ended (count window : Nat) (finished : Instant) (outcome : Outcome)
  deriving DecidableEq, Repr

/-- The window a call was counted in, and its place there. -/
def Phase.hit : Phase → Option (Nat × Nat)
  | .ready => none
  | .counted count window => some (window, count)
  | .ended count window _ _ => some (window, count)

/-- `opened` is how many counters were created under a key. -/
structure Limiter (Id : Type u) where
  counters : Library.Counters String Instant
  phase : Id → Phase
  opened : String → Nat
  clock : Instant

/-- No key is counted yet. -/
def Limiter.idle {Id : Type u} (clock : Instant) : Limiter Id where
  counters := fun _ => none
  phase := fun _ => .ready
  opened := fun _ => 0
  clock := clock

/-- The next command of a call, or its abort where that is possible. -/
structure Turn (Id : Type u) where
  call : Id
  now : Instant
  aborted : Bool := false
  deriving DecidableEq, Repr

def TurnInOrder {Id : Type u} (limiter : Limiter Id) (turn : Turn Id) : Prop :=
  limiter.clock ≤ turn.now

instance {Id : Type u} (limiter : Limiter Id) (turn : Turn Id) :
    Decidable (TurnInOrder limiter turn) :=
  inferInstanceAs (Decidable (_ ≤ _))

def outcome (limit : Limit) (count : Nat) : Outcome :=
  if count ≤ limit.maxAttempts then .returned else .raised

section Steps

variable {Id : Type u} [DecidableEq Id]

/-- `count = await redis.incr(redis_key)`. -/
def countHit (limiter : Limiter Id) (call : Id) (key : String) (now : Instant) : Limiter Id :=
  let (count, counters) := limiter.counters.incr now key
  let window :=
    if limiter.counters.get now key = none then limiter.opened key + 1 else limiter.opened key
  { counters := counters
    phase := Function.update limiter.phase call (.counted count window)
    opened := Function.update limiter.opened key window
    clock := now }

/-- The rest of the call: the first hit starts the window's TTL. -/
def finish (limiter : Limiter Id) (call : Id) (key : String) (limit : Limit)
    (count window : Nat) (now : Instant) : Limiter Id :=
  { limiter with
    counters := if count = 1 then
        limiter.counters.expire now key (now + timedeltaSeconds limit.windowSeconds)
      else limiter.counters
    phase := Function.update limiter.phase call (.ended count window now (outcome limit count))
    clock := now }

def abort (limiter : Limiter Id) (call : Id) (count window : Nat) (now : Instant) :
    Limiter Id :=
  { limiter with
    phase := Function.update limiter.phase call (.ended count window now .aborted)
    clock := now }

variable (keyOf : Id → String) (limits : String → Limit)

def limiterStep (limiter : Limiter Id) (turn : Turn Id) : Limiter Id :=
  let key := keyOf turn.call
  match limiter.phase turn.call with
  | .ready => countHit limiter turn.call key turn.now
  | .counted count window =>
      if turn.aborted then abort limiter turn.call count window turn.now
      else finish limiter turn.call key (limits key) count window turn.now
  | .ended _ _ _ _ => { limiter with clock := turn.now }

/-! ## What a turn does -/

inductive TurnEffect (limiter : Limiter Id) (turn : Turn Id) : Limiter Id → Prop where
  | counted {counter : Counter Instant} (ready : limiter.phase turn.call = .ready)
      (seen : limiter.counters.get turn.now (keyOf turn.call) = some counter) :
      TurnEffect limiter turn
        { counters := Function.update limiter.counters (keyOf turn.call)
            (some { counter with value := counter.value + 1 })
          phase := Function.update limiter.phase turn.call
            (.counted (counter.value + 1) (limiter.opened (keyOf turn.call)))
          opened := limiter.opened
          clock := turn.now }
  | opened (ready : limiter.phase turn.call = .ready)
      (gone : limiter.counters.get turn.now (keyOf turn.call) = none) :
      TurnEffect limiter turn
        { counters := Function.update limiter.counters (keyOf turn.call)
            (some { value := 1 })
          phase := Function.update limiter.phase turn.call
            (.counted 1 (limiter.opened (keyOf turn.call) + 1))
          opened := Function.update limiter.opened (keyOf turn.call)
            (limiter.opened (keyOf turn.call) + 1)
          clock := turn.now }
  | finished {count window : Nat} (inFlight : limiter.phase turn.call = .counted count window)
      (proceeds : turn.aborted = false) :
      TurnEffect limiter turn
        (finish limiter turn.call (keyOf turn.call) (limits (keyOf turn.call)) count window
          turn.now)
  | aborted {count window : Nat} (inFlight : limiter.phase turn.call = .counted count window)
      (stops : turn.aborted = true) :
      TurnEffect limiter turn (abort limiter turn.call count window turn.now)
  | idle {count window : Nat} {finished : Instant} {outcome : Outcome}
      (past : limiter.phase turn.call = .ended count window finished outcome) :
      TurnEffect limiter turn { limiter with clock := turn.now }

theorem limiterStep_effect (limiter : Limiter Id) (turn : Turn Id) :
    TurnEffect keyOf limits limiter turn (limiterStep keyOf limits limiter turn) := by
  unfold limiterStep
  cases phase : limiter.phase turn.call with
  | ready =>
      dsimp only
      unfold countHit Counters.incr
      cases seen : limiter.counters.get turn.now (keyOf turn.call) with
      | none => exact .opened phase seen
      | some counter =>
          simp only [reduceCtorEq, if_false, Function.update_eq_self]
          exact .counted phase seen
  | counted count window =>
      dsimp only
      split
      · exact .aborted phase ‹_›
      · exact .finished phase (by simpa using ‹¬ turn.aborted = true›)
  | ended count window finished outcome => exact .idle phase

/-- A call whose two commands run at once is the check of the store. -/
theorem undisturbed_call {limiter : Limiter Id} {store : RateLimit.Counters}
    (stored : limiter.counters = Counters.ofStore store)
    (positive : ∀ key, ∀ cell ∈ store key, cell.value ≠ 0) {call : Id}
    (ready : limiter.phase call = .ready) (now : Instant) :
    ∃ count window,
      (runFrom (limiterStep keyOf limits) limiter [⟨call, now, false⟩, ⟨call, now, false⟩]).phase
          call = .ended count window now
            (if (checkRateLimit store now (keyOf call) (limits (keyOf call))).1 then .returned
              else .raised) ∧
        (runFrom (limiterStep keyOf limits) limiter
          [⟨call, now, false⟩, ⟨call, now, false⟩]).counters =
            Counters.ofStore (checkRateLimit store now (keyOf call) (limits (keyOf call))).2 := by
  obtain ⟨reply, expired⟩ := @Counters.incr_expire _ _ _ _ now
    (now + timedeltaSeconds (limits (keyOf call)).windowSeconds) (keyOf call) store
    (positive (keyOf call))
  rw [← stored] at reply expired
  refine ⟨(limiter.counters.incr now (keyOf call)).1,
    if limiter.counters.get now (keyOf call) = none then limiter.opened (keyOf call) + 1
      else limiter.opened (keyOf call), ?_, ?_⟩
  · simp [runFrom, limiterStep, ready, countHit, finish, outcome, checkRateLimit, reply]
  · simp [runFrom, limiterStep, ready, countHit, finish, checkRateLimit, ← expired]

end Steps

end KidsChores.Services.LimiterCalls
