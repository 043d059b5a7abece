import Mathlib.Data.Int.Order.Basic
import KidsChores.Library.Expiring
import KidsChores.Library.PyDatetime

/-!
# Rate limits

`app/services/rate_limit.py`: a counter of attempts under a Redis key, started anew
when its window is over.
-/

set_option autoImplicit false

namespace KidsChores.Services.RateLimit

open KidsChores.Library.Expiring
open KidsChores.Library.PyDatetime

/-- `ratelimit:{key}`. -/
abbrev Counters := Store String Nat Instant

structure Limit where
  maxAttempts : Nat
  windowSeconds : Int

/-- Whether the attempt is within the limit; it is counted in either case. -/
def checkRateLimit (counters : Counters) (now : Instant) (key : String) (limit : Limit) :
    Bool × Counters :=
  let (count, counted) := counters.incr now key
    (now + timedeltaSeconds limit.windowSeconds)
  (count ≤ limit.maxAttempts, counted)

/-- Two checks in one `try`: the first one over its limit raises. -/
def checkBoth (counters : Counters) (now : Instant) (firstKey : String) (first : Limit)
    (secondKey : String) (second : Limit) : Bool × Counters :=
  match checkRateLimit counters now firstKey first with
  | (true, counted) => checkRateLimit counted now secondKey second
  | (false, counted) => (false, counted)

end KidsChores.Services.RateLimit
