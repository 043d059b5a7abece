import Mathlib.Algebra.Order.Floor.Defs
import KidsChores.Library.Expiring

/-!
# Refresh-token rotation

`app/services/refresh_tokens.py`.  Time is any ordered ring with a floor, so that a
clock reading need not be a whole second.
-/

set_option autoImplicit false

namespace KidsChores.Services.RefreshTokens

open KidsChores.Library.Expiring

universe u

variable {Time : Type u} [Ring Time] [LinearOrder Time] [FloorRing Time]

/-- `int(x)` drops the fraction. -/
def truncate (x : Time) : Int :=
  if 0 ≤ x then ⌊x⌋ else ⌈x⌉

/-- `max(int(exp - now), 1)`. -/
def recordTtl (exp : Int) (read : Time) : Int := max (truncate ((exp : Time) - read)) 1

/-- `refresh_used:{jti}`. -/
abbrev UsedKeys (Time : Type u) := Store String String Time

/-- `redeem_refresh_token`, which reads the clock and then sends its `SET … NX EX`. -/
def redeemRefreshToken (used : UsedKeys Time) (read now : Time) (jti : String)
    (exp : Int) : Bool × UsedKeys Time :=
  used.setNx now jti "1" (now + (recordTtl exp read : Time))

end KidsChores.Services.RefreshTokens
