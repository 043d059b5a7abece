import KidsChores.Routers.Auth

/-!
# Tokens

`app/auth/jwt.py` and `get_current_member` of `app/auth/dependencies.py`.  The JWT library
signs and verifies under the secret and the algorithm of the settings; it is a parameter.
Time is in seconds since 1970.
-/

set_option autoImplicit false

namespace KidsChores.Auth.Tokens

open KidsChores.Library.Expiring
open KidsChores.Models
open KidsChores.Routers
open KidsChores.Routers.Auth
open KidsChores.Services.RefreshTokens

universe u

/-- The claims of a token.  `exp` is a whole second, as the library writes it. -/
structure Payload where
  sub : Uuid
  hid : Option Uuid := none
  type : Option String := none
  jti : Option String := none
  exp : Int
  deriving DecidableEq, Repr

/-- `jwt.encode` and `jwt.decode`; `none` is a `JWTError`. -/
structure Jose (Token : Type u) where
  encode : Payload → Token
  decode : Token → ℚ → Option Payload

/-- A token decodes to what was encoded until its `exp`, and the whole second that begins
there is still in time. -/
structure Jose.RoundTrip {Token : Type u} (jose : Jose Token) : Prop where
  inTime : ∀ payload (now : ℚ), ⌊now⌋ ≤ payload.exp →
    jose.decode (jose.encode payload) now = some payload
  expired : ∀ payload (now : ℚ), payload.exp < ⌊now⌋ →
    jose.decode (jose.encode payload) now = none

structure Settings where
  jwtAccessExpireMinutes : Int := 60
  jwtRefreshExpireDays : Int := 30
  deriving DecidableEq, Repr

section Tokens

variable {Token : Type u} (jose : Jose Token) (settings : Settings)

def accessExpiry (issued : ℚ) : Int :=
  ⌊issued + (settings.jwtAccessExpireMinutes * 60 : Int)⌋

def refreshExpiry (issued : ℚ) : Int :=
  ⌊issued + (settings.jwtRefreshExpireDays * 86400 : Int)⌋

def createAccessToken (issued : ℚ) (memberId householdId : Uuid) : Token :=
  jose.encode {
    sub := memberId
    hid := some householdId
    exp := accessExpiry settings issued }

/-- `jti or uuid4().hex`: an empty `jti` is none. -/
def createRefreshToken (issued : ℚ) (memberId : Uuid) (jti : Option String)
    (hex : String) : Token :=
  jose.encode {
    sub := memberId
    type := some "refresh"
    jti := some ((jti.filter (· ≠ "")).getD hex)
    exp := refreshExpiry settings issued }

/-- The error is the text of a `ValueError`. -/
def decodeToken (token : Token) (now : ℚ) : Except String Payload :=
  match jose.decode token now with
  | none => .error "Invalid or expired token"
  | some payload => .ok payload

def decodeRefreshToken (token : Token) (now : ℚ) : Except String Payload := do
  let payload ← decodeToken jose token now
  if payload.type ≠ some "refresh" then throw "Not a refresh token"
  return payload

/-- `get_current_member`. -/
def getCurrentMember (token : Token) (now : ℚ) (db : Database) :
    Except RequestError Member :=
  match decodeToken jose token now with
  | .error _ => .error (.http 401 "Invalid or expired token.")
  | .ok payload => Routers.getCurrentMember db payload.sub

/-- When `/auth/refresh` decodes its token, reads the clock, and sends its `SET`. -/
structure Redemption where
  decoded : ℚ
  read : ℚ
  sent : ℚ

/-- `POST /v1/auth/refresh` with a token. -/
def refreshWith (token : Token) (times : Redemption) (db : Database) (used : UsedKeys ℚ) :
    Except RequestError TokenResponse × UsedKeys ℚ :=
  refresh {
    read := times.read
    now := times.sent
    payload := (decodeRefreshToken jose token times.decoded).toOption.map fun payload =>
      ⟨payload.sub, payload.jti, some payload.exp⟩ } db used

end Tokens

end KidsChores.Auth.Tokens
