import Mathlib.Data.Rat.Floor
import KidsChores.Routers.Household
import KidsChores.Services.RefreshTokens

/-!
# Auth router

`app/routers/auth.py`.  A request stands for what its token says after the JWT
library has verified it, an email for its lower-cased text, and a new password for
its hash.
-/

set_option autoImplicit false

namespace KidsChores.Routers.Auth

open KidsChores.Models
open KidsChores.Library
open KidsChores.Library.Expiring
open KidsChores.Library.PyDatetime
open KidsChores.Routers.Household
open KidsChores.Services.Linking
open KidsChores.Services.RateLimit
open KidsChores.Services.RefreshTokens
open KidsChores.Session

/-- The Redis keys of the services that are not `idempotency.py`. -/
structure Redis where
  counters : Counters := Store.empty
  links : LinkKeys := LinkKeys.empty
  used : UsedKeys ℚ := Store.empty

def loginIpLimit : Limit := ⟨10, 15 * 60⟩
def loginEmailLimit : Limit := ⟨5, 15 * 60⟩
def registerIpLimit : Limit := ⟨5, 60 * 60⟩
def registerEmailLimit : Limit := ⟨3, 60 * 60⟩
def changePasswordLimit : Limit := ⟨5, 15 * 60⟩
def linkIpLimit : Limit := ⟨10, 15 * 60⟩
def linkCodeLimit : Limit := ⟨5, 15 * 60⟩

/-- What `create_access_token` and `create_refresh_token` sign. -/
structure AccessClaims where
  sub : Uuid
  hid : Uuid
  deriving DecidableEq, Repr

structure RefreshClaims where
  sub : Uuid
  deriving DecidableEq, Repr

structure TokenResponse where
  accessToken : AccessClaims
  refreshToken : RefreshClaims
  memberId : Uuid
  householdId : Uuid
  role : MemberRole
  deriving DecidableEq, Repr

def TokenResponse.issue (member : Member) (householdId : Uuid) : TokenResponse where
  accessToken := ⟨member.id, householdId⟩
  refreshToken := ⟨member.id⟩
  memberId := member.id
  householdId := householdId
  role := member.role

/-- `WHERE auth_provider = … AND auth_subject = …`; the unique index leaves one row at
most. -/
def findSubject? (db : Database) (provider : AuthProvider) (subject : String) :
    Option Member :=
  db.members.rows.find? fun member =>
    member.authProvider = provider ∧ member.authSubject = subject

/-! ## Sign-in and registration -/

/-- A new household and its parent. -/
def foundFamily (db : Database) (displayName : String) (provider : AuthProvider)
    (subject : String) (passwordHash : Option String) :
    Except RequestError (TokenResponse × Database) :=
  if ¬ storableText (some displayName) then .error (.raised .dataError) else
  let householdId := db.households.freshKey
  let parent : Uuid → Member := fun id => {
    id := id
    householdId := householdId
    role := .parent
    displayName := displayName
    authProvider := provider
    authSubject := subject
    passwordHash := passwordHash }
  .ok (TokenResponse.issue (parent db.members.freshKey) householdId,
    { db with
      households := db.households.append
        (fun id => { id := id, name := displayName ++ "'s Family" }) fun _ => rfl
      members := db.members.append parent fun _ => rfl })

structure AppleSignIn where
  displayName : String
  /-- The `sub` of a valid identity token, or why it is not valid. -/
  identity : Except String String

def signInWithApple (request : AppleSignIn) (db : Database) :
    Except RequestError (TokenResponse × Database) :=
  match request.identity with
  | .error reason => .error (.http 401 ("Invalid Apple identity token: " ++ reason))
  | .ok appleSub =>
      match findSubject? db .apple appleSub with
      | none => foundFamily db request.displayName .apple appleSub none
      | some member =>
          match db.households.find? member.householdId with
          | none => .error (.uncaught .noResultFound)
          | some household => .ok (TokenResponse.issue member household.id, db)

structure Register where
  now : Instant
  ip : String
  email : String
  displayName : String
  passwordHash : String

def register (request : Register) (db : Database) (counters : Counters) :
    Except RequestError (TokenResponse × Database) × Counters :=
  let (within, counted) := checkBoth counters request.now
    ("register:ip:" ++ request.ip) registerIpLimit
    ("register:email:" ++ request.email) registerEmailLimit
  (if ¬ within then .error tooManyAttempts
    else match findSubject? db .email request.email with
      | some _ => .error (.http 409 "That email is already in use.")
      | none =>
          foundFamily db request.displayName .email request.email
            (some request.passwordHash), counted)

/-! ## Linking -/

/-- Another row has the subject, under the unique indexes. -/
def SubjectTakenElsewhere (db : Database) (edited : Member) : Prop :=
  ∃ member ∈ db.members.rows, member.id ≠ edited.id ∧
    member.authSubject = edited.authSubject ∧
      (member.householdId = edited.householdId ∨
        member.authProvider = edited.authProvider)

instance (db : Database) (edited : Member) : Decidable (SubjectTakenElsewhere db edited) :=
  inferInstanceAs (Decidable (∃ member ∈ db.members.rows, _))

def withCredentials (member : Member) (email passwordHash : String) : Member :=
  { member with
    authProvider := .email
    authSubject := email
    passwordHash := some passwordHash }

def emailInUse : RequestError := .http 409 "That email is already in use."

def invalidCode : RequestError := .http 404 "Invalid or expired code."

/-- What `link_account` does for the member its code leads to. -/
def linkMember (db : Database) (memberId : Uuid) (email passwordHash : String) :
    Except RequestError (TokenResponse × Database) :=
  match db.members.find? memberId with
  | none => .error invalidCode
  | some member =>
      if member.role ≠ .teen then .error invalidCode
      else if ¬ Pending member.householdId member then
        .error (.http 409 "This profile already has its own login.")
      else if (findSubject? db .email email).isSome then .error emailInUse
      else if SubjectTakenElsewhere db (withCredentials member email passwordHash) then
        .error emailInUse
      else
        .ok (TokenResponse.issue member member.householdId,
          { db with
            members := db.members.save (withCredentials member email passwordHash) })

structure LinkAccount where
  now : Instant
  ip : String
  code : String
  email : String
  passwordHash : String

def linkAccount (request : LinkAccount) (db : Database) (redis : Redis) :
    Except RequestError (TokenResponse × Database) × Redis :=
  let (within, counted) := checkBoth redis.counters request.now
    ("link:ip:" ++ request.ip) linkIpLimit ("link:code:" ++ request.code) linkCodeLimit
  if ¬ within then (.error tooManyAttempts, { redis with counters := counted })
  else
    let (redeemed, links) := redeemLinkCode redis.links request.now request.code
    (match redeemed with
      | none => .error invalidCode
      | some memberId => linkMember db memberId request.email request.passwordHash,
      { redis with counters := counted, links := links })

/-! ## Login and refresh -/

structure Login where
  now : Instant
  ip : String
  email : String
  password : String

def incorrect : RequestError := .http 401 "Incorrect email or password."

/-- `verify_password` compares a password with a stored hash. -/
def login (verifyPassword : String → String → Bool) (request : Login) (db : Database)
    (counters : Counters) : Except RequestError TokenResponse × Counters :=
  let (within, counted) := checkBoth counters request.now
    ("login:ip:" ++ request.ip) loginIpLimit
    ("login:email:" ++ request.email) loginEmailLimit
  (if ¬ within then .error tooManyAttempts
    else match findSubject? db .email request.email with
      | none => .error incorrect
      | some member =>
          match member.passwordHash with
          | none => .error incorrect
          | some passwordHash =>
              if ¬ verifyPassword request.password passwordHash then .error incorrect
              else match db.households.find? member.householdId with
                | none => .error (.uncaught .noResultFound)
                | some household => .ok (TokenResponse.issue member household.id), counted)

/-- The payload of a valid refresh token. -/
structure RefreshPayload where
  sub : Uuid
  jti : Option String
  exp : Option Int
  deriving DecidableEq, Repr

structure Refresh where
  /-- When `redeem_refresh_token` reads the clock, and when it sends its `SET`. -/
  read : ℚ
  now : ℚ
  payload : Option RefreshPayload

def alreadyUsed : RequestError :=
  .http 401 "Refresh token has already been used or is invalid."

def refresh (request : Refresh) (db : Database) (used : UsedKeys ℚ) :
    Except RequestError TokenResponse × UsedKeys ℚ :=
  match request.payload with
  | none => (.error (.http 401 "Invalid or expired refresh token."), used)
  | some payload =>
      match payload.jti, payload.exp with
      | some jti, some exp =>
          if jti = "" ∨ exp = 0 then (.error alreadyUsed, used)
          else
            let (firstUse, marked) := redeemRefreshToken used request.read request.now jti exp
            (if ¬ firstUse then .error alreadyUsed
              else match db.members.find? payload.sub with
                | none => .error (.http 401 "Member not found.")
                | some member => .ok (TokenResponse.issue member member.householdId), marked)
      | _, _ => (.error alreadyUsed, used)

/-! ## The caller's own row -/

structure ChangePassword where
  now : Instant
  memberId : Uuid
  currentPassword : String
  newPasswordHash : String

def changePassword (verifyPassword : String → String → Bool) (request : ChangePassword)
    (db : Database) (counters : Counters) : Except RequestError Database × Counters :=
  match getCurrentMember db request.memberId with
  | .error raised => (.error raised, counters)
  | .ok member =>
      match member.authProvider, member.passwordHash with
      | .email, some passwordHash =>
          let (within, counted) := checkRateLimit counters request.now
            ("change-password:member:" ++ toString member.id) changePasswordLimit
          (if ¬ within then .error tooManyAttempts
            else if ¬ verifyPassword request.currentPassword passwordHash then
              .error (.http 401 "Current password is incorrect.")
            else .ok { db with
              members := db.members.save
                { member with passwordHash := some request.newPasswordHash } }, counted)
      | _, _ => (.error (.http 422 "This account does not use a password."), counters)

structure UpdatePushToken where
  memberId : Uuid
  pushToken : Option String

def updatePushToken (request : UpdatePushToken) (db : Database) :
    Except RequestError Database := do
  let member ← getCurrentMember db request.memberId
  if ¬ storableText request.pushToken then .error (.raised .dataError)
  else return { db with
    members := db.members.save { member with pushToken := request.pushToken } }

end KidsChores.Routers.Auth
