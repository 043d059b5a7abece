import Mathlib.Data.Int.Order.Basic
import KidsChores.Library.Expiring
import KidsChores.Models

/-!
# Teen account linking

`app/services/linking.py`: the codes a parent hands to a teen, in two families of
Redis keys, from code to member and from member to code.
-/

set_option autoImplicit false

namespace KidsChores.Services.Linking

open KidsChores.Models
open KidsChores.Library.Expiring
open KidsChores.Library.PyDatetime

/-- `secrets.randbelow(1_000_000)` has something to draw from. -/
instance drawable : NeZero 1000000 := ⟨by decide⟩

/-- `_CODE_TTL_SECONDS`. -/
def codeTtlSeconds : Int := 24 * 60 * 60

/-- `link_code:{code}` and `link_code_for_member:{member_id}`. -/
structure LinkKeys where
  codeKeys : Store String Uuid Instant
  memberKeys : Store Uuid String Instant

namespace LinkKeys

def empty : LinkKeys := ⟨Store.empty, Store.empty⟩

def setCode (keys : LinkKeys) (now : Instant) (code : String) (memberId : Uuid) :
    LinkKeys :=
  { keys with
    codeKeys := keys.codeKeys.set code memberId (now + timedeltaSeconds codeTtlSeconds) }

def setMember (keys : LinkKeys) (now : Instant) (memberId : Uuid) (code : String) :
    LinkKeys :=
  { keys with
    memberKeys := keys.memberKeys.set memberId code
      (now + timedeltaSeconds codeTtlSeconds) }

def deleteCode (keys : LinkKeys) (code : String) : LinkKeys :=
  { keys with codeKeys := keys.codeKeys.delete code }

def deleteMember (keys : LinkKeys) (memberId : Uuid) : LinkKeys :=
  { keys with memberKeys := keys.memberKeys.delete memberId }

end LinkKeys

/-- `f"{drawn:06d}"`. -/
def codeText (drawn : Fin 1000000) : String :=
  let digits := (toString drawn.val).toList
  String.ofList (List.replicate (6 - digits.length) '0' ++ digits)

/-- When a call of `create_link_code` sends its commands, and when it reads the
clock for its answer. -/
structure CreateTimes where
  read : Instant
  setCode : Instant
  setMember : Instant
  answered : Instant

/-- The keys and `(code, expires_at)`; `drawn` is what `secrets.randbelow` gives. -/
def createLinkCode (keys : LinkKeys) (times : CreateTimes) (memberId : Uuid)
    (drawn : Fin 1000000) : LinkKeys × (String × Instant) :=
  let cleared := match keys.memberKeys.get times.read memberId with
    | some previousCode => keys.deleteCode previousCode
    | none => keys
  let code := codeText drawn
  ((cleared.setCode times.setCode code memberId).setMember times.setMember memberId code,
    (code, times.answered + timedeltaSeconds codeTtlSeconds))

def redeemLinkCode (keys : LinkKeys) (now : Instant) (code : String) :
    Option Uuid × LinkKeys :=
  match keys.codeKeys.get now code with
  | none => (none, keys)
  | some memberId => (some memberId, (keys.deleteCode code).deleteMember memberId)

theorem redeemLinkCode_fst (keys : LinkKeys) (now : Instant) (code : String) :
    (redeemLinkCode keys now code).1 = keys.codeKeys.get now code := by
  unfold redeemLinkCode
  cases keys.codeKeys.get now code <;> rfl

end KidsChores.Services.Linking
