import Mathlib.Data.Fintype.Defs
import KidsChores.Routers.Auth

/-!
# Overlapping links

`link_account` and `generate_link_code` command by command: each `GET`, `SET` and
`DEL` of Redis and each statement on the members, under READ COMMITTED.  An update
waits for another open transaction's update of the row, and for its hold on the
subject.
-/

set_option autoImplicit false

namespace KidsChores.Routers.LinkRaces

open KidsChores.Library
open KidsChores.Library.Expiring
open KidsChores.Library.PyDatetime
open KidsChores.Models
open KidsChores.Routers.Auth
open KidsChores.Routers.Household
open KidsChores.Services.Linking

/-- `within` is what `check_rate_limit` answers. -/
structure LinkBody where
  within : Bool
  code : String
  email : String
  passwordHash : String
  deriving DecidableEq, Repr

inductive LinkRequest where
  | link (body : LinkBody)
  | generate (memberId targetId : Uuid) (drawn : Fin 1000000)
  deriving DecidableEq, Repr

/-- How far a request has come.  A redemption carries the member that its code led to,
and the number of the code among all that were issued. -/
inductive LinkPhase where
  | arrived
  | found (memberId : Uuid) (issue : Nat)
  | codeDeleted (memberId : Uuid) (issue : Nat)
  | redeemed (memberId : Uuid) (issue : Nat)
  | selected (member : Member) (issue : Nat)
  | emailFree (member : Member) (issue : Nat)
  | updated (edited : Member) (issue : Nat)
  | linked
  | targeted (target : Member)
  | previousRead (target : Member) (previous : Option String)
  | cleared (target : Member)
  | codeStored (target : Member)
  | generated
  | refused
  deriving DecidableEq, Repr

/-- The row an open transaction has updated. -/
def LinkPhase.row? : LinkPhase → Option Member
  | .updated edited _ => some edited
  | _ => none

/-- The database and Redis, and what is recorded of the run: the member of each code
in the order of issue, the last issue of a code, and the code and the member of each
successful `link_account`. -/
structure LinkConfig (Id : Type) where
  db : Database
  keys : LinkKeys
  phase : Id → LinkPhase
  issues : List Uuid
  lastIssue : String → Nat
  links : List (Nat × Uuid)

variable {Id : Type}

def beforeLinks (db : Database) : LinkConfig Id where
  db := db
  keys := LinkKeys.empty
  phase := fun _ => .arrived
  issues := []
  lastIssue := fun _ => 0
  links := []

structure LinkStep (Id : Type) where
  id : Id
  now : Instant

section Step

variable [DecidableEq Id]

def LinkConfig.enter (config : LinkConfig Id) (id : Id) (phase : LinkPhase) :
    LinkConfig Id :=
  { config with phase := Function.update config.phase id phase }

/-- Another open transaction has updated the row, or holds the subject. -/
def UpdateWaits (config : LinkConfig Id) (id : Id) (edited : Member) : Prop :=
  ∃ other, other ≠ id ∧ ∃ row ∈ (config.phase other).row?,
    row.id = edited.id ∨ row.authSubject = edited.authSubject

instance [Fintype Id] (config : LinkConfig Id) (id : Id) (edited : Member) :
    Decidable (UpdateWaits config id edited) :=
  inferInstanceAs (Decidable (∃ _, _ ∧ _))

variable [Fintype Id]

/-- `db.flush()`: the new credentials go into the row as it is now committed. -/
def updateRow (config : LinkConfig Id) (id : Id) (body : LinkBody) (member : Member)
    (issue : Nat) : LinkConfig Id :=
  match config.db.members.find? member.id with
  | none => config.enter id .refused
  | some current =>
      let edited := withCredentials current body.email body.passwordHash
      if UpdateWaits config id edited then config
      else if SubjectTakenElsewhere config.db edited then config.enter id .refused
      else config.enter id (.updated edited issue)

/-- The next command of a `link_account`. -/
def linkNext (config : LinkConfig Id) (id : Id) (now : Instant) (body : LinkBody) :
    LinkPhase → LinkConfig Id
  | .arrived =>
      if ¬ body.within then config.enter id .refused
      else match config.keys.codeKeys.get now body.code with
        | none => config.enter id .refused
        | some memberId => config.enter id (.found memberId (config.lastIssue body.code))
  | .found memberId issue =>
      { config.enter id (.codeDeleted memberId issue) with
        keys := config.keys.deleteCode body.code }
  | .codeDeleted memberId issue =>
      { config.enter id (.redeemed memberId issue) with
        keys := config.keys.deleteMember memberId }
  | .redeemed memberId issue =>
      match config.db.members.find? memberId with
      | none => config.enter id .refused
      | some member =>
          if member.role = .teen ∧ Pending member.householdId member then
            config.enter id (.selected member issue)
          else config.enter id .refused
  | .selected member issue =>
      if (findSubject? config.db .email body.email).isSome then config.enter id .refused
      else config.enter id (.emailFree member issue)
  | .emailFree member issue => updateRow config id body member issue
  | .updated edited issue =>
      { config.enter id .linked with
        db := { config.db with members := config.db.members.save edited }
        links := config.links ++ [(issue, edited.id)] }
  | _ => config

/-- The next command of a `generate_link_code`. -/
def generateNext (config : LinkConfig Id) (id : Id) (now : Instant)
    (memberId targetId : Uuid) (drawn : Fin 1000000) : LinkPhase → LinkConfig Id
  | .arrived =>
      match (do
        let (_, household) ← loadParent config.db memberId
        linkTarget config.db household targetId) with
      | .error _ => config.enter id .refused
      | .ok target => config.enter id (.targeted target)
  | .targeted target =>
      config.enter id (.previousRead target (config.keys.memberKeys.get now target.id))
  | .previousRead target previous =>
      { config.enter id (.cleared target) with
        keys := match previous with
          | some previousCode => config.keys.deleteCode previousCode
          | none => config.keys }
  | .cleared target =>
      { config.enter id (.codeStored target) with
        keys := config.keys.setCode now (codeText drawn) target.id
        issues := config.issues ++ [target.id]
        lastIssue := Function.update config.lastIssue (codeText drawn)
          config.issues.length }
  | .codeStored target =>
      { config.enter id .generated with
        keys := config.keys.setMember now target.id (codeText drawn) }
  | _ => config

def linkRaceStep (requests : Id → LinkRequest) (config : LinkConfig Id)
    (step : LinkStep Id) : LinkConfig Id :=
  match requests step.id with
  | .link body => linkNext config step.id step.now body (config.phase step.id)
  | .generate memberId targetId drawn =>
      generateNext config step.id step.now memberId targetId drawn (config.phase step.id)

end Step

end KidsChores.Routers.LinkRaces
