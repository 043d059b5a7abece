import KidsChores.Routers.Definitions
import KidsChores.Services.Linking
import KidsChores.Services.RateLimit

/-!
# Household router

The requests of `app/routers/household.py` that write: the settings, whose body puts
no condition on the three texts, a new teen profile, and the removal of a member; and those that
write to Redis.
-/

set_option autoImplicit false

namespace KidsChores.Routers.Household

open KidsChores.Models
open KidsChores.Library
open KidsChores.Library.PyDatetime
open KidsChores.Library.PyText
open KidsChores.Routers.Definitions
open KidsChores.Services.Linking
open KidsChores.Services.RateLimit
open KidsChores.Session

structure HouseholdUpdate where
  name : Option String := none
  timezone : Option String := none
  pointsLabel : Option String := none
  excusedPayoutPolicy : Option ExcusedPayoutPolicy := none
  gracePeriodHours : Option Int := none
  taskReminderMinutesBeforeDue : Option Int := none
  graceRange : ∀ hours ∈ gracePeriodHours, Between 1 72 hours
  reminderRange : ∀ minutes ∈ taskReminderMinutesBeforeDue, Between 5 1440 minutes

/-- `setattr` for every field that is not `None`, as the columns take it. -/
def HouseholdUpdate.edit? (body : HouseholdUpdate) (household : Models.Household) :
    Option Models.Household := do
  let name ← body.name.mapM (varchar? 200)
  let timezone ← body.timezone.mapM (varchar? 64)
  let pointsLabel ← body.pointsLabel.mapM (varchar? 50)
  return { household with
    name := name.getD household.name
    timezone := timezone.getD household.timezone
    pointsLabel := pointsLabel.getD household.pointsLabel
    excusedPayoutPolicy := body.excusedPayoutPolicy.getD household.excusedPayoutPolicy
    gracePeriodHours := body.gracePeriodHours.getD household.gracePeriodHours
    taskReminderMinutesBeforeDue :=
      body.taskReminderMinutesBeforeDue.getD household.taskReminderMinutesBeforeDue }

structure UpdateHousehold where
  memberId : Uuid
  body : HouseholdUpdate

def updateHousehold (request : UpdateHousehold) (db : Database) :
    Except RequestError Database := do
  let (_, household) ← loadParent db request.memberId
  match request.body.edit? household with
  | none => .error (.raised .dataError)
  | some edited => return { db with households := db.households.save edited }

/-- A body that edits the time zone only: any text is accepted. -/
def editTimezone (timezone : String) : HouseholdUpdate where
  timezone := some timezone
  graceRange := by simp
  reminderRange := by simp

/-! ## Members -/

/-- `Field(pattern=r"^\d{4}$")`. -/
def pinPattern (text : String) : Bool :=
  text.toList.length == 4 && text.toList.all isDecimal

structure TeenProfileCreate where
  displayName : String
  birthdate : String
  pin : Option String := none
  nameLength : LengthBetween 1 100 displayName
  birthPattern : datePattern birthdate = true
  pinDigits : ∀ text ∈ pin, pinPattern text = true

structure CreateTeenProfile where
  now : Instant
  memberId : Uuid
  /-- `hash_pin`. -/
  hashPin : String → String
  body : TeenProfileCreate

/-- `(today - birth_date).days // 365`. -/
def ageYears (birthDate today : Date) : Int :=
  (today.ordinal - birthDate.ordinal) / 365

/-- The placeholder of a profile without a login of its own. -/
def pendingSubject (household : Models.Household) (displayName : String) : String :=
  "pending-" ++ toString household.id ++ "-" ++ displayName

def TeenProfileCreate.teen (body : TeenProfileCreate) (hashPin : String → String)
    (household : Models.Household) (id : Uuid) : Member where
  id := id
  householdId := household.id
  role := .teen
  displayName := body.displayName
  authProvider := .email
  authSubject := pendingSubject household body.displayName
  pinHash := if truthy body.pin then body.pin.map hashPin else none
  birthdate := some body.birthdate

/-- `uq_member_auth` or `uq_member_auth_provider_subject_global`. -/
def SubjectTaken (db : Database) (teen : Member) : Prop :=
  ∃ member ∈ db.members.rows, member.authSubject = teen.authSubject ∧
    (member.householdId = teen.householdId ∨ member.authProvider = teen.authProvider)

instance (db : Database) (teen : Member) : Decidable (SubjectTaken db teen) :=
  inferInstanceAs (Decidable (∃ member ∈ db.members.rows, _))

def createTeenProfile (request : CreateTeenProfile) (db : Database) :
    Except RequestError Database := do
  let (_, household) ← loadParent db request.memberId
  match strptimeDate? request.body.birthdate with
  | none => .error (.uncaught .valueError)
  | some birthDate =>
      if ageYears birthDate (naiveDate request.now) < 13 then
        .error (.http 422 "Teen must be at least 13 years old (COPPA compliance).")
      else if ¬ storableText (some request.body.displayName) then
        .error (.raised .dataError)
      else if SubjectTaken db
          (request.body.teen request.hashPin household db.members.freshKey) then
        .error .integrity
      else return { db with
        members := db.members.append (request.body.teen request.hashPin household)
          fun _ => rfl }

structure RemoveMember where
  now : Instant
  memberId : Uuid
  targetId : Uuid
  deriving DecidableEq, Repr

/-- A soft delete: the row stays, stamped. -/
def removeMember (request : RemoveMember) (db : Database) :
    Except RequestError Database := do
  let (parent, household) ← loadParent db request.memberId
  match db.members.find? request.targetId with
  | none => .error (.http 404 "Member not found.")
  | some member =>
      if member.householdId ≠ household.id then .error (.http 404 "Member not found.")
      else if member.role = .parent ∧ member.id = parent.id then
        .error (.http 422 "You cannot remove yourself as a parent.")
      else return { db with
        members := db.members.save { member with archivedAt := some request.now } }

/-! ## Link codes and PINs -/

/-- `auth_subject.startswith(f"pending-{household_id}-")`. -/
def Pending (householdId : Uuid) (member : Member) : Prop :=
  ("pending-" ++ toString householdId ++ "-").toList <+: member.authSubject.toList

instance (householdId : Uuid) (member : Member) : Decidable (Pending householdId member) :=
  inferInstanceAs (Decidable (_ <+: _))

structure GenerateLinkCode where
  times : CreateTimes
  memberId : Uuid
  targetId : Uuid
  drawn : Fin 1000000

/-- The checks of `generate_link_code` before it makes the code. -/
def linkTarget (db : Database) (household : Models.Household) (targetId : Uuid) :
    Except RequestError Member :=
  match db.members.find? targetId with
  | none => .error (.http 404 "Member not found.")
  | some target =>
      if ¬ (target.householdId = household.id ∧ target.archivedAt = none) then
        .error (.http 404 "Member not found.")
      else if target.role ≠ .teen then
        .error (.http 422 "Only teen profiles can be linked.")
      else if ¬ Pending household.id target then
        .error (.http 409 "This profile already has its own login.")
      else .ok target

def generateLinkCode (request : GenerateLinkCode) (db : Database) (links : LinkKeys) :
    Except RequestError (String × Instant) × LinkKeys :=
  match loadParent db request.memberId with
  | .error raised => (.error raised, links)
  | .ok (_, household) =>
      match linkTarget db household request.targetId with
      | .error raised => (.error raised, links)
      | .ok target =>
          let (created, answer) := createLinkCode links request.times target.id request.drawn
          (.ok answer, created)

def verifyPinLimit : Limit := ⟨5, 5 * 60⟩

def tooManyAttempts : RequestError := .http 429 "Too many attempts. Try again later."

structure VerifyMemberPin where
  now : Instant
  memberId : Uuid
  targetId : Uuid
  /-- `hash_pin`. -/
  hashPin : String → String
  pin : String

structure VerifyPinResponse where
  valid : Bool
  pinSet : Bool
  deriving DecidableEq, Repr

/-- The attempt is counted under the id of the path before that id is looked up. -/
def verifyMemberPin (request : VerifyMemberPin) (db : Database) (counters : Counters) :
    Except RequestError VerifyPinResponse × Counters :=
  match (do
    let member ← getCurrentMember db request.memberId
    getCurrentHousehold db member) with
  | .error raised => (.error raised, counters)
  | .ok household =>
      let (within, counted) := checkRateLimit counters request.now
        ("verify-pin:member:" ++ toString request.targetId) verifyPinLimit
      (if ¬ within then .error tooManyAttempts
        else match db.members.find? request.targetId with
          | none => .error (.http 404 "Member not found.")
          | some target =>
              if target.householdId ≠ household.id then
                .error (.http 404 "Member not found.")
              else match target.pinHash with
                | none => .ok ⟨false, false⟩
                | some pinHash => .ok ⟨request.hashPin request.pin = pinHash, true⟩, counted)

/-! ## What the requests leave -/

theorem updateHousehold_ok {request : UpdateHousehold} {db next : Database}
    (returned : updateHousehold request db = .ok next) :
    ∃ households, next = { db with households := households } := by
  unfold updateHousehold at returned
  obtain ⟨⟨_, household⟩, _, returned⟩ := bind_ok returned
  dsimp only at returned
  split at returned
  · cases returned
  · cases returned
    exact ⟨_, rfl⟩

theorem createTeenProfile_ok {request : CreateTeenProfile} {db next : Database}
    (returned : createTeenProfile request db = .ok next) :
    ∃ household, next = { db with
      members := db.members.append (request.body.teen request.hashPin household)
        fun _ => rfl } := by
  unfold createTeenProfile at returned
  obtain ⟨⟨_, household⟩, _, returned⟩ := bind_ok returned
  dsimp only at returned
  split at returned
  · cases returned
  split at returned
  · cases returned
  split at returned
  · cases returned
  split at returned
  · cases returned
  · cases returned
    exact ⟨household, rfl⟩

theorem linkTarget_ok {db : Database} {household : Models.Household} {targetId : Uuid}
    {target : Member} (returned : linkTarget db household targetId = .ok target) :
    db.members.find? targetId = some target ∧ target.householdId = household.id ∧
      target.archivedAt = none ∧ target.role = .teen ∧ Pending household.id target := by
  unfold linkTarget at returned
  split at returned
  · cases returned
  · rename_i found
    split at returned
    · cases returned
    · rename_i live
      split at returned
      · cases returned
      · rename_i teen
        split at returned
        · cases returned
        · rename_i pending
          cases returned
          exact ⟨found, (not_not.mp live).1, (not_not.mp live).2, not_not.mp teen,
            not_not.mp pending⟩

theorem removeMember_ok {request : RemoveMember} {db next : Database}
    (returned : removeMember request db = .ok next) :
    ∃ member, db.members.find? request.targetId = some member ∧
      next = { db with
        members := db.members.save { member with archivedAt := some request.now } } := by
  unfold removeMember at returned
  obtain ⟨⟨parent, household⟩, _, returned⟩ := bind_ok returned
  dsimp only at returned
  split at returned
  · cases returned
  · rename_i member targetFound
    split at returned
    · cases returned
    split at returned
    · cases returned
    · cases returned
      exact ⟨member, targetFound, rfl⟩

end KidsChores.Routers.Household
