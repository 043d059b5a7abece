import KidsChores.Library.ReadCommitted
import KidsChores.Routers.Definitions
import KidsChores.Services.Ledger
import KidsChores.Session

/-!
# Wallet router

The requests of `app/routers/wallet.py` that write to the ledger and the claims.
`resolve_claim` is here as the transaction of one request too.  The handler does not
look at the status of the claim it resolves.
-/

set_option autoImplicit false

namespace KidsChores.Routers.Wallet

open KidsChores.Models
open KidsChores.Library
open KidsChores.Library.ReadCommitted
open KidsChores.Routers.Definitions
open KidsChores.Services.Ledger
open KidsChores.Session

structure ClaimResolveRequest where
  approve : Bool
  parentNote : Option String := none
  deriving DecidableEq, Repr

/-- The claim, if its member belongs to the household; `none` is a 404. -/
def findClaim? (db : Database) (household : Household) (claimId : Uuid) :
    Option Claim := do
  let claim ← db.claims.find? claimId
  let member ← db.members.find? claim.memberId
  if member.householdId = household.id then some claim else none

theorem findClaim?_ok {db : Database} {household : Household} {claimId : Uuid}
    {claim : Claim} (found : findClaim? db household claimId = some claim) :
    db.claims.find? claimId = some claim ∧ ∃ member,
      db.members.find? claim.memberId = some member ∧
        member.householdId = household.id := by
  simp only [findClaim?, Option.bind_eq_bind, Option.bind_eq_some_iff] at found
  obtain ⟨stored, claimFound, member, memberFound, selected⟩ := found
  split at selected
  · rename_i own
    cases selected
    exact ⟨claimFound, member, memberFound, own⟩
  · cases selected

def resolveClaim (clock : Clock) (parent : Member) (body : ClaimResolveRequest)
    (claim : Claim) (ledger : Ledger) : Except ServiceError (Claim × Ledger) := do
  let (claim, ledger) ←
    if body.approve then do
      let ledger ← fulfilClaim ledger clock claim parent
      pure ({ claim with status := .fulfilled }, ledger)
    else pure ({ claim with status := .declined }, ledger)
  return ({ claim with
    parentNote := body.parentNote
    resolvedAt := some clock.now
    resolvedBy := some parent.id }, ledger)

/-- One `POST /wallet/claims/{id}/resolve`. -/
structure ResolveRequest where
  clock : Clock
  parent : Member
  household : Household
  claimId : Uuid
  body : ClaimResolveRequest
  deriving DecidableEq, Repr

def updateClaim (read new committed : Claim) : Claim :=
  { committed with
    status := written read.status new.status committed.status
    parentNote := written read.parentNote new.parentNote committed.parentNote
    resolvedAt := written read.resolvedAt new.resolvedAt committed.resolvedAt
    resolvedBy := written read.resolvedBy new.resolvedBy committed.resolvedBy }

def writeClaim (claimId : Uuid) (read new : Claim) (posted : List LedgerEntry)
    (db : Database) : Database :=
  match db.claims.find? claimId with
  | none => db
  | some committed => { db with
      claims := db.claims.save (updateClaim read new committed)
      ledger := appendPosted db.ledger posted }

def ResolveRequest.stage (request : ResolveRequest) (seen : Option Claim)
    (db : Database) : Option (Database → Database) :=
  match seen with
  | none => none
  | some claim =>
      match resolveClaim request.clock request.parent request.body claim
          db.ledger with
      | .error _ => none
      | .ok (resolved, ledger) =>
          if storableText resolved.parentNote then
            some (writeClaim request.claimId claim resolved
              (ledger.entries.drop db.ledger.entries.length))
          else none

def ResolveRequest.transaction (request : ResolveRequest) :
    Transaction Uuid (Option Claim) Database where
  key := request.claimId
  load := fun db => findClaim? db request.household request.claimId
  stage := request.stage

/-! ## What a request staged -/

/-- The status a request sets and the entries it adds. -/
def resolution (request : ResolveRequest) (claim : Claim) (balance : Int) :
    ClaimStatus × List LedgerEntry :=
  if request.body.approve then
    (.fulfilled, [(fulfilClaimPosting claim request.parent).entry balance
      request.clock.transaction])
  else (.declined, [])

theorem resolveClaim_ok {request : ResolveRequest} {claim resolved : Claim}
    {ledger next : Ledger}
    (success : resolveClaim request.clock request.parent request.body claim ledger =
      .ok (resolved, next)) :
    resolved.status =
        (resolution request claim (currentBalance ledger claim.memberId)).1 ∧
      writeClaim request.claimId claim resolved
          (next.entries.drop ledger.entries.length) =
        writeClaim request.claimId claim resolved
          (resolution request claim (currentBalance ledger claim.memberId)).2 := by
  unfold resolution
  cases approve : request.body.approve with
  | true =>
      simp only [resolveClaim, approve, if_true, bind, Except.bind, pure,
        Except.pure] at success
      cases paid : fulfilClaim ledger request.clock claim request.parent with
      | error raised =>
          rw [paid] at success
          cases success
      | ok posted =>
          rw [paid] at success
          cases success
          have appended := (record_ok paid).1
          refine ⟨rfl, ?_⟩
          rw [appended]
          simp [fulfilClaimPosting]
  | false =>
      simp only [resolveClaim, approve, Bool.false_eq_true, if_false, bind,
        Except.bind, pure, Except.pure] at success
      cases success
      refine ⟨rfl, ?_⟩
      simp

theorem resolve_stage_ok {request : ResolveRequest} {seen : Option Claim}
    {db : Database} {change : Database → Database}
    (staged : request.stage seen db = some change) :
    ∃ claim resolved balance, seen = some claim ∧
      resolved.status = (resolution request claim balance).1 ∧
      change = writeClaim request.claimId claim resolved
        (resolution request claim balance).2 := by
  unfold ResolveRequest.stage at staged
  cases seen with
  | none => cases staged
  | some claim =>
      simp only at staged
      split at staged
      · cases staged
      · rename_i resolved ledger success
        split at staged
        · cases staged
          exact ⟨claim, resolved, currentBalance db.ledger claim.memberId, rfl,
            resolveClaim_ok success⟩
        · cases staged

/-! ## The requests on the database -/

structure ManualAdjustRequest where
  memberId : Uuid
  delta : Int
  reason : String
  reasonLength : 5 ≤ reason.length
  deriving DecidableEq, Repr

/-- The member of the path is `targetId`; the one of the body is not read. -/
structure ManualAdjust where
  clock : Clock
  memberId : Uuid
  targetId : Uuid
  body : ManualAdjustRequest
  deriving DecidableEq, Repr

def assertSameHousehold (db : Database) (household : Household) (memberId : Uuid) :
    Except RequestError Unit :=
  match db.members.find? memberId with
  | some member =>
      if member.householdId = household.id then .ok ()
      else .error (.http 404 "Member not found in this household.")
  | none => .error (.http 404 "Member not found in this household.")

def manualAdjust (request : ManualAdjust) (db : Database) :
    Except RequestError Database := do
  let (parent, household) ← loadParent db request.memberId
  assertSameHousehold db household request.targetId
  let ledger ← ofService (manualAdjustment db.ledger request.clock request.targetId
    request.body.delta request.body.reason parent)
  if storableText (some request.body.reason) then return { db with ledger := ledger }
  else .error (.raised .dataError)

structure ClaimCreate where
  points : Int
  requestedItem : String
  pointRange : 1 ≤ points
  itemLength : LengthBetween 1 500 requestedItem

structure SubmitClaim where
  memberId : Uuid
  body : ClaimCreate

def ClaimCreate.claim (body : ClaimCreate) (member : Member) (id : Uuid) : Claim where
  id := id
  memberId := member.id
  points := body.points
  requestedItem := body.requestedItem

def submitClaim (request : SubmitClaim) (db : Database) :
    Except RequestError Database := do
  let member ← getCurrentMember db request.memberId
  if storableText (some request.body.requestedItem) ∧ FitsInteger request.body.points then
    return { db with claims := db.claims.append (request.body.claim member) fun _ => rfl }
  else .error (.raised .dataError)

structure ResolveClaim where
  clock : Clock
  memberId : Uuid
  claimId : Uuid
  body : ClaimResolveRequest
  deriving DecidableEq, Repr

def resolveStoredClaim (request : ResolveClaim) (db : Database) :
    Except RequestError Database := do
  let (parent, household) ← loadParent db request.memberId
  match findClaim? db household request.claimId with
  | none => .error (.http 404 "Claim not found.")
  | some claim => do
      let (resolved, ledger) ← ofService
        (resolveClaim request.clock parent request.body claim db.ledger)
      if storableText resolved.parentNote then
        return { db with claims := db.claims.save resolved, ledger := ledger }
      else .error (.raised .dataError)

theorem assertSameHousehold_ok {db : Database} {household : Household} {memberId : Uuid}
    (checked : assertSameHousehold db household memberId = .ok ()) :
    ∃ member, db.members.find? memberId = some member ∧
      member.householdId = household.id := by
  unfold assertSameHousehold at checked
  split at checked
  · rename_i member found
    split at checked
    · rename_i own
      exact ⟨member, found, own⟩
    · cases checked
  · cases checked

theorem manualAdjust_ok {request : ManualAdjust} {db next : Database}
    (returned : manualAdjust request db = .ok next) :
    ∃ parent household target ledger,
      loadParent db request.memberId = .ok (parent, household) ∧
      db.members.find? request.targetId = some target ∧
      target.householdId = household.id ∧
      record db.ledger request.clock (manualAdjustmentPosting request.targetId
        request.body.delta request.body.reason parent) = .ok ledger ∧
      next = { db with ledger := ledger } := by
  unfold manualAdjust at returned
  obtain ⟨⟨parent, household⟩, loaded, returned⟩ := bind_ok returned
  obtain ⟨_, checked, returned⟩ := bind_ok returned
  obtain ⟨target, targetFound, own⟩ := assertSameHousehold_ok checked
  obtain ⟨ledger, adjusted, returned⟩ := bind_ok returned
  have recorded := ofService_ok adjusted
  unfold manualAdjustment at recorded
  split at recorded
  · cases recorded
  split at returned
  · cases returned
    exact ⟨parent, household, target, ledger, loaded, targetFound, own, recorded, rfl⟩
  · cases returned

theorem submitClaim_ok {request : SubmitClaim} {db next : Database}
    (returned : submitClaim request db = .ok next) :
    ∃ member, db.members.find? request.memberId = some member ∧
      next = { db with
        claims := db.claims.append (request.body.claim member) fun _ => rfl } := by
  unfold submitClaim at returned
  obtain ⟨member, found, returned⟩ := bind_ok returned
  split at returned
  · cases returned
    exact ⟨member, getCurrentMember_ok found, rfl⟩
  · cases returned

/-- The columns a resolution leaves alone, and who it names. -/
theorem resolveClaim_same {clock : Clock} {parent : Member} {body : ClaimResolveRequest}
    {claim resolved : Claim} {ledger next : Ledger}
    (returned : resolveClaim clock parent body claim ledger = .ok (resolved, next)) :
    resolved.id = claim.id ∧ resolved.memberId = claim.memberId ∧
      resolved.resolvedBy = some parent.id ∧
      (next = ledger ∨
        record ledger clock (fulfilClaimPosting claim parent) = .ok next) := by
  simp only [resolveClaim, bind, Except.bind, pure, Except.pure] at returned
  split at returned
  · cases paid : fulfilClaim ledger clock claim parent with
    | error raised =>
        rw [paid] at returned
        cases returned
    | ok posted =>
        rw [paid] at returned
        cases returned
        exact ⟨rfl, rfl, rfl, Or.inr paid⟩
  · cases returned
    exact ⟨rfl, rfl, rfl, Or.inl rfl⟩

theorem resolveStoredClaim_ok {request : ResolveClaim} {db next : Database}
    (returned : resolveStoredClaim request db = .ok next) :
    ∃ parent household claim resolved ledger,
      loadParent db request.memberId = .ok (parent, household) ∧
      findClaim? db household request.claimId = some claim ∧
      resolveClaim request.clock parent request.body claim db.ledger =
        .ok (resolved, ledger) ∧
      next = { db with claims := db.claims.save resolved, ledger := ledger } := by
  unfold resolveStoredClaim at returned
  obtain ⟨⟨parent, household⟩, loaded, returned⟩ := bind_ok returned
  dsimp only at returned
  split at returned
  · cases returned
  · rename_i claim claimFound
    obtain ⟨⟨resolved, ledger⟩, resolution, returned⟩ := bind_ok returned
    dsimp only at returned
    split at returned
    · cases returned
      exact ⟨parent, household, claim, resolved, ledger, loaded, claimFound,
        ofService_ok resolution, rfl⟩
    · cases returned

/-! ## A request alone is its transaction -/

theorem writeClaim_alone {request : ResolveClaim} {parent : Member}
    {household : Household} {db : Database} {claim resolved : Claim} {ledger : Ledger}
    (found : findClaim? db household request.claimId = some claim)
    (resolution : resolveClaim request.clock parent request.body claim db.ledger =
      .ok (resolved, ledger)) :
    writeClaim request.claimId claim resolved
        (ledger.entries.drop db.ledger.entries.length) db =
      { db with claims := db.claims.save resolved, ledger := ledger } := by
  have stored := (findClaim?_ok found).1
  have posted : appendPosted db.ledger (ledger.entries.drop db.ledger.entries.length) =
      ledger := by
    obtain ⟨_, _, _, unpaid | paid⟩ := resolveClaim_same resolution
    · rw [unpaid, List.drop_length]
      rfl
    · exact appendPosted_record paid
  have saved : updateClaim claim resolved claim = resolved := by
    simp only [resolveClaim, bind, Except.bind, pure, Except.pure] at resolution
    split at resolution
    · cases paid : fulfilClaim db.ledger request.clock claim parent with
      | error raised =>
          rw [paid] at resolution
          cases resolution
      | ok next =>
          rw [paid] at resolution
          cases resolution
          simp only [updateClaim, written_read]
    · cases resolution
      simp only [updateClaim, written_read]
  simp only [writeClaim, stored, saved, posted]

/-- With nothing committed in between, the request does what its transaction stages. -/
theorem resolveStoredClaim_stage {request : ResolveClaim} {parent : Member}
    {household : Household} {db : Database}
    (loaded : loadParent db request.memberId = .ok (parent, household)) :
    (resolveStoredClaim request db).toOption =
      let transaction := (ResolveRequest.mk request.clock parent household request.claimId
        request.body).transaction
      (transaction.stage (transaction.load db) db).map fun change => change db := by
  simp only [resolveStoredClaim, loaded, bind, Except.bind, pure, Except.pure,
    ResolveRequest.transaction, ResolveRequest.stage]
  cases found : findClaim? db household request.claimId with
  | none => rfl
  | some claim =>
      simp only
      cases resolution : resolveClaim request.clock parent request.body claim db.ledger with
      | error raised => rfl
      | ok outcome =>
          obtain ⟨resolved, ledger⟩ := outcome
          simp only [ofService, Except.mapError]
          split
          · simp only [Except.toOption, Option.map_some,
              writeClaim_alone found resolution]
          · rfl

end KidsChores.Routers.Wallet
