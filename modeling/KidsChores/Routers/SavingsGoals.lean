import Mathlib.Data.List.Sort
import KidsChores.Routers.Wallet

/-!
# Savings goals

The table of `app/db/models.py` that only `app/routers/wallet.py` uses, with the request
that adds to it and the wallet that shows a goal.
-/

set_option autoImplicit false

namespace KidsChores.Routers.SavingsGoals

open KidsChores.Models
open KidsChores.Library
open KidsChores.Library.PyDatetime
open KidsChores.Routers.Definitions
open KidsChores.Routers.Wallet
open KidsChores.Services.Ledger
open KidsChores.Session

structure SavingsGoal where
  id : Uuid
  memberId : Uuid
  title : String
  targetPoints : Int
  createdAt : Instant
  achievedAt : Option Instant := none
  deriving DecidableEq, Repr

abbrev Goals := Table SavingsGoal.id

/-- The member and the household of a request any member may make. -/
def loadCaller (db : Database) (memberId : Uuid) :
    Except RequestError (Member × Household) := do
  let member ← getCurrentMember db memberId
  let household ← getCurrentHousehold db member
  return (member, household)

def assertWalletAccess (db : Database) (member : Member) (household : Household)
    (targetId : Uuid) : Except RequestError Unit :=
  if member.role = .teen ∧ member.id ≠ targetId then
    .error (.http 403 "You can only view your own wallet.")
  else assertSameHousehold db household targetId

structure SavingsGoalCreate where
  title : String
  targetPoints : Int
  titleLength : LengthBetween 1 200 title
  targetRange : 1 ≤ targetPoints

structure CreateSavingsGoal where
  transaction : Instant
  memberId : Uuid
  targetId : Uuid
  body : SavingsGoalCreate

def SavingsGoalCreate.goal (body : SavingsGoalCreate) (memberId : Uuid)
    (createdAt : Instant) (id : Uuid) : SavingsGoal where
  id := id
  memberId := memberId
  title := body.title
  targetPoints := body.targetPoints
  createdAt := createdAt

def createSavingsGoal (request : CreateSavingsGoal) (db : Database) (goals : Goals) :
    Except RequestError (SavingsGoal × Goals) := do
  let (member, household) ← loadCaller db request.memberId
  assertWalletAccess db member household request.targetId
  if storableText (some request.body.title) ∧ FitsInteger request.body.targetPoints then
    let goal := request.body.goal request.targetId request.transaction
    return (goal goals.freshKey, goals.append goal fun _ => rfl)
  else .error (.raised .dataError)

/-- The member's goals that are not achieved, the latest first. -/
def activeGoals (goals : Goals) (memberId : Uuid) : List SavingsGoal :=
  (goals.rows.filter fun goal => goal.memberId = memberId ∧ goal.achievedAt = none).insertionSort
    fun first second => second.createdAt ≤ first.createdAt

structure WalletResponse where
  memberId : Uuid
  balance : Int
  pointsLabel : String
  activeSavingsGoal : Option SavingsGoal
  deriving DecidableEq, Repr

structure GetWallet where
  memberId : Uuid
  targetId : Uuid

def getWallet (request : GetWallet) (db : Database) (goals : Goals) :
    Except RequestError WalletResponse := do
  let (member, household) ← loadCaller db request.memberId
  assertWalletAccess db member household request.targetId
  return {
    memberId := request.targetId
    balance := currentBalance db.ledger request.targetId
    pointsLabel := household.pointsLabel
    activeSavingsGoal := (activeGoals goals request.targetId).head? }

end KidsChores.Routers.SavingsGoals
