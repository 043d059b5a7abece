import KidsChores.Routers.Approvals
import KidsChores.Routers.Household
import KidsChores.Routers.Responses
import KidsChores.Routers.SavingsGoals
import KidsChores.Routers.Series

/-!
# Listings

The `GET` requests of the household, definitions, series, tasks, wallet and approvals
routers.  Rows are in the order they were created; those that share the key of an
`order_by` keep that order.
-/

set_option autoImplicit false

namespace KidsChores.Routers.Listings

open KidsChores.Models
open KidsChores.Library
open KidsChores.Library.PyDatetime
open KidsChores.Routers.Definitions
open KidsChores.Routers.SavingsGoals
open KidsChores.Routers.Series
open KidsChores.Workers.GenerateInstances

/-! ## Household -/

def getHousehold (memberId : Uuid) (db : Database) :
    Except RequestError HouseholdResponse := do
  let (_, household) ← loadCaller db memberId
  return .of household

/-- A listing that leaves archived rows out unless they are asked for. -/
structure ListRows where
  memberId : Uuid
  includeArchived : Bool := false
  deriving DecidableEq, Repr

def ListRows.shows (request : ListRows) (archivedAt : Option Instant) : Bool :=
  request.includeArchived || archivedAt.isNone

def listMembers (request : ListRows) (db : Database) :
    Except RequestError (List MemberResponse) := do
  let (_, household) ← loadCaller db request.memberId
  return (db.members.rows.filter fun member =>
    member.householdId = household.id ∧ request.shows member.archivedAt).map .of

/-! ## Definitions and series -/

def listDefinitions (request : ListRows) (db : Database) :
    Except RequestError (List TaskDefinitionResponse) := do
  let (_, household) ← loadCaller db request.memberId
  return (db.definitions.rows.filter fun definition =>
    definition.householdId = household.id ∧
      request.shows definition.archivedAt).reverse.map .of

def listSeries (request : ListRows) (db : Database) :
    Except RequestError (List SeriesResponse) := do
  let (_, household) ← loadCaller db request.memberId
  return (db.series.rows.filter fun series =>
    series.householdId = household.id ∧ request.shows series.archivedAt).reverse.map .of

structure ListSeriesInstances where
  memberId : Uuid
  seriesId : Uuid
  deriving DecidableEq, Repr

def progress (tasks : List TaskInstance) : Option String :=
  let total := tasks.length
  let complete := tasks.countP (·.status = .complete)
  if total > 0 then some (toString complete ++ " of " ++ toString total ++ " complete")
  else none

def listSeriesInstances (request : ListSeriesInstances) (db : Database) :
    Except RequestError (List SeriesInstanceResponse) := do
  let (_, household) ← loadCaller db request.memberId
  let _ ← getSeriesOr404 db household request.seriesId
  let windows := (db.seriesInstances.rows.filter
    (·.seriesId = request.seriesId)).insertionSort
      fun first second => second.windowStart ≤ first.windowStart
  return windows.map fun window => .of window
    (progress (db.instances.rows.filter (·.seriesInstanceId = some window.id)))

/-! ## Tasks -/

/-- The select of a member of the household by id, for a request about someone else. -/
def getMemberOr404 (db : Database) (household : Household) (memberId : Uuid) :
    Except RequestError Member :=
  match db.members.find? memberId with
  | some member =>
      if member.householdId = household.id then .ok member
      else .error (.http 404 "Member not found.")
  | none => .error (.http 404 "Member not found.")

/-- `_resolve_target_id`; an empty id in the query is no id. -/
def resolveTargetId (db : Database) (member : Member) (household : Household)
    (memberId : Option Uuid) : Except RequestError Uuid :=
  match memberId with
  | none => .ok member.id
  | some targetId =>
      if targetId = member.id then .ok member.id
      else if member.role ≠ .parent then
        .error (.http 403 "Only parents can view other members.")
      else (getMemberOr404 db household targetId).map Member.id

/-- `_today_bounds`: the day starts and ends under the offset in force now. -/
def todayBounds (pytz : String → Option TzInfo) (household : Household) (now : Instant) :
    Except JobError (Instant × Instant) := do
  let tz ← timezone pytz household
  let start := naiveAt (tz.localDate now) 0 0 - tz.utcOffset now
  return (start, start + microsecondsPerDay)

/-- `date.max`. -/
def maxOrdinal : Int := 3652059

/-- `_week_bounds`: seven days under the offset of the first midnight. -/
def weekBounds (pytz : String → Option TzInfo) (startDate : String)
    (household : Household) : Except JobError (Instant × Instant) := do
  let tz ← timezone pytz household
  match strptimeDate? startDate with
  | none => .error .valueError
  | some date =>
      match tz.localize? (naiveAt date 0 0) with
      | none => .error .overflowError
      | some start =>
          if date.ordinal + 7 ≤ maxOrdinal then
            .ok (start, start + 7 * microsecondsPerDay)
          else .error .overflowError

/-- The member's instances that are due in the interval. -/
def dueBetween (db : Database) (targetId : Uuid) (bounds : Instant × Instant) :
    List TaskInstanceResponse :=
  ((db.instances.rows.filter fun task => task.assigneeId = targetId ∧
    bounds.1 ≤ task.dueAt ∧ task.dueAt < bounds.2).insertionSort
      fun first second => first.dueAt ≤ second.dueAt).map .ofTask

structure TodayTasks where
  now : Instant
  memberId : Uuid
  targetId : Option Uuid := none
  deriving DecidableEq, Repr

def getTodayTasks (pytz : String → Option TzInfo) (request : TodayTasks) (db : Database) :
    Except RequestError (List TaskInstanceResponse) := do
  let (member, household) ← loadCaller db request.memberId
  let targetId ← resolveTargetId db member household request.targetId
  let bounds ← ofJob (todayBounds pytz household request.now)
  return dueBetween db targetId bounds

structure WeekTasks where
  memberId : Uuid
  start : String
  targetId : Option Uuid := none
  deriving DecidableEq, Repr

def getWeekTasks (pytz : String → Option TzInfo) (request : WeekTasks) (db : Database) :
    Except RequestError (List TaskInstanceResponse) := do
  let (member, household) ← loadCaller db request.memberId
  let targetId ← resolveTargetId db member household request.targetId
  let bounds ← ofJob (weekBounds pytz request.start household)
  return dueBetween db targetId bounds

/-! ## Wallet -/

structure ListClaims where
  memberId : Uuid
  status : Option ClaimStatus := none
  targetId : Option Uuid := none
  deriving DecidableEq, Repr

/-- Whose claims are shown; an empty id in the query is no id. -/
def claimTarget (member : Member) (targetId : Option Uuid) :
    Except RequestError (Option Uuid) :=
  if member.role = .teen then
    if ∃ wanted ∈ targetId, wanted ≠ member.id then
      .error (.http 403 "You can only view your own claims.")
    else .ok (some member.id)
  else .ok targetId

def listClaims (request : ListClaims) (db : Database) :
    Except RequestError (List ClaimResponse) := do
  let (member, household) ← loadCaller db request.memberId
  let targetId ← claimTarget member request.targetId
  return db.claims.rows.filterMap fun claim =>
    match db.members.find? claim.memberId with
    | none => none
    | some owner =>
        if owner.householdId = household.id ∧ (∀ wanted ∈ targetId, claim.memberId = wanted) ∧
            (∀ status ∈ request.status, claim.status = status) then
          some (toClaimResponse claim owner.displayName)
        else none

structure GetLedger where
  memberId : Uuid
  targetId : Uuid
  limit : Int := 50
  offset : Int := 0
  deriving DecidableEq, Repr

/-- What `LIMIT` and `OFFSET` take. -/
def RowCount (count : Int) : Prop := 0 ≤ count ∧ count ≤ 9223372036854775807

instance (count : Int) : Decidable (RowCount count) := inferInstanceAs (Decidable (_ ∧ _))

def getLedger (request : GetLedger) (db : Database) :
    Except RequestError (List LedgerEntryResponse) := do
  let (member, household) ← loadCaller db request.memberId
  assertWalletAccess db member household request.targetId
  if RowCount request.limit ∧ RowCount request.offset then
    let entries := (db.ledger.entries.filter
      (·.memberId = request.targetId)).insertionSort
        fun first second => second.createdAt ≤ first.createdAt
    return ((entries.drop request.offset.toNat).take request.limit.toNat).map .of
  else .error (.raised .dataError)

/-! ## Approvals -/

/-- An instance that awaits a decision, with its definition and its assignee. -/
def awaiting? (db : Database) (household : Household) (task : TaskInstance) :
    Option (TaskInstance × TaskDefinition × Member) := do
  let definition ← db.definitions.find? task.definitionId
  let assignee ← db.members.find? task.assigneeId
  if definition.householdId = household.id ∧
      (task.status = .reviewPending ∨ task.status = .excusePending) then
    some (task, definition, assignee)
  else none

/-- `NULLS FIRST` for the excuses, and last for the completions. -/
def submittedBefore (first second : TaskInstance × TaskDefinition × Member) : Prop :=
  match first.1.excuseSubmittedAt, second.1.excuseSubmittedAt with
  | none, some _ => True
  | some _, none => False
  | some earlier, some later => earlier < later ∨ (earlier = later ∧ completedBefore)
  | none, none => completedBefore
where
  completedBefore : Prop :=
    match first.1.completedAt, second.1.completedAt with
    | some earlier, some later => earlier ≤ later
    | some _, none => True
    | none, some _ => False
    | none, none => True

instance : DecidableRel submittedBefore := fun first second => by
  unfold submittedBefore submittedBefore.completedBefore
  split <;> (try split) <;> infer_instance

/-- The item of the inbox; `none` is the failed assertion on `submitted_at`. -/
def approvalItem? (awaited : TaskInstance × TaskDefinition × Member) :
    Option ApprovalItem :=
  let (task, definition, assignee) := awaited
  let (type, submittedAt) :=
    if task.status = .reviewPending then (ApprovalType.completion, task.completedAt)
    else (ApprovalType.excuse, task.excuseSubmittedAt)
  submittedAt.map fun submitted => {
    type := type
    taskInstanceId := task.id
    taskTitle := definition.title
    assigneeName := assignee.displayName
    pointValue := task.pointValue
    submittedAt := submitted
    excuseText := task.excuseText }

/-- `none` is an `AssertionError`. -/
def getApprovalInbox (memberId : Uuid) (db : Database) :
    Except RequestError (Option (List ApprovalItem)) := do
  let (_, household) ← loadParent db memberId
  return ((db.instances.rows.filterMap (awaiting? db household)).insertionSort
    submittedBefore).mapM approvalItem?

end KidsChores.Routers.Listings
