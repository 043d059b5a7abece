import KidsChores.Routers.Requests

/-!
# Response models

The responses of `app/schemas/schemas.py` beside those of the idempotent requests, as
they are read from the rows.  `created_at` and `requested_at` are left out where the row
does not keep them.
-/

set_option autoImplicit false

namespace KidsChores.Routers

open KidsChores.Models
open KidsChores.Library.PyDatetime

structure HouseholdResponse where
  id : Uuid
  name : String
  timezone : String
  pointsLabel : String
  excusedPayoutPolicy : ExcusedPayoutPolicy
  gracePeriodHours : Int
  taskReminderMinutesBeforeDue : Int
  deriving DecidableEq, Repr

def HouseholdResponse.of (household : Household) : HouseholdResponse where
  id := household.id
  name := household.name
  timezone := household.timezone
  pointsLabel := household.pointsLabel
  excusedPayoutPolicy := household.excusedPayoutPolicy
  gracePeriodHours := household.gracePeriodHours
  taskReminderMinutesBeforeDue := household.taskReminderMinutesBeforeDue

structure MemberResponse where
  id : Uuid
  householdId : Uuid
  role : MemberRole
  displayName : String
  birthdate : Option String
  pinSet : Bool
  archivedAt : Option Instant
  deriving DecidableEq, Repr

def MemberResponse.of (member : Member) : MemberResponse where
  id := member.id
  householdId := member.householdId
  role := member.role
  displayName := member.displayName
  birthdate := member.birthdate
  pinSet := member.pinHash.isSome
  archivedAt := member.archivedAt

structure TaskDefinitionResponse where
  id : Uuid
  householdId : Uuid
  assigneeId : Uuid
  title : String
  description : Option String
  pointValue : Int
  scheduleType : ScheduleType
  weekdayMask : Option Int
  startDate : String
  endDate : Option String
  dueTime : String
  requiresReview : Bool
  seriesId : Option Uuid
  archivedAt : Option Instant
  deriving DecidableEq, Repr

def TaskDefinitionResponse.of (definition : TaskDefinition) : TaskDefinitionResponse where
  id := definition.id
  householdId := definition.householdId
  assigneeId := definition.assigneeId
  title := definition.title
  description := definition.description
  pointValue := definition.pointValue
  scheduleType := definition.scheduleType
  weekdayMask := definition.weekdayMask
  startDate := definition.startDate
  endDate := definition.endDate
  dueTime := definition.dueTime
  requiresReview := definition.requiresReview
  seriesId := definition.seriesId
  archivedAt := definition.archivedAt

structure SeriesResponse where
  id : Uuid
  householdId : Uuid
  name : String
  assigneeId : Uuid
  bonusPoints : Int
  payoutMode : SeriesPayoutMode
  windowType : SeriesWindowType
  archivedAt : Option Instant
  deriving DecidableEq, Repr

def SeriesResponse.of (series : Series) : SeriesResponse where
  id := series.id
  householdId := series.householdId
  name := series.name
  assigneeId := series.assigneeId
  bonusPoints := series.bonusPoints
  payoutMode := series.payoutMode
  windowType := series.windowType
  archivedAt := series.archivedAt

structure SeriesInstanceResponse where
  id : Uuid
  seriesId : Uuid
  windowStart : Instant
  windowEnd : Instant
  status : SeriesStatus
  completedAt : Option Instant
  progress : Option String
  deriving DecidableEq, Repr

def SeriesInstanceResponse.of (seriesInstance : SeriesInstance) (progress : Option String) :
    SeriesInstanceResponse where
  id := seriesInstance.id
  seriesId := seriesInstance.seriesId
  windowStart := seriesInstance.windowStart
  windowEnd := seriesInstance.windowEnd
  status := seriesInstance.status
  completedAt := seriesInstance.completedAt
  progress := progress

/-- An entry has no id of its own here: nothing refers to it. -/
structure LedgerEntryResponse where
  delta : Int
  balanceAfter : Int
  entryType : LedgerEntryType
  reason : String
  createdAt : Instant
  deriving DecidableEq, Repr

def LedgerEntryResponse.of (entry : LedgerEntry) : LedgerEntryResponse where
  delta := entry.delta
  balanceAfter := entry.balanceAfter
  entryType := entry.entryType
  reason := entry.reason
  createdAt := entry.createdAt

structure ClaimResponse where
  id : Uuid
  memberId : Uuid
  memberName : String
  points : Int
  requestedItem : String
  status : ClaimStatus
  parentNote : Option String
  resolvedAt : Option Instant
  deriving DecidableEq, Repr

/-- `_to_claim_response`. -/
def toClaimResponse (claim : Claim) (memberName : String) : ClaimResponse where
  id := claim.id
  memberId := claim.memberId
  memberName := memberName
  points := claim.points
  requestedItem := claim.requestedItem
  status := claim.status
  parentNote := claim.parentNote
  resolvedAt := claim.resolvedAt

inductive ApprovalType where
  | completion
  | excuse
  deriving DecidableEq, Repr

structure ApprovalItem where
  type : ApprovalType
  taskInstanceId : Uuid
  taskTitle : String
  assigneeName : String
  pointValue : Int
  submittedAt : Instant
  excuseText : Option String
  deriving DecidableEq, Repr

end KidsChores.Routers
