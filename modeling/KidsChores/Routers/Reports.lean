import KidsChores.Routers.Listings
import KidsChores.Services.Reports

/-!
# Reports router

`get_report` of `app/routers/reports.py`.
-/

set_option autoImplicit false

namespace KidsChores.Routers.Reports

open KidsChores.Models
open KidsChores.Library.PyDatetime
open KidsChores.Routers.Definitions
open KidsChores.Routers.Listings
open KidsChores.Routers.SavingsGoals
open KidsChores.Services.Reports
open KidsChores.Workers.GenerateInstances

/-- `_EARNED_ENTRY_TYPES`. -/
def earnedEntryTypes : List LedgerEntryType := [.taskCompleted, .seriesBonus, .excusedPartial]

structure GetReport where
  now : Instant
  memberId : Uuid
  targetId : Uuid
  weeks : Int := 12
  deriving DecidableEq, Repr

structure ReportResponse where
  memberId : Uuid
  weeks : List ReportWeek
  deriving DecidableEq

/-- The first Monday of the report, and the instants between which its rows are. -/
def reportRange (tz : TzInfo) (now : Instant) (weeks : Int) :
    Except JobError (Date × Instant × Instant) :=
  let thisMonday := mondayOf (tz.localDate now)
  let rangeStart := thisMonday.addDays (-(7 * (weeks - 1)))
  match tz.localize? (naiveAt rangeStart 0 0), tz.localize? (naiveAt thisMonday 0 0) with
  | some start, some monday => .ok (rangeStart, start, monday + 7 * microsecondsPerDay)
  | _, _ => .error .overflowError

/-- The instances of the definitions the member is assigned to. -/
def reportInstances (db : Database) (targetId : Uuid) (start finish : Instant) :
    List TaskInstance :=
  db.instances.rows.filter fun task =>
    ((db.definitions.find? task.definitionId).any (·.assigneeId = targetId)) ∧
      start ≤ task.dueAt ∧ task.dueAt < finish

def reportEntries (db : Database) (targetId : Uuid) (start finish : Instant) :
    List LedgerEntry :=
  db.ledger.entries.filter fun entry => entry.memberId = targetId ∧
    start ≤ entry.createdAt ∧ entry.createdAt < finish ∧ entry.entryType ∈ earnedEntryTypes

def getReport (pytz : String → Option TzInfo) (request : GetReport) (db : Database) :
    Except RequestError ReportResponse := do
  let (member, household) ← loadCaller db request.memberId
  if member.role = .teen ∧ member.id ≠ request.targetId then
    throw (.http 403 "You can only view your own report.")
  if ¬ (1 ≤ request.weeks ∧ request.weeks ≤ 52) then
    throw (.http 422 "weeks must be between 1 and 52.")
  let _ ← getMemberOr404 db household request.targetId
  let tz ← ofJob (timezone pytz household)
  let (rangeStart, start, finish) ← ofJob (reportRange tz request.now request.weeks)
  return ⟨request.targetId, buildWeeklyReport
    (reportInstances db request.targetId start finish)
    (reportEntries db request.targetId start finish) rangeStart request.weeks.toNat tz⟩

end KidsChores.Routers.Reports
