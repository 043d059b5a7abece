import Mathlib.Data.List.Sort
import Mathlib.Data.Rat.Defs
import KidsChores.Models

/-!
# Report aggregation

`app/services/reports.py`: completions, excuses and points by local weeks that start
on Monday.
-/

set_option autoImplicit false

namespace KidsChores.Services.Reports

open KidsChores.Models
open KidsChores.Library.PyDatetime

/-- `date.isoformat()`. -/
def isoformat (date : Date) : String :=
  let padded (width number : Nat) : String :=
    let digits := (toString number).toList
    String.ofList (List.replicate (width - digits.length) '0' ++ digits)
  let (year, month) := date.yearMonth
  let day := date.yearAndDay.2 - Date.daysBeforeMonth year month + 1
  padded 4 year ++ "-" ++ padded 2 month ++ "-" ++ padded 2 day

example : isoformat ⟨738156⟩ = "2022-01-01" ∧ isoformat ⟨738945⟩ = "2024-02-29" := by
  decide

/-- The Monday of the date's week. -/
def mondayOf (date : Date) : Date := date.addDays (-date.weekday)

/-- `week_start_of`. -/
def weekStartOf (instant : Instant) (tz : TzInfo) : Date := mondayOf (tz.localDate instant)

structure Bucket where
  completed : Nat := 0
  missed : Nat := 0
  excuseCount : Nat := 0
  pointsEarned : Int := 0
  deriving DecidableEq, Repr

/-- The dict from week starts to buckets. -/
abbrev Buckets := List (Date × Bucket)

/-- The bucket of that week is changed, if there is one. -/
def Buckets.change (buckets : Buckets) (week : Date) (update : Bucket → Bucket) : Buckets :=
  buckets.map fun entry => if entry.1 = week then (entry.1, update entry.2) else entry

def emptyBuckets (rangeStart : Date) (numWeeks : Nat) : Buckets :=
  (List.range numWeeks).map fun i => (rangeStart.addDays (7 * i), {})

def countInstance (tz : TzInfo) (buckets : Buckets) (task : TaskInstance) : Buckets :=
  let counted := buckets.change (weekStartOf task.dueAt tz) fun bucket =>
    if task.status = .complete then { bucket with completed := bucket.completed + 1 }
    else if task.status = .missed then { bucket with missed := bucket.missed + 1 }
    else bucket
  match task.excuseSubmittedAt with
  | none => counted
  | some submitted => counted.change (weekStartOf submitted tz) fun bucket =>
      { bucket with excuseCount := bucket.excuseCount + 1 }

def countEntry (tz : TzInfo) (buckets : Buckets) (entry : LedgerEntry) : Buckets :=
  buckets.change (weekStartOf entry.createdAt tz) fun bucket =>
    { bucket with pointsEarned := bucket.pointsEarned + entry.delta }

/-- A `ReportWeek`; the rate is the exact quotient. -/
structure ReportWeek where
  weekStart : String
  completed : Nat
  missed : Nat
  completionRate : Option ℚ
  excuseCount : Nat
  pointsEarned : Int
  deriving DecidableEq

def reportWeek (entry : Date × Bucket) : ReportWeek where
  weekStart := isoformat entry.1
  completed := entry.2.completed
  missed := entry.2.missed
  completionRate :=
    let total := entry.2.completed + entry.2.missed
    if total > 0 then some (entry.2.completed / total) else none
  excuseCount := entry.2.excuseCount
  pointsEarned := entry.2.pointsEarned

def buildWeeklyReport (instances : List TaskInstance) (ledgerEntries : List LedgerEntry)
    (rangeStart : Date) (numWeeks : Nat) (tz : TzInfo) : List ReportWeek :=
  let buckets := emptyBuckets rangeStart numWeeks
  let buckets := instances.foldl (countInstance tz) buckets
  let buckets := ledgerEntries.foldl (countEntry tz) buckets
  (buckets.insertionSort fun first second => first.1 ≤ second.1).map reportWeek

end KidsChores.Services.Reports
