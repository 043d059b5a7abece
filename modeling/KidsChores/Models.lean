import Mathlib.Algebra.BigOperators.Group.List.Basic
import KidsChores.Library.PyDatetime
import KidsChores.Library.Table

/-!
# Database model

The rows and tables of `app/db/models.py` with the constraints the migrations
create: a primary key on every table, `uq_instance_def_due`, and the two partial
unique indexes on the ledger.  Ids are opaque, so a UUID string is a natural
number here.  An instant is a count of microseconds, the resolution of both
`datetime` and `timestamptz`.
-/

set_option autoImplicit false

namespace KidsChores.Models

open KidsChores.Library
open KidsChores.Library.PyDatetime

abbrev Uuid := Nat

/-! ## Enums -/

inductive MemberRole where
  | parent
  | teen
  deriving DecidableEq, Repr

inductive AuthProvider where
  | apple
  | email
  deriving DecidableEq, Repr

inductive ExcusedPayoutPolicy where
  | excusedPaysNothing
  | excusedPaysPartial
  | excusedPaysFull
  deriving DecidableEq, Repr

inductive ScheduleType where
  | oneTime
  | daily
  | weekdays
  | weekly
  deriving DecidableEq, Repr

inductive TaskStatus where
  | pending
  | reviewPending
  | complete
  | overdue
  | excusePending
  | excused
  | missed
  | cancelled
  deriving DecidableEq, Repr

/-- `str(TaskStatus.…)`: the members of a `StrEnum` print as their values. -/
def TaskStatus.value : TaskStatus → String
  | .pending => "pending"
  | .reviewPending => "review_pending"
  | .complete => "complete"
  | .overdue => "overdue"
  | .excusePending => "excuse_pending"
  | .excused => "excused"
  | .missed => "missed"
  | .cancelled => "cancelled"

inductive SeriesPayoutMode where
  | individualPlusBonus
  | allOrNothing
  deriving DecidableEq, Repr

inductive SeriesWindowType where
  | weekly
  | monthly
  | custom
  deriving DecidableEq, Repr

inductive SeriesStatus where
  | active
  | complete
  | expired
  deriving DecidableEq, Repr

inductive LedgerEntryType where
  | taskCompleted
  | seriesBonus
  | excusedPartial
  | claimFulfilled
  | manualAdjustment
  | reversal
  deriving DecidableEq, Repr

def LedgerEntryType.value : LedgerEntryType → String
  | .taskCompleted => "task_completed"
  | .seriesBonus => "series_bonus"
  | .excusedPartial => "excused_partial"
  | .claimFulfilled => "claim_fulfilled"
  | .manualAdjustment => "manual_adjustment"
  | .reversal => "reversal"

inductive ClaimStatus where
  | pending
  | fulfilled
  | declined
  deriving DecidableEq, Repr

/-! ## Rows -/

structure Household where
  id : Uuid
  name : String
  timezone : String := "UTC"
  pointsLabel : String := "points"
  excusedPayoutPolicy : ExcusedPayoutPolicy := .excusedPaysNothing
  gracePeriodHours : Int := 24
  taskReminderMinutesBeforeDue : Int := 60
  deriving DecidableEq, Repr

structure Member where
  id : Uuid
  householdId : Uuid
  role : MemberRole
  displayName : String
  authProvider : AuthProvider := .email
  authSubject : String := ""
  passwordHash : Option String := none
  pinHash : Option String := none
  birthdate : Option String := none
  pushToken : Option String := none
  archivedAt : Option Instant := none
  deriving DecidableEq, Repr

structure TaskDefinition where
  id : Uuid
  householdId : Uuid
  assigneeId : Uuid
  title : String
  description : Option String := none
  pointValue : Int
  scheduleType : ScheduleType
  weekdayMask : Option Int := none
  startDate : String
  endDate : Option String := none
  dueTime : String := "20:00"
  requiresReview : Bool := false
  seriesId : Option Uuid := none
  archivedAt : Option Instant := none
  createdBy : Uuid
  deriving DecidableEq, Repr

structure TaskInstance where
  id : Uuid
  definitionId : Uuid
  assigneeId : Uuid
  dueAt : Instant
  pointValue : Int
  status : TaskStatus := .pending
  completedAt : Option Instant := none
  completionNote : Option String := none
  excuseText : Option String := none
  excuseSubmittedAt : Option Instant := none
  gracePausedAt : Option Instant := none
  graceElapsedSeconds : Int := 0
  reviewedBy : Option Uuid := none
  reviewedAt : Option Instant := none
  reviewComment : Option String := none
  seriesInstanceId : Option Uuid := none
  deriving DecidableEq, Repr

structure Series where
  id : Uuid
  householdId : Uuid
  name : String
  assigneeId : Uuid
  bonusPoints : Int
  payoutMode : SeriesPayoutMode
  windowType : SeriesWindowType
  archivedAt : Option Instant := none
  deriving DecidableEq, Repr

structure SeriesInstance where
  id : Uuid
  seriesId : Uuid
  windowStart : Instant
  windowEnd : Instant
  status : SeriesStatus := .active
  completedAt : Option Instant := none
  deriving DecidableEq, Repr

structure LedgerEntry where
  memberId : Uuid
  delta : Int
  balanceAfter : Int
  entryType : LedgerEntryType
  taskInstanceId : Option Uuid := none
  seriesInstanceId : Option Uuid := none
  claimId : Option Uuid := none
  reason : String
  createdBy : Uuid
  createdAt : Instant
  deriving DecidableEq, Repr

structure Claim where
  id : Uuid
  memberId : Uuid
  points : Int
  requestedItem : String
  status : ClaimStatus := .pending
  parentNote : Option String := none
  resolvedAt : Option Instant := none
  resolvedBy : Option Uuid := none
  deriving DecidableEq, Repr

/-! ## The ledger table -/

/-- The two entries have the same key in `uq_ledger_task_instance_entry_type` or
in `uq_ledger_series_instance_entry_type`. -/
def LedgerEntry.Clashes (first second : LedgerEntry) : Prop :=
  first.entryType = second.entryType ∧
    ((first.taskInstanceId.isSome ∧ first.taskInstanceId = second.taskInstanceId) ∨
      (first.seriesInstanceId.isSome ∧
        first.seriesInstanceId = second.seriesInstanceId))

instance (first second : LedgerEntry) : Decidable (first.Clashes second) :=
  inferInstanceAs (Decidable (_ ∧ _))

/-- `ledger_entries` in insertion order, with its partial unique indexes. -/
structure Ledger where
  entries : List LedgerEntry
  indexed : entries.Pairwise fun earlier later => ¬ earlier.Clashes later

namespace Ledger

def empty : Ledger := ⟨[], List.Pairwise.nil⟩

/-- `INSERT`: refused on a unique violation. -/
def insert? (ledger : Ledger) (entry : LedgerEntry) : Option Ledger :=
  if free : ∀ earlier ∈ ledger.entries, ¬ earlier.Clashes entry then
    some ⟨ledger.entries ++ [entry], by
      refine List.pairwise_append.mpr
        ⟨ledger.indexed, List.pairwise_singleton _ _, ?_⟩
      intro earlier member later laterMember
      rw [List.mem_singleton] at laterMember
      subst laterMember
      exact free earlier member⟩
  else none

theorem insert?_eq_some {ledger next : Ledger} {entry : LedgerEntry}
    (inserted : ledger.insert? entry = some next) :
    next.entries = ledger.entries ++ [entry] ∧
      ∀ earlier ∈ ledger.entries, ¬ earlier.Clashes entry := by
  unfold insert? at inserted
  split at inserted
  · rename_i free
    cases inserted
    exact ⟨rfl, free⟩
  · cases inserted

theorem insert?_isSome {ledger : Ledger} {entry : LedgerEntry}
    (free : ∀ earlier ∈ ledger.entries, ¬ earlier.Clashes entry) :
    ∃ next, ledger.insert? entry = some next ∧
      next.entries = ledger.entries ++ [entry] := by
  unfold insert?
  rw [dif_pos free]
  exact ⟨_, rfl, rfl⟩

/-- Entries that would all clash with each other: the ledger holds one at most. -/
theorem countP_le_one (ledger : Ledger) {chosen : LedgerEntry → Bool}
    (clash : ∀ first second, chosen first → chosen second → first.Clashes second) :
    ledger.entries.countP chosen ≤ 1 := by
  have unique := ledger.indexed
  generalize ledger.entries = entries at unique
  induction entries with
  | nil => exact Nat.zero_le 1
  | cons entry rest ih =>
      obtain ⟨apart, later⟩ := List.pairwise_cons.mp unique
      by_cases hit : chosen entry = true
      · have none_later : rest.countP chosen = 0 := by
          rw [List.countP_eq_zero]
          intro other member otherHit
          exact apart other member (clash entry other hit otherHit)
        rw [List.countP_cons_of_pos hit, none_later]
      · rw [List.countP_cons_of_neg hit]
        exact ih later

end Ledger

/-! ## The database -/

structure Database where
  households : Table Household.id := Table.empty
  members : Table Member.id := Table.empty
  definitions : Table TaskDefinition.id := Table.empty
  series : Table Series.id := Table.empty
  seriesInstances : Table SeriesInstance.id := Table.empty
  instances : Table TaskInstance.id := Table.empty
  ledger : Ledger := Ledger.empty
  claims : Table Claim.id := Table.empty

/-- The clock readings of one request: `now()` of its transaction, which stamps
`created_at`, and the service's own `datetime.now(UTC)`. -/
structure Clock where
  transaction : Instant
  now : Instant
  deriving DecidableEq, Repr

/-- The exceptions of the service layer.  `dataError` is the driver's refusal of
a value outside a column's range; it is not an `IntegrityError`. -/
inductive ServiceError where
  | invalidTransition (message : String)
  | valueError (message : String)
  | duplicateLedgerEntry (message : String)
  | dataError
  | keyError
  deriving DecidableEq, Repr

/-! ## A family to evaluate the definitions on -/

def sampleHousehold : Household := { id := 1, name := "Home" }

def sampleParent : Member :=
  { id := 1, householdId := 1, role := .parent, displayName := "Parent" }

def sampleTeen : Member :=
  { id := 2, householdId := 1, role := .teen, displayName := "Teen" }

def sampleDefinition : TaskDefinition where
  id := 1
  householdId := 1
  assigneeId := 2
  title := "Dishes"
  pointValue := 10
  scheduleType := .daily
  startDate := "2025-01-01"
  createdBy := 1

def sampleTask : TaskInstance where
  id := 1
  definitionId := 1
  assigneeId := 2
  dueAt := 0
  pointValue := 10

def sampleMembers : Table Member.id :=
  ⟨[sampleParent, sampleTeen], by decide⟩

/-- The family with one definition and the given instance of it. -/
def sampleDatabase (definition : TaskDefinition) (task : TaskInstance) :
    Database where
  households := ⟨[sampleHousehold], List.nodup_singleton _⟩
  members := sampleMembers
  definitions := ⟨[definition], List.nodup_singleton _⟩
  instances := ⟨[task], List.nodup_singleton _⟩

end KidsChores.Models
