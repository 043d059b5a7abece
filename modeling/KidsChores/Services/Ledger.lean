import KidsChores.Library.PyText
import KidsChores.Models

/-!
# Ledger service

`app/services/ledger.py`.  Every writer reads the member's balance, builds one
entry from it and hands it to `_write`; they differ only in what they post, so
each is `record` applied to its own posting.
-/

set_option autoImplicit false

namespace KidsChores.Services.Ledger

open KidsChores.Models
open KidsChores.Library.PyDatetime
open KidsChores.Library.PyText

/-- `SUM(delta)` over the member's entries. -/
def currentBalance (ledger : Ledger) (memberId : Uuid) : Int :=
  ((ledger.entries.filter fun entry => entry.memberId = memberId).map
    LedgerEntry.delta).sum

/-- `delta` and `balance_after` are `Integer` columns. -/
def FitsInteger (value : Int) : Prop := -2147483648 ≤ value ∧ value ≤ 2147483647

instance (value : Int) : Decidable (FitsInteger value) :=
  inferInstanceAs (Decidable (_ ∧ _))

/-- `_write`: a unique violation becomes `DuplicateLedgerEntryError`, after a
rollback of the whole session. -/
def write (ledger : Ledger) (entry : LedgerEntry) : Except ServiceError Ledger :=
  if FitsInteger entry.delta ∧ FitsInteger entry.balanceAfter then
    match ledger.insert? entry with
    | some next => .ok next
    | none => .error (.duplicateLedgerEntry
        ("A ledger entry of type '" ++ entry.entryType.value ++
          "' already exists for this task/series instance. " ++
          "Points were already awarded."))
  else .error .dataError

/-- What a writer decides about its entry before it knows the balance. -/
structure Posting where
  memberId : Uuid
  delta : Int
  entryType : LedgerEntryType
  taskInstanceId : Option Uuid := none
  seriesInstanceId : Option Uuid := none
  claimId : Option Uuid := none
  reason : String
  createdBy : Uuid
  deriving DecidableEq, Repr

def Posting.entry (posting : Posting) (balance : Int) (createdAt : Instant) :
    LedgerEntry where
  memberId := posting.memberId
  delta := posting.delta
  balanceAfter := balance + posting.delta
  entryType := posting.entryType
  taskInstanceId := posting.taskInstanceId
  seriesInstanceId := posting.seriesInstanceId
  claimId := posting.claimId
  reason := posting.reason
  createdBy := posting.createdBy
  createdAt := createdAt

def record (ledger : Ledger) (clock : Clock) (posting : Posting) :
    Except ServiceError Ledger :=
  write ledger
    (posting.entry (currentBalance ledger posting.memberId) clock.transaction)

/-! ## Task instances -/

def taskCompletedPosting (definition : TaskDefinition) (actor : Member)
    (task : TaskInstance) : Posting where
  memberId := task.assigneeId
  delta := task.pointValue
  entryType := .taskCompleted
  taskInstanceId := some task.id
  reason := "Completed: " ++ definition.title
  createdBy := actor.id

def awardTaskCompletion (ledger : Ledger) (clock : Clock)
    (definition : TaskDefinition) (actor : Member) (task : TaskInstance) :
    Except ServiceError Ledger :=
  record ledger clock (taskCompletedPosting definition actor task)

/-- Full pay goes in under `task_completed`, so it shares that entry's index
key. -/
def excusePosting (definition : TaskDefinition) (actor : Member)
    (policy : ExcusedPayoutPolicy) (task : TaskInstance) : Option Posting :=
  match policy with
  | .excusedPaysNothing => none
  | .excusedPaysPartial => some {
      memberId := task.assigneeId
      delta := task.pointValue / 2
      entryType := .excusedPartial
      taskInstanceId := some task.id
      reason := "Excused (50%): " ++ definition.title
      createdBy := actor.id }
  | .excusedPaysFull => some {
      memberId := task.assigneeId
      delta := task.pointValue
      entryType := .taskCompleted
      taskInstanceId := some task.id
      reason := "Excused (full): " ++ definition.title
      createdBy := actor.id }

def awardExcuseIfPolicy (ledger : Ledger) (clock : Clock)
    (definition : TaskDefinition) (actor : Member) (household : Household)
    (task : TaskInstance) : Except ServiceError Ledger :=
  match excusePosting definition actor household.excusedPayoutPolicy task with
  | none => .ok ledger
  | some posting => record ledger clock posting

def reversalPosting (actor : Member) (reason : String) (task : TaskInstance) :
    Posting where
  memberId := task.assigneeId
  delta := -task.pointValue
  entryType := .reversal
  taskInstanceId := some task.id
  reason := "Reversal: " ++ reason
  createdBy := actor.id

def writeReversal (ledger : Ledger) (clock : Clock) (actor : Member)
    (reason : String) (task : TaskInstance) : Except ServiceError Ledger :=
  record ledger clock (reversalPosting actor reason task)

/-! ## Series, claims and adjustments -/

/-- The one entry either payout mode writes for a window. -/
def seriesPosting (seriesInstance : SeriesInstance) (memberId : Uuid)
    (actor : Member) (points : Int) (reason : String) : Posting where
  memberId := memberId
  delta := points
  entryType := .seriesBonus
  seriesInstanceId := some seriesInstance.id
  reason := reason
  createdBy := actor.id

def awardSeriesBonus (ledger : Ledger) (clock : Clock) (series : Series)
    (seriesInstance : SeriesInstance) (memberId : Uuid) (actor : Member)
    (bonusPoints : Int) : Except ServiceError Ledger :=
  record ledger clock (seriesPosting seriesInstance memberId actor bonusPoints
    ("Series bonus: " ++ series.name))

def awardAllOrNothingSeries (ledger : Ledger) (clock : Clock) (series : Series)
    (seriesInstance : SeriesInstance) (memberId : Uuid) (actor : Member)
    (totalPoints : Int) : Except ServiceError Ledger :=
  record ledger clock (seriesPosting seriesInstance memberId actor totalPoints
    ("Series complete (all-or-nothing): " ++ series.name))

def fulfilClaimPosting (claim : Claim) (actor : Member) : Posting where
  memberId := claim.memberId
  delta := -claim.points
  entryType := .claimFulfilled
  claimId := some claim.id
  reason := "Claim fulfilled: " ++ claim.requestedItem
  createdBy := actor.id

def fulfilClaim (ledger : Ledger) (clock : Clock) (claim : Claim)
    (actor : Member) : Except ServiceError Ledger :=
  record ledger clock (fulfilClaimPosting claim actor)

def manualAdjustmentPosting (memberId : Uuid) (delta : Int) (reason : String)
    (actor : Member) : Posting where
  memberId := memberId
  delta := delta
  entryType := .manualAdjustment
  reason := reason
  createdBy := actor.id

def manualAdjustment (ledger : Ledger) (clock : Clock) (memberId : Uuid)
    (delta : Int) (reason : String) (actor : Member) : Except ServiceError Ledger :=
  if strip reason = [] then
    .error (.valueError "A reason is required for manual adjustments.")
  else record ledger clock (manualAdjustmentPosting memberId delta reason actor)

/-! ## What a writer leaves behind -/

/-- A successful write appends its entry and found no other entry under the
same index key. -/
theorem write_ok {ledger next : Ledger} {entry : LedgerEntry}
    (written : write ledger entry = .ok next) :
    next.entries = ledger.entries ++ [entry] ∧
      ∀ earlier ∈ ledger.entries, ¬ earlier.Clashes entry := by
  unfold write at written
  split at written
  · cases inserted : ledger.insert? entry with
    | none =>
        rw [inserted] at written
        cases written
    | some result =>
        rw [inserted] at written
        cases written
        exact Ledger.insert?_eq_some inserted
  · cases written

theorem record_ok {ledger next : Ledger} {clock : Clock} {posting : Posting}
    (recorded : record ledger clock posting = .ok next) :
    next.entries = ledger.entries ++
        [posting.entry (currentBalance ledger posting.memberId)
          clock.transaction] ∧
      ∀ earlier ∈ ledger.entries, ¬ earlier.Clashes
        (posting.entry (currentBalance ledger posting.memberId)
          clock.transaction) :=
  write_ok recorded

/-! ## When a writer succeeds -/

/-- No entry has the posting's key in one of the unique indexes. -/
def Posting.Free (posting : Posting) (ledger : Ledger) : Prop :=
  ∀ earlier ∈ ledger.entries, ¬ earlier.Clashes (posting.entry 0 0)

instance (posting : Posting) (ledger : Ledger) : Decidable (posting.Free ledger) :=
  inferInstanceAs (Decidable (∀ earlier ∈ ledger.entries, _))

/-- The ledger takes the posting: its numbers fit their columns, and its index
key is free. -/
structure Posting.Accepted (posting : Posting) (ledger : Ledger) : Prop where
  fits : FitsInteger posting.delta
  balanceFits :
    FitsInteger (currentBalance ledger posting.memberId + posting.delta)
  free : posting.Free ledger

theorem Posting.accepted_iff {posting : Posting} {ledger : Ledger} :
    posting.Accepted ledger ↔ FitsInteger posting.delta ∧
      FitsInteger (currentBalance ledger posting.memberId + posting.delta) ∧
        posting.Free ledger :=
  ⟨fun ⟨fits, balanceFits, free⟩ => ⟨fits, balanceFits, free⟩,
    fun ⟨fits, balanceFits, free⟩ => ⟨fits, balanceFits, free⟩⟩

instance (posting : Posting) (ledger : Ledger) :
    Decidable (posting.Accepted ledger) :=
  decidable_of_iff _ Posting.accepted_iff.symm

theorem record_isOk_iff {ledger : Ledger} {clock : Clock} {posting : Posting} :
    (∃ next, record ledger clock posting = .ok next) ↔ posting.Accepted ledger := by
  rw [Posting.accepted_iff]
  constructor
  · rintro ⟨next, recorded⟩
    have free := (record_ok recorded).2
    unfold record write at recorded
    split at recorded
    · rename_i fits
      exact ⟨fits.1, fits.2, free⟩
    · cases recorded
  · rintro ⟨fits, balanceFits, free⟩
    obtain ⟨next, inserted, _⟩ := @Ledger.insert?_isSome _ (posting.entry
      (currentBalance ledger posting.memberId) clock.transaction) free
    refine ⟨next, ?_⟩
    unfold record write
    split
    · rw [inserted]
    · rename_i misfit
      exact (misfit ⟨fits, balanceFits⟩).elim

end KidsChores.Services.Ledger
