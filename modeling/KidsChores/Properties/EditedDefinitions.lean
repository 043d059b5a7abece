import KidsChores.Library.TwoRuns
import KidsChores.Properties.SweepTiming
import KidsChores.Routers.Definitions

/-!
# Edited definitions

One instance in two runs, with and without an edit of its definition before.  The due
time, the assignee and the points are on the instance; the title only gets into the
reasons of ledger entries.  `complete` still reads `requires_review` of the definition,
so the runs look alike exactly when the edit leaves it or nothing can complete the
instance any more.
-/

set_option autoImplicit false

namespace KidsChores.Properties

open KidsChores.Library
open KidsChores.Library.PyDatetime
open KidsChores.Library.PyText
open KidsChores.Library.TwoRuns
open KidsChores.Lifecycle
open KidsChores.Models
open KidsChores.Routers.Definitions
open KidsChores.Services.Ledger
open KidsChores.Services.StateMachine
open KidsChores.Session
open KidsChores.Workers.GenerateInstances

/-- What may happen to an instance later: a service call other than a reversal, or the
sweeps of a nightly job. -/
inductive LaterEvent where
  | call (clock : Clock) (actor : Member) (request : ServiceCall)
      (forward : ∀ reason, request ≠ .reverseCompletion reason)
  | sweep (clock : JobClock) (householdId : Uuid)

def sweepHousehold (clock : JobClock) (householdId : Uuid) (db : Database) : Database :=
  match db.households.find? householdId with
  | none => db
  | some household =>
      let definitionIds := (liveDefinitions db householdId).map TaskDefinition.id
      { db with
        instances := sweepMissed definitionIds household.gracePeriodHours clock.now
          (sweepOverdue definitionIds clock.dueNow db.instances) }

section Runs

variable (taskId : Uuid)

def laterStep (db : Database) : LaterEvent → Database
  | .call clock actor request _ => (callTransaction db clock actor taskId request).getD db
  | .sweep clock householdId => sweepHousehold clock householdId db

def succeeds (db : Database) : LaterEvent → Bool
  | .call clock actor request _ => (callTransaction db clock actor taskId request).isSome
  | .sweep _ _ => true

/-- What can be told of the instance and of the ledger. -/
structure Seen where
  dueAt : Option Instant
  assigneeId : Option Uuid
  pointValue : Option Int
  status : Option TaskStatus
  written : List (LedgerEntryType × Int)
  deriving DecidableEq

def seen (db : Database) : Seen where
  dueAt := (db.instances.find? taskId).map TaskInstance.dueAt
  assigneeId := (db.instances.find? taskId).map TaskInstance.assigneeId
  pointValue := (db.instances.find? taskId).map TaskInstance.pointValue
  status := (db.instances.find? taskId).map TaskInstance.status
  written := db.ledger.entries.map fun entry => (entry.entryType, entry.delta)

end Runs

/-! ## Ledgers that differ in their reasons -/

section Reasons

def unreasoned (entry : LedgerEntry) : LedgerEntry := { entry with reason := "" }

def unreasonedPosting (posting : Posting) : Posting := { posting with reason := "" }

def SameEntries (first second : Ledger) : Prop :=
  first.entries.map unreasoned = second.entries.map unreasoned

variable {ledger other posted otherPosted : Ledger} {posting otherPosting : Posting}

theorem currentBalance_unreasoned (ledger : Ledger) (memberId : Uuid) :
    currentBalance ledger memberId =
      (((ledger.entries.map unreasoned).filter fun entry => entry.memberId = memberId).map
        LedgerEntry.delta).sum := by
  simp only [List.filter_map, List.map_map]
  rfl

theorem SameEntries.balance (same : SameEntries ledger other) (memberId : Uuid) :
    currentBalance ledger memberId = currentBalance other memberId := by
  rw [currentBalance_unreasoned, currentBalance_unreasoned, same]

theorem free_unreasoned : posting.Free ledger ↔
    ∀ earlier ∈ ledger.entries.map unreasoned,
      ¬ earlier.Clashes ((unreasonedPosting posting).entry 0 0) := by
  simp [Posting.Free, LedgerEntry.Clashes, unreasoned, unreasonedPosting, Posting.entry]

theorem same_numbers
    (samePosting : unreasonedPosting posting = unreasonedPosting otherPosting) :
    posting.memberId = otherPosting.memberId ∧ posting.delta = otherPosting.delta := by
  have member := congrArg Posting.memberId samePosting
  have delta := congrArg Posting.delta samePosting
  exact ⟨member, delta⟩

theorem SameEntries.accepted (same : SameEntries ledger other)
    (samePosting : unreasonedPosting posting = unreasonedPosting otherPosting) :
    posting.Accepted ledger ↔ otherPosting.Accepted other := by
  obtain ⟨member, delta⟩ := same_numbers samePosting
  rw [Posting.accepted_iff, Posting.accepted_iff, free_unreasoned, free_unreasoned,
    samePosting, delta, member, same.balance, same]

theorem SameEntries.recorded {clock : Clock} (same : SameEntries ledger other)
    (first : record ledger clock posting = .ok posted)
    (second : record other clock otherPosting = .ok otherPosted)
    (samePosting : unreasonedPosting posting = unreasonedPosting otherPosting) :
    SameEntries posted otherPosted := by
  have member := (same_numbers samePosting).1
  have entry : ∀ balance createdAt, unreasoned (posting.entry balance createdAt) =
      unreasoned (otherPosting.entry balance createdAt) := fun balance createdAt =>
    congrArg (fun plain : Posting => plain.entry balance createdAt) samePosting
  rw [SameEntries, (record_ok first).1, (record_ok second).1, List.map_append,
    List.map_append, same, member, same.balance, List.map_singleton, List.map_singleton,
    entry]

end Reasons

/-! ## One call under two definitions -/

section Calls

variable {clock : Clock} {household : Household} {definition edited : TaskDefinition}
variable {actor : Member} {task row otherRow : TaskInstance}
variable {ledger other posted otherPosted : Ledger} {call : ServiceCall}

/-- The call does not read whether the definition asks for a review, or both definitions
say the same. -/
def Unread (definition edited : TaskDefinition) (call : ServiceCall) : Prop :=
  edited.requiresReview = definition.requiresReview ∨
    ∀ note, call ≠ .complete note

theorem passesChecks_alike (same : SameEntries ledger other)
    (unread : Unread definition edited call) :
    call.PassesChecks household definition actor task ledger ↔
      call.PassesChecks household edited actor task other := by
  cases call with
  | complete note =>
      have review := unread.resolve_right fun never => never note rfl
      simp only [ServiceCall.PassesChecks, review]
      exact or_congr Iff.rfl (same.accepted rfl)
  | review approve comment =>
      cases approve with
      | true => exact same.accepted rfl
      | false => exact Iff.rfl
  | resolveExcuse approve comment =>
      cases approve with
      | true =>
          simp only [ServiceCall.PassesChecks]
          cases household.excusedPayoutPolicy with
          | excusedPaysNothing => simp [excusePosting]
          | excusedPaysPartial | excusedPaysFull =>
              simp only [excusePosting, Option.mem_def, Option.some.injEq, forall_eq']
              exact same.accepted rfl
      | false => exact Iff.rfl
  | reverseCompletion reason => exact same.accepted rfl
  | submitExcuse | cancel => exact Iff.rfl

theorem excuses_alike (same : SameEntries ledger other)
    (first : awardExcuseIfPolicy ledger clock definition actor household task =
      .ok posted)
    (second : awardExcuseIfPolicy other clock edited actor household task =
      .ok otherPosted) : SameEntries posted otherPosted := by
  unfold awardExcuseIfPolicy at first second
  cases policy : household.excusedPayoutPolicy with
  | excusedPaysNothing =>
      simp only [policy, excusePosting] at first second
      cases first
      cases second
      exact same
  | excusedPaysPartial | excusedPaysFull =>
      simp only [policy, excusePosting] at first second
      exact same.recorded first second rfl

theorem effects_alike (same : SameEntries ledger other)
    (unread : Unread definition edited call)
    (first : CallEffect clock household definition actor task ledger call row posted)
    (second : CallEffect clock household edited actor task other call otherRow
      otherPosted) :
    otherRow = row ∧ SameEntries posted otherPosted := by
  cases first with
  | completed actionable auto paid =>
      have review := unread.resolve_right fun never => never _ rfl
      cases second with
      | completed _ _ otherPaid => exact ⟨rfl, same.recorded paid otherPaid rfl⟩
      | sentToReview _ reviewed =>
          rw [review, auto] at reviewed
          cases reviewed
  | sentToReview actionable reviewed =>
      have review := unread.resolve_right fun never => never _ rfl
      cases second with
      | completed _ auto _ =>
          rw [review, reviewed] at auto
          cases auto
      | sentToReview => exact ⟨rfl, same⟩
  | excusedWhilePending pending =>
      cases second with
      | excusedWhilePending => exact ⟨rfl, same⟩
      | excusedWhileOverdue overdue =>
          rw [pending] at overdue
          cases overdue
  | excusedWhileOverdue overdue =>
      cases second with
      | excusedWhilePending pending =>
          rw [overdue] at pending
          cases pending
      | excusedWhileOverdue => exact ⟨rfl, same⟩
  | approved inReview paid =>
      cases second with
      | approved _ otherPaid => exact ⟨rfl, same.recorded paid otherPaid rfl⟩
  | deniedBeforeDue inReview said early =>
      cases second with
      | deniedBeforeDue => exact ⟨rfl, same⟩
      | deniedAfterDue _ _ late => exact absurd early (Int.not_lt.mpr late)
  | deniedAfterDue inReview said late =>
      cases second with
      | deniedBeforeDue _ _ early => exact absurd early (Int.not_lt.mpr late)
      | deniedAfterDue => exact ⟨rfl, same⟩
  | excuseApproved submitted paid =>
      cases second with
      | excuseApproved _ otherPaid => exact ⟨rfl, excuses_alike same paid otherPaid⟩
  | excuseDeniedInGrace submitted said remaining =>
      cases second with
      | excuseDeniedInGrace => exact ⟨rfl, same⟩
      | excuseDeniedExpired _ _ expired => exact absurd remaining (Int.not_lt.mpr expired)
  | excuseDeniedExpired submitted said expired =>
      cases second with
      | excuseDeniedInGrace _ _ remaining =>
          exact absurd remaining (Int.not_lt.mpr expired)
      | excuseDeniedExpired => exact ⟨rfl, same⟩
  | cancelled =>
      cases second with
      | cancelled => exact ⟨rfl, same⟩
  | reversedBeforeDue done early posting =>
      cases second with
      | reversedBeforeDue _ _ other => exact ⟨rfl, same.recorded posting other rfl⟩
      | reversedAfterDue _ late _ => exact absurd early (Int.not_lt.mpr late)
  | reversedAfterDue done late posting =>
      cases second with
      | reversedBeforeDue _ early _ => exact absurd early (Int.not_lt.mpr late)
      | reversedAfterDue _ _ other => exact ⟨rfl, same.recorded posting other rfl⟩

theorem run_alike (same : SameEntries ledger other)
    (unread : call.Accepts task.status → Unread definition edited call) :
    ((∃ raised, call.run clock household definition actor task ledger = .error raised) ∧
        ∃ raised, call.run clock household edited actor task other = .error raised) ∨
      ∃ row posted otherPosted,
        call.run clock household definition actor task ledger = .ok (row, posted) ∧
        call.run clock household edited actor task other = .ok (row, otherPosted) ∧
        SameEntries posted otherPosted := by
  by_cases passes : call.Accepts task.status ∧
      call.PassesChecks household definition actor task ledger
  · have runs : ∃ row posted, call.run clock household definition actor task ledger =
        .ok (row, posted) := run_isOk_iff.mpr passes
    have otherRuns : ∃ row posted, call.run clock household edited actor task other =
        .ok (row, posted) :=
      run_isOk_iff.mpr
        ⟨passes.1, (passesChecks_alike same (unread passes.1)).mp passes.2⟩
    obtain ⟨row, posted, first⟩ := runs
    obtain ⟨otherRow, otherPosted, second⟩ := otherRuns
    obtain ⟨sameRow, entries⟩ :=
      effects_alike same (unread passes.1) (run_effect first) (run_effect second)
    rw [sameRow] at second
    exact Or.inr ⟨row, posted, otherPosted, first, second, entries⟩
  · have fails : ¬ (call.Accepts task.status ∧
        call.PassesChecks household edited actor task other) := fun both =>
      passes ⟨both.1, (passesChecks_alike same (unread both.1)).mpr both.2⟩
    exact Or.inl ⟨run_error_iff.mpr passes, run_error_iff.mpr fails⟩

end Calls

/-! ## The two databases -/

/-- The second database has the definition as edited; the ledgers may differ in their
reasons, nothing else differs. -/
structure Edited (household : Household) (definition edited : TaskDefinition)
    (db next : Database) : Prop where
  definitions : next.definitions = db.definitions.save edited
  stored : db.definitions.find? definition.id = some definition
  same : SameDefinition definition edited
  households : next.households = db.households
  home : db.households.find? definition.householdId = some household
  instances : next.instances = db.instances
  ledger : SameEntries db.ledger next.ledger

section Steps

variable {household : Household} {definition edited : TaskDefinition}
variable {db next : Database} {taskId : Uuid} {task : TaskInstance}

theorem Edited.loads (related : Edited household definition edited db next)
    (found : db.instances.find? taskId = some task)
    (own : task.definitionId = definition.id) :
    load? db taskId = some ⟨household, definition, task⟩ ∧
      load? next taskId = some ⟨household, edited, task⟩ := by
  have after : next.definitions.find? definition.id = some edited := by
    rw [related.definitions]
    exact Table.find?_save_same related.stored related.same.id
  constructor
  · simp [load?, found, own, related.stored, related.home]
  · simp [load?, related.instances, found, own, after, related.households,
      related.same.householdId, related.home]

theorem Edited.called (related : Edited household definition edited db next)
    {row : TaskInstance} {posted otherPosted : Ledger}
    (entries : SameEntries posted otherPosted) :
    Edited household definition edited (storeCall db row posted)
      (storeCall next row otherPosted) :=
  ⟨related.definitions, related.stored, related.same, related.households, related.home,
    by rw [storeCall, storeCall, related.instances], entries⟩

theorem Edited.transactions (related : Edited household definition edited db next)
    (found : db.instances.find? taskId = some task)
    (own : task.definitionId = definition.id) (clock : Clock) (actor : Member)
    {call : ServiceCall}
    (unread : call.Accepts task.status → Unread definition edited call) :
    (callTransaction db clock actor taskId call = none ∧
        callTransaction next clock actor taskId call = none) ∨
      ∃ row posted otherPosted,
        CallEffect clock household definition actor task db.ledger call row posted ∧
        callTransaction db clock actor taskId call = some (storeCall db row posted) ∧
        callTransaction next clock actor taskId call =
          some (storeCall next row otherPosted) ∧
        SameEntries posted otherPosted := by
  obtain ⟨loads, otherLoads⟩ := related.loads found own
  simp only [callTransaction, loads, otherLoads]
  rcases run_alike related.ledger unread with
    ⟨⟨raised, first⟩, otherRaised, second⟩ | ⟨row, posted, otherPosted, first, second,
      entries⟩
  · rw [first, second]
    exact Or.inl ⟨rfl, rfl⟩
  · rw [first, second]
    exact Or.inr ⟨row, posted, otherPosted, run_effect first, rfl, rfl, entries⟩

theorem Edited.liveIds (related : Edited household definition edited db next)
    (householdId : Uuid) :
    (liveDefinitions next householdId).map TaskDefinition.id =
      (liveDefinitions db householdId).map TaskDefinition.id := by
  have same := related.same
  have whole : ∀ old ∈ db.definitions.rows, old.id = edited.id → old = definition := by
    intro old member hit
    exact db.definitions.row_unique member (Table.mem_of_find? related.stored)
      (hit.trans same.id)
  have rows : (liveDefinitions next householdId) =
      (liveDefinitions db householdId).map fun old =>
        if old.id = edited.id then edited else old := by
    simp only [liveDefinitions, related.definitions, Table.save, List.filter_map]
    congr 1
    apply List.filter_congr
    intro old member
    by_cases hit : old.id = edited.id
    · rw [whole old member hit]
      simp [same.id, same.householdId, same.archivedAt]
    · simp [hit]
  rw [rows, List.map_map]
  apply List.map_congr_left
  intro old _
  by_cases hit : old.id = edited.id
  · simp [hit]
  · simp [hit]

theorem Edited.swept (related : Edited household definition edited db next)
    (clock : JobClock) (householdId : Uuid) :
    Edited household definition edited (sweepHousehold clock householdId db)
      (sweepHousehold clock householdId next) := by
  cases found : db.households.find? householdId with
  | none =>
      have otherFound := related.households ▸ found
      simp only [sweepHousehold, found, otherFound]
      exact related
  | some owner =>
      have otherFound := related.households ▸ found
      simp only [sweepHousehold, found, otherFound]
      refine ⟨related.definitions, related.stored, related.same, related.households,
        related.home, ?_, related.ledger⟩
      simp only [related.liveIds, related.instances]

/-- Nothing can complete the instance any more: it is decided, or it waits for the
decision of an excuse and has used up its grace. -/
def Shut (household : Household) (task : TaskInstance) : Prop :=
  task.status ∈ [.complete, .excused, .missed, .cancelled] ∨
    task.status = .excusePending ∧
      timedeltaHours household.gracePeriodHours ≤ timedeltaSeconds task.graceElapsedSeconds

instance (household : Household) (task : TaskInstance) : Decidable (Shut household task) :=
  inferInstanceAs (Decidable (_ ∨ _ ∧ _))

theorem decided_closed {status : TaskStatus}
    (decided : status ∈ [TaskStatus.complete, .excused, .missed, .cancelled]) :
    ¬ Actionable status ∧ status ≠ .reviewPending ∧ status ≠ .excusePending := by
  cases status <;> revert decided <;> decide

/-- The one call a shut instance takes is the decision of its excuse. -/
theorem Shut.decides (shut : Shut household task) {call : ServiceCall}
    (accepts : call.Accepts task.status)
    (forward : ∀ reason, call ≠ .reverseCompletion reason) :
    (∃ approve comment, call = .resolveExcuse approve comment) ∧
      timedeltaHours household.gracePeriodHours ≤
        timedeltaSeconds task.graceElapsedSeconds := by
  rcases shut with decided | ⟨submitted, spent⟩
  · exfalso
    obtain ⟨closed, notReview, notExcuse⟩ := decided_closed decided
    cases call with
    | complete | submitExcuse | cancel => exact closed accepts
    | review => exact notReview accepts
    | resolveExcuse => exact notExcuse accepts
    | reverseCompletion reason => exact forward reason rfl
  · refine ⟨?_, spent⟩
    cases call with
    | resolveExcuse approve comment => exact ⟨approve, comment, rfl⟩
    | complete | submitExcuse | cancel =>
        rw [submitted] at accepts
        rcases accepts with other | other <;> cases other
    | review | reverseCompletion =>
        rw [submitted] at accepts
        cases accepts

theorem Shut.called (shut : Shut household task) {clock : Clock} {actor : Member}
    {call : ServiceCall} {row : TaskInstance} {ledger posted : Ledger}
    (forward : ∀ reason, call ≠ .reverseCompletion reason)
    (effect : CallEffect clock household definition actor task ledger call row posted) :
    Shut household row := by
  obtain ⟨⟨approve, comment, rfl⟩, spent⟩ := shut.decides effect.accepts forward
  cases effect with
  | excuseApproved => exact Or.inl (by simp)
  | excuseDeniedExpired => exact Or.inl (by simp)
  | excuseDeniedInGrace submitted said remaining =>
      exfalso
      rw [graceRemaining_resumed] at remaining
      dsimp only [Instant, Timedelta] at *
      omega

theorem Shut.swept (shut : Shut household task) {definitionIds : List Uuid} {hours : Int}
    {clock : JobClock} {row : TaskInstance}
    (effect : SweepEffect definitionIds hours clock task row) : row = task := by
  have closed : ¬ Actionable task.status := by
    rcases shut with decided | ⟨submitted, _⟩
    · exact (decided_closed decided).1
    · rw [submitted]
      decide
  cases effect with
  | unchanged => rfl
  | overdue pending => exact absurd (Or.inl pending) closed
  | missed open_ => exact absurd open_ closed

theorem sweepHousehold_row (clock : JobClock) (householdId : Uuid)
    (found : db.instances.find? taskId = some task) :
    ∃ row, (sweepHousehold clock householdId db).instances.find? taskId = some row ∧
      ∃ definitionIds hours, SweepEffect definitionIds hours clock task row := by
  obtain ⟨stored, sameId⟩ := Table.find?_eq_some_iff.mp found
  cases owner : db.households.find? householdId with
  | none =>
      simp only [sweepHousehold, owner]
      exact ⟨task, found, [], 0, .unchanged⟩
  | some household =>
      simp only [sweepHousehold, owner]
      have effect := sweepRow_effect ((liveDefinitions db householdId).map TaskDefinition.id)
        household.gracePeriodHours clock task
      exact ⟨_, Table.find?_eq_some_iff.mpr ⟨mem_sweeps.mpr ⟨task, stored, rfl⟩,
        effect.sameTask.id.trans sameId⟩, _, _, effect⟩

/-! ## Runs that look alike -/

/-- The databases of the two runs, and why no later call tells them apart. -/
def Indistinct (household : Household) (definition edited : TaskDefinition)
    (taskId : Uuid) (db next : Database) : Prop :=
  Edited household definition edited db next ∧
    ∃ task, db.instances.find? taskId = some task ∧ task.definitionId = definition.id ∧
      (edited.requiresReview = definition.requiresReview ∨ Shut household task)

theorem Indistinct.seen_eq (indistinct : Indistinct household definition edited taskId db next) :
    seen taskId db = seen taskId next := by
  obtain ⟨related, _⟩ := indistinct
  have written : db.ledger.entries.map (fun entry => (entry.entryType, entry.delta)) =
      next.ledger.entries.map fun entry => (entry.entryType, entry.delta) := by
    have plain := congrArg (List.map fun entry : LedgerEntry =>
      (entry.entryType, entry.delta)) related.ledger
    rw [List.map_map, List.map_map] at plain
    exact plain
  simp only [seen, related.instances, written]

theorem Indistinct.call (indistinct : Indistinct household definition edited taskId db next)
    {clock : Clock} {actor : Member} {request : ServiceCall}
    (forward : ∀ reason, request ≠ .reverseCompletion reason) :
    succeeds taskId db (.call clock actor request forward) =
        succeeds taskId next (.call clock actor request forward) ∧
      Indistinct household definition edited taskId
        (laterStep taskId db (.call clock actor request forward))
        (laterStep taskId next (.call clock actor request forward)) := by
  obtain ⟨related, task, found, own, closed⟩ := indistinct
  have unread : request.Accepts task.status → Unread definition edited request := by
    intro accepts
    refine closed.imp id fun shut note => ?_
    obtain ⟨⟨approve, comment, rfl⟩, _⟩ := shut.decides accepts forward
    exact nofun
  simp only [succeeds, laterStep]
  rcases related.transactions found own clock actor unread with
    ⟨first, second⟩ | ⟨row, posted, otherPosted, effect, first, second, entries⟩
  · rw [first, second]
    exact ⟨rfl, related, task, found, own, closed⟩
  · rw [first, second]
    have same := effect.sameTask
    have rowFound : (storeCall db row posted).instances.find? taskId = some row :=
      Table.find?_save_same found (same.id.trans (Table.key_of_find? found))
    exact ⟨rfl, related.called entries, row, rowFound, same.definitionId.trans own,
      closed.imp id fun shut => shut.called forward effect⟩

theorem Indistinct.swept (indistinct : Indistinct household definition edited taskId db next)
    (clock : JobClock) (householdId : Uuid) :
    Indistinct household definition edited taskId (sweepHousehold clock householdId db)
      (sweepHousehold clock householdId next) := by
  obtain ⟨related, task, found, own, closed⟩ := indistinct
  obtain ⟨row, rowFound, definitionIds, hours, effect⟩ :=
    sweepHousehold_row clock householdId found
  refine ⟨related.swept clock householdId, row, rowFound,
    effect.sameTask.definitionId.trans own, closed.imp id fun shut => ?_⟩
  rw [shut.swept effect]
  exact shut

theorem Indistinct.lookAlike
    (indistinct : Indistinct household definition edited taskId db next)
    (events : List LaterEvent) :
    LookAlike (laterStep taskId) (succeeds taskId) (seen taskId) db next events := by
  refine lookAlike_of_related (Indistinct household definition edited taskId)
    (fun _ _ related => related.seen_eq) (fun _ _ event related => ?_)
    (fun _ _ event related => ?_) indistinct events
  · cases event with
    | call clock actor request forward => exact (related.call forward).1
    | sweep clock householdId => rfl
  · cases event with
    | call clock actor request forward => exact (related.call forward).2
    | sweep clock householdId => exact related.swept clock householdId

/-! ## Runs that do not -/

def completion : LaterEvent := .call ⟨0, 0⟩ sampleParent (.complete none) nofun

theorem seen_status {row : TaskInstance} {posted : Ledger}
    (found : db.instances.find? taskId = some task) (sameId : row.id = task.id) :
    (seen taskId (storeCall db row posted)).status = some row.status := by
  have saved : (storeCall db row posted).instances.find? taskId = some row :=
    Table.find?_save_same found (sameId.trans (Table.key_of_find? found))
  rw [seen, saved]
  rfl

theorem completion_reviewed (loads : load? db taskId = some ⟨household, definition, task⟩)
    (actionable : Actionable task.status) (reviewed : definition.requiresReview = true) :
    (seen taskId (laterStep taskId db completion)).status = some .reviewPending := by
  have returns : ∃ row posted, (ServiceCall.complete none).run ⟨0, 0⟩ household definition
      sampleParent task db.ledger = .ok (row, posted) :=
    run_isOk_iff.mpr ⟨actionable, Or.inl reviewed⟩
  obtain ⟨row, posted, ran⟩ := returns
  have effect := run_effect ran
  have sent : row.status = .reviewPending := by
    cases effect with
    | completed _ auto =>
        rw [reviewed] at auto
        cases auto
    | sentToReview => rfl
  simp only [completion, laterStep, callTransaction, loads, ran, Option.getD_some]
  rw [seen_status (load?_ok loads).1 effect.sameTask.id, sent]

theorem completion_unreviewed
    (loads : load? db taskId = some ⟨household, definition, task⟩)
    (actionable : Actionable task.status) (auto : definition.requiresReview = false) :
    (seen taskId (laterStep taskId db completion)).status ≠ some .reviewPending := by
  have found := (load?_ok loads).1
  simp only [completion, laterStep, callTransaction, loads]
  split
  · rw [Option.getD_none, seen, found]
    exact fun waiting => actionable.ne (by decide) (Option.some.inj waiting)
  · rename_i row posted ran
    have effect := run_effect ran
    rw [Option.getD_some, seen_status found effect.sameTask.id]
    cases effect with
    | completed => exact nofun
    | sentToReview _ reviewed =>
        rw [auto] at reviewed
        cases reviewed

theorem told_apart_actionable (related : Edited household definition edited db next)
    (found : db.instances.find? taskId = some task)
    (own : task.definitionId = definition.id)
    (differs : edited.requiresReview ≠ definition.requiresReview)
    (actionable : Actionable task.status) :
    ¬ ∀ events, LookAlike (laterStep taskId) (succeeds taskId) (seen taskId) db next
      events := by
  intro alike
  obtain ⟨loads, otherLoads⟩ := related.loads found own
  have same := congrArg Seen.status (lookAlike_after alike completion []).view_eq
  cases review : definition.requiresReview with
  | true =>
      have auto : edited.requiresReview = false := by
        rw [review] at differs
        simpa using differs
      rw [completion_reviewed loads actionable review] at same
      exact completion_unreviewed otherLoads actionable auto same.symm
  | false =>
      have reviewed : edited.requiresReview = true := by
        rw [review] at differs
        simpa using differs
      rw [completion_reviewed otherLoads actionable reviewed] at same
      exact completion_unreviewed loads actionable review same

/-- A call that leaves the instance open again, and a completion after it. -/
theorem told_apart_reopened (related : Edited household definition edited db next)
    (found : db.instances.find? taskId = some task)
    (own : task.definitionId = definition.id)
    (differs : edited.requiresReview ≠ definition.requiresReview) (clock : Clock)
    (actor : Member) (request : ServiceCall)
    (forward : ∀ reason, request ≠ .reverseCompletion reason)
    (other : ∀ note, request ≠ .complete note)
    (accepts : request.Accepts task.status)
    (passes : request.PassesChecks household definition actor task db.ledger)
    (reopens : ∀ row posted, CallEffect clock household definition actor task db.ledger
      request row posted → Actionable row.status) :
    ¬ ∀ events, LookAlike (laterStep taskId) (succeeds taskId) (seen taskId) db next
      events := by
  intro alike
  have after := lookAlike_after alike (.call clock actor request forward)
  simp only [laterStep] at after
  rcases related.transactions found own clock actor (fun _ => Or.inr other) with
    ⟨failed, _⟩ | ⟨row, posted, otherPosted, effect, first, second, entries⟩
  · have returns : ∃ row posted, request.run clock household definition actor task
        db.ledger = .ok (row, posted) := run_isOk_iff.mpr ⟨accepts, passes⟩
    obtain ⟨row, posted, ran⟩ := returns
    simp only [callTransaction, (related.loads found own).1, ran] at failed
    cases failed
  · rw [first, second] at after
    have same := effect.sameTask
    have rowFound : (storeCall db row posted).instances.find? taskId = some row :=
      Table.find?_save_same found (same.id.trans (Table.key_of_find? found))
    exact told_apart_actionable (related.called entries) rowFound
      (same.definitionId.trans own) differs (reopens row posted effect) after

theorem open_cases (open_ : ¬ Shut household task) :
    Actionable task.status ∨ task.status = .reviewPending ∨
      task.status = .excusePending ∧ timedeltaSeconds task.graceElapsedSeconds <
        timedeltaHours household.gracePeriodHours := by
  unfold Shut at open_
  rw [not_or, not_and, Int.not_le] at open_
  obtain ⟨undecided, left⟩ := open_
  cases status : task.status with
  | pending => exact Or.inl (Or.inl rfl)
  | overdue => exact Or.inl (Or.inr rfl)
  | reviewPending => exact Or.inr (Or.inl rfl)
  | excusePending => exact Or.inr (Or.inr ⟨rfl, left status⟩)
  | complete | excused | missed | cancelled =>
      rw [status] at undecided
      exact absurd (by decide) undecided

theorem told_apart (related : Edited household definition edited db next)
    (found : db.instances.find? taskId = some task)
    (own : task.definitionId = definition.id)
    (differs : edited.requiresReview ≠ definition.requiresReview)
    (open_ : ¬ Shut household task) :
    ¬ ∀ events, LookAlike (laterStep taskId) (succeeds taskId) (seen taskId) db next
      events := by
  have said : truthy (some "no") = true := by decide
  rcases open_cases open_ with actionable | inReview | ⟨submitted, left⟩
  · exact told_apart_actionable related found own differs actionable
  · refine told_apart_reopened related found own differs ⟨0, 0⟩ sampleParent
      (.review false (some "no")) nofun nofun inReview said fun row posted effect => ?_
    cases effect with
    | deniedBeforeDue => exact Or.inl rfl
    | deniedAfterDue => exact Or.inr rfl
  · -- the moment at which the grace counted so far is what has passed since the due time
    refine told_apart_reopened related found own differs
      ⟨0, task.dueAt + timedeltaSeconds task.graceElapsedSeconds⟩ sampleParent
      (.resolveExcuse false (some "no")) nofun nofun submitted said
      fun row posted effect => ?_
    cases effect with
    | excuseDeniedInGrace => exact Or.inr rfl
    | excuseDeniedExpired _ _ expired =>
        exfalso
        rw [graceRemaining_resumed] at expired
        dsimp only [Instant, Timedelta] at *
        omega

end Steps

/-! ## The edit -/

def EditUnread (db : Database) (request : UpdateDefinition) (taskId : Uuid) : Prop :=
  ∀ loaded ∈ load? db taskId,
    (∀ requiresReview ∈ request.body.requiresReview,
      requiresReview = loaded.definition.requiresReview) ∨
      Shut loaded.household loaded.task

instance (db : Database) (request : UpdateDefinition) (taskId : Uuid) :
    Decidable (EditUnread db request taskId) :=
  inferInstanceAs (Decidable (∀ loaded ∈ load? db taskId, _ ∨ _))

theorem updateDefinition_edited {request : UpdateDefinition} {db next : Database}
    (updated : updateDefinition request db = .ok next) :
    ∃ household definition edited, definition.id = request.definitionId ∧
      edited.requiresReview =
        request.body.requiresReview.getD definition.requiresReview ∧
      Edited household definition edited db next := by
  obtain ⟨household, definition, edited, home, found, applied, rfl⟩ :=
    updateDefinition_edit updated
  have own : definition.id = request.definitionId := Table.key_of_find? found
  exact ⟨household, definition, edited, own, edit?_requiresReview applied,
    ⟨rfl, by rw [own]; exact found, edit?_same applied, rfl, home, rfl, rfl⟩⟩

/-- A pending instance of a definition that asks for no review. -/
def dishes : Database := sampleDatabase sampleDefinition sampleTask

/-- The points are edited, and the instance keeps its own. -/
def repriced : UpdateDefinition where
  memberId := 1
  definitionId := 1
  body := {
    pointValue := some 50
    titleLength := title_unset
    pointRange := by decide
    duePattern := due_unset }

/-- The definition asks for a review from now on. -/
def reviewed : UpdateDefinition where
  memberId := 1
  definitionId := 1
  body := {
    requiresReview := some true
    titleLength := title_unset
    pointRange := points_unset
    duePattern := due_unset }

end KidsChores.Properties
