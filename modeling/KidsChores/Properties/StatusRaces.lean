import KidsChores.Interleaving
import KidsChores.Properties.GraceClock
import KidsChores.Properties.LedgerAgreement

/-!
# Races on the status of an instance

Every writer checks the status it read, not the one it overwrites.  A schedule
in which each commit finds a status its own check would still accept loses no
update; a schedule that breaks this can overwrite any status, and leaves points
behind that were paid for it.
-/

set_option autoImplicit false

namespace KidsChores.Properties

open KidsChores.Models
open KidsChores.Library
open KidsChores.Library.PyDatetime
open KidsChores.Library.ReadCommitted
open KidsChores.Library.Runs
open KidsChores.Services.StateMachine
open KidsChores.Lifecycle
open KidsChores.Interleaving
open KidsChores.Session

abbrev TaskView := Option TaskInstance × List Posted

/-- A status changes only as the transition table offers, and a terminal one not
at all. -/
def LegalMove (old new : TaskView) : Prop :=
  ∀ row ∈ old.1, ∃ next ∈ new.1,
    (next.status = row.status ∨ Offered row.status next.status) ∧
      (row.status ∈ terminalStates → next.status = row.status)

instance (old new : TaskView) : Decidable (LegalMove old new) := by
  unfold LegalMove
  infer_instance

/-- A missed or cancelled instance keeps no completion's points unreversed. -/
def PointsReturned (view : TaskView) : Prop :=
  ∀ row ∈ view.1, row.status = .missed ∨ row.status = .cancelled →
    ∀ posted ∈ view.2, posted.1 = .taskCompleted →
      (LedgerEntryType.reversal, -posted.2) ∈ view.2

instance (view : TaskView) : Decidable (PointsReturned view) := by
  unfold PointsReturned
  infer_instance

abbrev RaceConfig (Id : Type) := Config Id Uuid (Option Loaded) Database

section Schedules

variable {Id : Type} [DecidableEq Id]

def raceStep (writers : Id → Writer) : RaceConfig Id → Id → RaceConfig Id :=
  step fun id => (writers id).transaction

def LegalStep (writers : Id → Writer) (config : RaceConfig Id) (id : Id) : Prop :=
  ∀ taskId, LegalMove (taskView taskId config.store)
    (taskView taskId (raceStep writers config id).store)

def NoPointsLost (config : RaceConfig Id) : Prop :=
  ∀ taskId, PointsReturned (taskView taskId config.store)

/-- A commit finds a status that passes the check its writer made. -/
def CheckStillHolds (writers : Id → Writer) : RaceConfig Id → Id → Prop :=
  CommitMeets (discipline writers) fun id _ view =>
    ∀ row ∈ view.1, (writers id).Accepts row.status

/-- Every account fits its status, as in every state a sequential run reaches. -/
def LedgerBooked (db : Database) : Prop :=
  ∀ row ∈ db.instances.rows, ∃ approved,
    Booked approved row.status row.pointValue (postings db.ledger row.id)

theorem Accounted.ledgerBooked {traced : Traced} (accounted : Accounted traced) :
    LedgerBooked traced.db :=
  fun row member => ⟨_, accounted.booked row member⟩

/-! ## One commit -/

def BookedView (taskId : Uuid) (view : TaskView) : Prop :=
  ∀ row, view.1 = some row → row.id = taskId ∧ ∃ approved,
    Booked approved row.status row.pointValue view.2

theorem LedgerBooked.views {db : Database} (booked : LedgerBooked db)
    (taskId : Uuid) : BookedView taskId (taskView taskId db) := by
  intro row found
  obtain ⟨member, same⟩ := Table.find?_eq_some_iff.mp found
  subst same
  exact ⟨rfl, booked row member⟩

theorem BookedView.pointsReturned {taskId : Uuid} {view : TaskView}
    (booked : BookedView taskId view) : PointsReturned view := by
  intro row found status posted member completed
  obtain ⟨_, approved, fits⟩ := booked row found
  have settled : Settled row.pointValue view.2 := by
    rcases status with status | status
    · exact fits.settled (by rw [status]; decide) (by rw [status]; decide)
    · exact fits.settled (by rw [status]; decide) (by rw [status]; decide)
  rcases settled with unpaid | reversed
  · rw [unpaid] at member
    cases member
  · rw [reversed] at member ⊢
    simp only [Account.statement, List.mem_cons, List.not_mem_nil, or_false]
      at member ⊢
    rcases member with rfl | rfl
    · exact Or.inr rfl
    · cases completed

omit [DecidableEq Id] in
theorem commit_legal (writers : Id → Writer) :
    CommitStep (discipline writers) fun id _ old new =>
      BookedView (writers id).taskId old →
        (∀ row ∈ old.1, (writers id).Accepts row.status) →
          BookedView (writers id).taskId new ∧ LegalMove old new := by
  intro id seen before change db staged sameView copy booked accepts
  obtain ⟨loaded, task, row, ledger, committed⟩ := commit_staged staged sameView copy
  have found : (taskView (writers id).taskId db).1 = some row := committed.found
  obtain ⟨ownId, approved, fits⟩ := booked row found
  have accepted := accepts row found
  have sameRow := updateRow_sameTask loaded.task task row
  have status : (updateRow loaded.task task row).status = task.status :=
    written_changed committed.decided.moves
  have offered : Offered row.status task.status :=
    committed.decided.offered accepted
  have points : (updateRow loaded.task task row).pointValue =
      loaded.task.pointValue := sameRow.pointValue.trans committed.same.pointValue
  constructor
  · intro next nextFound
    have isRow : next = updateRow loaded.task task row :=
      Option.some.inj (nextFound.symm.trans committed.ownRow)
    subst isRow
    refine ⟨sameRow.id.trans ownId, some loaded.household.excusedPayoutPolicy, ?_⟩
    change Booked _ _ _ (taskView (writers id).taskId (change db)).2
    rw [committed.ownPostings, status, points]
    have before : Booked approved row.status loaded.task.pointValue
        (postings before.ledger loaded.task.id) := by
      rw [committed.samePostings, ← committed.same.pointValue]
      exact fits
    exact committed.decided.booked accepted before
  · intro old oldFound
    have isRow : old = row := Option.some.inj (oldFound.symm.trans found)
    subst isRow
    refine ⟨_, committed.ownRow, ?_, ?_⟩
    · rw [status]
      exact Or.inr offered
    · intro terminal
      exact absurd offered (not_offered_from_terminal terminal)

/-! ## Every schedule -/

theorem no_update_lost_while_checks_hold (writers : Id → Writer) (db : Database)
    (booked : LedgerBooked db) (schedule : List Id)
    (checks : EachMeets (raceStep writers) (CheckStillHolds writers) (opening db)
      schedule) :
    EachMeets (raceStep writers) (LegalStep writers) (opening db) schedule ∧
      Always (raceStep writers) NoPointsLost (opening db) schedule := by
  have idle : ∀ view, LegalMove view view :=
    fun view row found => ⟨row, found, Or.inl rfl, fun _ => rfl⟩
  obtain ⟨good, legal⟩ := guarded_rows (commit_legal writers) idle booked.views checks
  exact ⟨legal, good.imp fun _ rows taskId => (rows taskId).pointsReturned⟩

end Schedules

/-! ## Two writers of one instance -/

/-- A teen completes the task while a parent cancels it. -/
def completeAndCancel : Bool → Writer
  | false => .request ⟨-2, -2⟩ sampleTeen 1 (.complete none)
  | true => .request ⟨-1, -1⟩ sampleParent 1 (.cancel none)

/-- A teen completes the task while the nightly pass marks it missed. -/
def completeAndSweep : Bool → Writer
  | false => .request (afterHours 25) sampleTeen 1 (.complete none)
  | true => .nightlyMissed (timedeltaHours 25) 1

/-- Both read, the first one commits, and the second one commits over it. -/
def bothRead : List Bool := [false, true, false, false, true, true]

theorem ledgerBooked_sample {task : TaskInstance} (open_ : Actionable task.status) :
    LedgerBooked (sampleDatabase sampleDefinition task) := by
  intro row member
  rw [List.mem_singleton.mp member]
  exact ⟨none, .unpaid, rfl, open_.ne (by decide), open_.ne (by decide)⟩

theorem stale_check_loses_update :
    LedgerBooked (sampleDatabase sampleDefinition sampleTask) ∧
      ¬ EachMeets (raceStep completeAndCancel) (LegalStep completeAndCancel)
        (opening (sampleDatabase sampleDefinition sampleTask)) bothRead ∧
      ¬ Always (raceStep completeAndCancel) NoPointsLost
        (opening (sampleDatabase sampleDefinition sampleTask)) bothRead ∧
      ¬ Always (raceStep completeAndSweep) NoPointsLost
        (opening overdueDatabase) bothRead := by
  refine ⟨ledgerBooked_sample (Or.inl rfl), ?_, ?_, ?_⟩
  · intro legal
    exact absurd (legal.2.2.2.2.2.1 1) (by decide)
  · intro returned
    exact absurd (returned.at_end 1) (by decide)
  · intro returned
    exact absurd (returned.at_end 1) (by decide)

/-- A teen completes the task, and a parent takes the completion back. -/
def completeAndReverse : Bool → Writer
  | false => .request ⟨-2, -2⟩ sampleTeen 1 (.complete none)
  | true => .request (afterHours 1) sampleParent 1 (.reverseCompletion "not done")

/-- The parent reads after the completion has been committed. -/
def completedFirst : List Bool := [false, false, false, true, true, true]

theorem reversal_after_completion_loses_nothing :
    let start := opening (sampleDatabase sampleDefinition sampleTask)
    statusOf (runFrom (raceStep completeAndReverse) start (completedFirst.take 3)).store 1 =
        some .complete ∧
      statusOf (runFrom (raceStep completeAndReverse) start completedFirst).store 1 =
        some .missed ∧
      EachMeets (raceStep completeAndReverse) (LegalStep completeAndReverse) start
        completedFirst ∧
      Always (raceStep completeAndReverse) NoPointsLost start completedFirst := by
  intro start
  refine ⟨by decide +kernel, by decide +kernel,
    no_update_lost_while_checks_hold completeAndReverse _
      (ledgerBooked_sample (Or.inl rfl)) _ ⟨?_, ?_, ?_, ?_, ?_, ?_, trivial⟩⟩
  · intro seen change phase
    cases phase
  · intro seen change phase
    cases phase
  · intro seen change phase row found
    cases found
    exact Or.inl rfl
  · intro seen change phase
    cases phase
  · intro seen change phase
    cases phase
  · intro seen change phase row found
    cases found
    rfl

end KidsChores.Properties
