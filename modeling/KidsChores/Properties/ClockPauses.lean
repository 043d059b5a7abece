import KidsChores.Properties.ExcuseDenial
import KidsChores.Properties.TaskRuns

/-!
# When the grace clock pauses

Over every run of calls, sweeps and generation the clock of an instance is paused only
while an excuse waits for its decision, or once it is excused.  The clock of an overdue
instance therefore runs, and runs out.
-/

set_option autoImplicit false

namespace KidsChores.Properties

open KidsChores.Library
open KidsChores.Library.PyDatetime
open KidsChores.Library.Runs
open KidsChores.Lifecycle
open KidsChores.Models
open KidsChores.Planning
open KidsChores.Services.StateMachine
open KidsChores.Session
open KidsChores.Workers.GenerateInstances

/-- The clock of an overdue instance: it never gains time, it has run out from the end of
the grace period on, and a run of the job from then on marks the instance missed. -/
structure RunsOut (pytz : String → Option TzInfo) (db : Database) (task : TaskInstance) :
    Prop where
  running : task.gracePausedAt = none
  antitone : ∀ hours now later, now ≤ later →
    graceRemaining task hours later ≤ graceRemaining task hours now
  expired : ∀ hours now, task.dueAt + timedeltaHours hours ≤ now →
    graceRemaining task hours now ≤ 0
  swept : ∀ household definition clock next,
    db.households.find? definition.householdId = some household →
    definition ∈ db.definitions.rows → definition.id = task.definitionId →
    definition.archivedAt = none →
    generateForHousehold pytz clock household.id db = .ok next →
    task.dueAt + timedeltaHours household.gracePeriodHours ≤ clock.now →
      { task with status := .missed } ∈ next.instances.rows

structure PausesForExcuses (pytz : String → Option TzInfo) (db : Database) : Prop where
  counted : ∀ task ∈ db.instances.rows, 0 ≤ task.graceElapsedSeconds
  paused : ∀ task ∈ db.instances.rows, task.gracePausedAt.isSome →
    task.status = .excusePending ∨ task.status = .excused
  overdue : ∀ task ∈ db.instances.rows, task.status = .overdue → RunsOut pytz db task

def FreshClocks (db : Database) : Prop :=
  ∀ task ∈ db.instances.rows, task.gracePausedAt = none ∧ task.graceElapsedSeconds = 0

/-! ## Any state whose clocks run -/

section Overdue

variable {pytz : String → Option TzInfo} {db : Database} {task : TaskInstance}

theorem graceRemaining_expired {hours : Int} {now : Instant}
    (running : task.gracePausedAt = none) (passed : task.dueAt + timedeltaHours hours ≤ now) :
    graceRemaining task hours now ≤ 0 := by
  rw [graceRemaining_running running]
  unfold graceUsed
  dsimp only [Instant, Timedelta] at *
  omega

theorem runsOut_of_running (stored : task ∈ db.instances.rows)
    (overdue : task.status = .overdue) (running : task.gracePausedAt = none) :
    RunsOut pytz db task := by
  refine ⟨running, fun hours now later order => graceRemaining_antitone running order,
    fun hours now passed => graceRemaining_expired running passed, ?_⟩
  intro household definition clock next householdFound definitionStored ofTask live returned
    passed
  obtain ⟨other, tz, generated, run⟩ := generateForHousehold_ok returned
  have own : definition.householdId = household.id :=
    (Table.key_of_find? householdFound).symm
  have found : db.households.find? household.id = some other := run.found
  rw [← own, householdFound] at found
  obtain rfl := Option.some.inj found
  have covered : task.definitionId ∈
      (liveDefinitions db household.id).map TaskDefinition.id :=
    (liveDefinitions_iff (Table.find?_eq_some_iff.mpr ⟨definitionStored, ofTask⟩) own).mpr live
  have swept := sweepRow_mem run stored
  rw [sweepRow_of_overdue overdue covered,
    if_pos (graceRemaining_expired running passed)] at swept
  exact swept

theorem pauses_of_clocksRun (runs : ClocksRun db) : PausesForExcuses pytz db := by
  refine ⟨fun task stored => (runs task stored).1, ?_, ?_⟩
  · intro task stored paused
    rcases (runs task stored).2 with running | excused
    · rw [running] at paused
      cases paused
    · exact excused
  · intro task stored overdue
    exact runsOut_of_running stored overdue ((runs task stored).running (Or.inr overdue))

end Overdue

/-- In every state that calls, sweeps, generation and edits reach, in any order and at any
times, no counted grace is negative, a paused clock is that of an excuse, and the clock of
an overdue instance runs and runs out. -/
theorem clock_pauses_only_for_excuses (pytz : String → Option TzInfo) (db : Database)
    (fresh : FreshClocks db) (events : List TaskEvent) :
    Always (taskStep pytz) (PausesForExcuses pytz) db events := by
  have initial : ClocksRun db := by
    intro task stored
    obtain ⟨running, counted⟩ := fresh task stored
    exact ⟨Int.le_of_eq counted.symm, Or.inl running⟩
  have always : Always (taskStep pytz) ClocksRun db events :=
    invariant_always ClocksRun
      (fun _ event kept => taskStep_keeps (fun _ _ _ _ => ⟨Int.le_refl 0, Or.inl rfl⟩)
        clockRuns_call clockRuns_sweep kept event) initial events
  exact always.imp fun _ runs => pauses_of_clocksRun runs

/-- A task an hour overdue is excused, denied a day later, completed and taken back. -/
def pausedAndResumed : List TaskEvent :=
  [.lifecycle (.nightly ⟨timedeltaHours 1, timedeltaHours 1, timedeltaHours 1⟩ 1),
    .lifecycle (.call (afterHours 1) sampleTeen 1 (.submitExcuse "I was at the dentist")),
    .lifecycle (.call (afterHours 20) sampleParent 1 (.resolveExcuse false (some "no"))),
    .lifecycle (.call (afterHours 21) sampleTeen 1 (.complete none)),
    .lifecycle (.call (afterHours 22) sampleParent 1 (.reverseCompletion "not done"))]

theorem paused_and_resumed_clock :
    FreshClocks overdueDatabase ∧
      Always (taskStep utcOnly) (PausesForExcuses utcOnly) overdueDatabase pausedAndResumed :=
  have fresh : FreshClocks overdueDatabase := by
    unfold FreshClocks
    decide
  ⟨fresh, clock_pauses_only_for_excuses utcOnly overdueDatabase fresh pausedAndResumed⟩

end KidsChores.Properties
