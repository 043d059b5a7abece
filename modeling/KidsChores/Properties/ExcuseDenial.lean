import KidsChores.Api
import KidsChores.Properties.SweepCompleteness
import KidsChores.Properties.SweepTiming

/-!
# A denied excuse and the nightly sweep

A parent who denies an excuse and the nightly job decide by the same clock whether the
grace is over.  The job never takes a denial back, and moves on what was left overdue
when its grace runs out.
-/

set_option autoImplicit false

namespace KidsChores.Properties

open KidsChores.Api
open KidsChores.Library
open KidsChores.Library.PyDatetime
open KidsChores.Library.PyText
open KidsChores.Lifecycle
open KidsChores.Models
open KidsChores.Planning
open KidsChores.Services.Ledger
open KidsChores.Services.StateMachine
open KidsChores.Session
open KidsChores.Workers.GenerateInstances

def resumedOverdue (task : TaskInstance) : TaskInstance :=
  { resumeGrace task with status := .overdue }

/-- The denial at the clock's reading and the nightly rule at any reading. -/
structure DenialAgrees (clock : Clock) (household : Household)
    (task result : TaskInstance) : Prop where
  decided : result.status = .missed ∨ result.status = .overdue
  rule : result.status = .missed ↔
    (nightlyRule household.gracePeriodHours clock.now (resumedOverdue task)).status = .missed
  sameNow : nightlyRule household.gracePeriodHours clock.now result = result
  later : result.status = .overdue → ∀ now,
    ((nightlyRule household.gracePeriodHours now result).status = .missed ↔
      graceRemaining result household.gracePeriodHours now ≤ 0)
  monotone : ∀ now later, now ≤ later →
    graceRemaining result household.gracePeriodHours later ≤
      graceRemaining result household.gracePeriodHours now
  /-- After several sweeps, at whatever times. -/
  sweeps : result.status = .overdue → ∀ times : List Instant,
    ((times.foldl (fun row now => nightlyRule household.gracePeriodHours now row)
        result).status = .missed ↔
      ∃ now ∈ times, graceRemaining result household.gracePeriodHours now ≤ 0)

/-- The runs of the job on a database that holds the denied instance. -/
structure SweepsAgree (pytz : String → Option TzInfo) (denied : Instant)
    (household : Household) (definition : TaskDefinition) (db : Database)
    (result : TaskInstance) : Prop where
  sameNow : ∀ clock householdId next, clock.now = denied →
    generateForHousehold pytz clock householdId db = .ok next →
      result ∈ next.instances.rows
  later : result.status = .overdue → definition.archivedAt = none → ∀ clock next,
    generateForHousehold pytz clock household.id db = .ok next →
      (if graceRemaining result household.gracePeriodHours clock.now ≤ 0 then
        { result with status := .missed } else result) ∈ next.instances.rows

/-! ## The nightly rule on an overdue instance -/

section Rule

variable {hours : Int} {now : Instant} {task : TaskInstance}

theorem sweepRow_of_overdue {definitionIds : List Uuid} {clock : JobClock}
    (overdue : task.status = .overdue) (swept : task.definitionId ∈ definitionIds) :
    sweepRow definitionIds hours clock task =
      if graceRemaining task hours clock.now ≤ 0 then { task with status := .missed }
      else task := by
  simp [sweepRow, overdue, swept]

theorem nightlyRule_of_overdue (overdue : task.status = .overdue) :
    nightlyRule hours now task =
      if graceRemaining task hours now ≤ 0 then { task with status := .missed }
      else task :=
  sweepRow_of_overdue overdue (List.mem_singleton_self _)

theorem nightlyRule_of_missed (missed : task.status = .missed) :
    nightlyRule hours now task = task := by
  have closed : ¬ Actionable task.status := by
    rw [missed]
    decide
  refine nightlyRule_same (fun past => closed past.1) ?_
  exact fun pending => closed (Or.inl pending.1)

theorem nightlyRule_overdue_iff (overdue : task.status = .overdue) :
    (nightlyRule hours now task).status = .missed ↔ graceRemaining task hours now ≤ 0 := by
  rw [nightlyRule_of_overdue overdue]
  split
  next expired => exact iff_of_true rfl expired
  next left => exact iff_of_false (by rw [overdue]; nofun) left

theorem foldl_nightlyRule_iff (times : List Instant) (overdue : task.status = .overdue) :
    (times.foldl (fun row now => nightlyRule hours now row) task).status = .missed ↔
      ∃ now ∈ times, graceRemaining task hours now ≤ 0 := by
  induction times with
  | nil => simp [overdue]
  | cons now rest ih =>
      rw [List.foldl_cons, nightlyRule_of_overdue overdue, List.exists_mem_cons_iff]
      split
      next expired =>
          -- What is missed stays so.
          have stays : ∀ now, nightlyRule hours now { task with status := .missed } =
              { task with status := .missed } := fun _ => nightlyRule_of_missed rfl
          rw [List.foldl_fixed' stays]
          exact iff_of_true rfl (Or.inl expired)
      next left => rw [ih, or_iff_right left]

theorem graceRemaining_antitone {later : Instant} (running : task.gracePausedAt = none)
    (order : now ≤ later) :
    graceRemaining task hours later ≤ graceRemaining task hours now := by
  rw [graceRemaining_running running, graceRemaining_running running]
  unfold graceUsed
  dsimp only [Instant, Timedelta] at *
  omega

theorem sweepRow_settled {definitionIds : List Uuid} {clock : JobClock}
    (settled : task.status = .missed ∨
      task.status = .overdue ∧ 0 < graceRemaining task hours clock.now) :
    sweepRow definitionIds hours clock task = task := by
  unfold sweepRow
  rcases settled with missed | ⟨overdue, left⟩
  · simp [missed]
  · simp [overdue, left]

end Rule

/-! ## The denial -/

section Denial

variable {clock : Clock} {household : Household} {definition : TaskDefinition}
  {parent : Member} {comment : Option String} {task : TaskInstance}

def deniedRow (clock : Clock) (household : Household) (parent : Member)
    (comment : Option String) (task : TaskInstance) : TaskInstance :=
  decisionRow clock parent (resumeGrace task) comment
    (if 0 < graceRemaining (resumeGrace task) household.gracePeriodHours clock.now
      then .overdue else .missed)

theorem graceRemaining_deniedRow (hours : Int) (now : Instant) :
    graceRemaining (deniedRow clock household parent comment task) hours now =
      graceRemaining (resumeGrace task) hours now := rfl

theorem deniedRow_settled :
    (deniedRow clock household parent comment task).status = .missed ∧
        graceRemaining (resumeGrace task) household.gracePeriodHours clock.now ≤ 0 ∨
      (deniedRow clock household parent comment task).status = .overdue ∧
        0 < graceRemaining (resumeGrace task) household.gracePeriodHours clock.now := by
  by_cases left : 0 < graceRemaining (resumeGrace task) household.gracePeriodHours clock.now
  · exact Or.inr ⟨if_pos left, left⟩
  · exact Or.inl ⟨if_neg left, Int.not_lt.mp left⟩

theorem deniedRow_agrees :
    DenialAgrees clock household task (deniedRow clock household parent comment task) := by
  have settled := @deniedRow_settled clock household parent comment task
  refine ⟨?_, ?_, ?_, ?_, ?_, ?_⟩
  · exact settled.imp And.left And.left
  · rw [nightlyRule_overdue_iff rfl]
    change _ ↔ graceRemaining (resumeGrace task) household.gracePeriodHours clock.now ≤ 0
    rcases settled with ⟨missed, expired⟩ | ⟨overdue, left⟩
    · exact iff_of_true missed expired
    · refine iff_of_false ?_ (Int.not_le.mpr left)
      rw [overdue]
      nofun
  · exact sweepRow_settled (settled.imp_left And.left)
  · exact fun overdue now => nightlyRule_overdue_iff overdue
  · exact fun now later order => graceRemaining_antitone rfl order
  · exact fun overdue times => foldl_nightlyRule_iff times overdue

/-! ## The runs of the job -/

variable {pytz : String → Option TzInfo} {db : Database} {ledger : Ledger}

/-- A definition among those the run sweeps is the one of the instance. -/
theorem swept_household (acts : ActsOn db parent household definition task)
    {householdId : Uuid}
    (swept : task.definitionId ∈ (liveDefinitions db householdId).map TaskDefinition.id) :
    householdId = household.id := by
  obtain ⟨other, live, sameId⟩ := List.mem_map.mp swept
  obtain ⟨stored, own⟩ := mem_liveDefinitions live
  have one : other = definition := db.definitions.row_unique stored acts.definitionStored
    (sameId.trans acts.definitionOfTask.symm)
  rw [← own, one, acts.own]

theorem sweepRow_mem {jobClock : JobClock} {householdId : Uuid} {next : Database}
    {other : Household} {tz : TzInfo} {generated : Table TaskInstance.id}
    (run : GeneratedFor pytz jobClock householdId db next other tz generated)
    (stored : task ∈ db.instances.rows) :
    sweepRow ((liveDefinitions db householdId).map TaskDefinition.id)
      other.gracePeriodHours jobClock task ∈ next.instances.rows := by
  rw [run.committed]
  exact mem_sweeps.mpr ⟨task, (upsertAll_rows run.upserts).1 task stored, rfl⟩

theorem deniedRow_sweeps (acts : ActsOn db parent household definition task) :
    SweepsAgree pytz clock.now household definition
      (storeCall db (deniedRow clock household parent comment task) ledger)
      (deniedRow clock household parent comment task) := by
  have stored : deniedRow clock household parent comment task ∈
      (storeCall db (deniedRow clock household parent comment task) ledger).instances.rows :=
    Table.mem_save.mpr (Or.inl ⟨rfl, task, acts.taskStored, rfl⟩)
  have ownHousehold : db.households.find? household.id = some household := by
    rw [Table.key_of_find? acts.householdFound]
    exact acts.householdFound
  constructor
  · intro jobClock householdId next sameReading returned
    obtain ⟨other, tz, generated, run⟩ := generateForHousehold_ok returned
    have swept := sweepRow_mem run stored
    by_cases covered : task.definitionId ∈
        (liveDefinitions db householdId).map TaskDefinition.id
    · have found : db.households.find? householdId = some other := run.found
      rw [swept_household acts covered, ownHousehold] at found
      obtain rfl := Option.some.inj found
      rw [sweepRow_settled] at swept
      · exact swept
      · rw [sameReading, graceRemaining_deniedRow]
        exact deniedRow_settled.imp_left And.left
    · have untouched : sweepRow ((liveDefinitions db householdId).map TaskDefinition.id)
          other.gracePeriodHours jobClock
          (deniedRow clock household parent comment task) =
            deniedRow clock household parent comment task := sweepRow_other covered
      rw [← untouched]
      exact swept
  · intro overdue live jobClock next returned
    obtain ⟨other, tz, generated, run⟩ := generateForHousehold_ok returned
    have found : db.households.find? household.id = some other := run.found
    rw [ownHousehold] at found
    obtain rfl := Option.some.inj found
    have swept := sweepRow_mem run stored
    have covered : task.definitionId ∈
        (liveDefinitions db household.id).map TaskDefinition.id := by
      have definitionFound := Table.find?_eq_some_iff.mpr
        ⟨acts.definitionStored, acts.definitionOfTask⟩
      exact (liveDefinitions_iff definitionFound acts.own).mpr live
    rw [← sweepRow_of_overdue overdue covered]
    exact swept

/-- A denial marks the instance missed exactly if the nightly rule would at that moment.
A run right after it changes nothing, and a later one marks what was left overdue missed
exactly when its grace is over. -/
theorem denial_agrees_with_sweep (clock : Clock) (household : Household)
    (definition : TaskDefinition) (parent : Member) (ledger : Ledger)
    (submitted : task.status = .excusePending) (said : truthy comment = true) :
    ∃ result, resolveExcuse clock definition parent household false comment task ledger =
        .ok (result, ledger) ∧
      DenialAgrees clock household task result ∧
      ∀ pytz db, ActsOn db parent household definition task →
        SweepsAgree pytz clock.now household definition (storeCall db result ledger)
          result :=
  ⟨_, resolveExcuse_denied submitted said, deniedRow_agrees,
    fun _ _ acts => deniedRow_sweeps acts⟩

end Denial

/-- An excuse for the sample task, which is due at 0 and has a day of grace. -/
def sampleExcuse : TaskInstance :=
  { sampleTask with status := .excusePending, excuseSubmittedAt := some 0 }

theorem denial_agrees_at_deadline :
    let deadline : Clock := ⟨timedeltaHours 24, timedeltaHours 24⟩
    ∃ result, resolveExcuse deadline sampleDefinition sampleParent sampleHousehold false
        (some "no") sampleExcuse Ledger.empty = .ok (result, Ledger.empty) ∧
      result.status = .missed ∧
      SweepsAgree utcOnly deadline.now sampleHousehold sampleDefinition
        (storeCall (sampleDatabase sampleDefinition sampleExcuse) result Ledger.empty)
        result := by
  intro deadline
  have said : truthy (some "no") = true := by decide
  have acts : ActsOn (sampleDatabase sampleDefinition sampleExcuse) sampleParent
      sampleHousehold sampleDefinition sampleExcuse :=
    ⟨by decide, by decide, by decide, by decide, rfl, rfl⟩
  obtain ⟨result, returned, agrees, sweeps⟩ := denial_agrees_with_sweep deadline
    sampleHousehold sampleDefinition sampleParent Ledger.empty
    (show sampleExcuse.status = .excusePending from rfl) said
  exact ⟨result, returned, agrees.rule.mpr (by decide +kernel), sweeps _ _ acts⟩

end KidsChores.Properties
