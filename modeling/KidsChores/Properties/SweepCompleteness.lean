import KidsChores.Lifecycle
import KidsChores.Planning

/-!
# What a nightly run leaves behind

Both sweeps run over the definitions fetched for the generation, and archived
ones are not among them.  An archived definition's instance keeps the status it
had, however long it is due.
-/

set_option autoImplicit false

namespace KidsChores.Properties

open KidsChores.Models
open KidsChores.Library
open KidsChores.Library.PyDatetime
open KidsChores.Services.StateMachine
open KidsChores.Workers.GenerateInstances
open KidsChores.Lifecycle
open KidsChores.Planning
open KidsChores.Routers.Definitions

/-- The clock has overtaken the status of the instance, by the reading each sweep
takes. -/
def SweepDue (gracePeriodHours : Int) (clock : JobClock) (task : TaskInstance) :
    Prop :=
  (task.status = .pending ∧ task.dueAt ≤ clock.dueNow) ∨
    (task.status = .overdue ∧ graceRemaining task gracePeriodHours clock.now ≤ 0)

/-- No instance of the household is left for the sweeps, its definition meeting
`chosen`. -/
def SweptWhere (chosen : TaskDefinition → Prop) (clock : JobClock)
    (householdId : Uuid) (db : Database) : Prop :=
  ∀ household ∈ db.households.find? householdId, ∀ task ∈ db.instances.rows,
    ∀ definition ∈ db.definitions.find? task.definitionId,
      definition.householdId = householdId → chosen definition →
        ¬ SweepDue household.gracePeriodHours clock task

abbrev Swept : JobClock → Uuid → Database → Prop := SweptWhere fun _ => True

abbrev SweptIfArchived : JobClock → Uuid → Database → Prop :=
  SweptWhere fun definition => definition.archivedAt ≠ none

instance (gracePeriodHours : Int) (clock : JobClock) (task : TaskInstance) :
    Decidable (SweepDue gracePeriodHours clock task) :=
  inferInstanceAs (Decidable (_ ∨ _))

instance (chosen : TaskDefinition → Prop) [DecidablePred chosen] (clock : JobClock)
    (householdId : Uuid) (db : Database) :
    Decidable (SweptWhere chosen clock householdId db) :=
  inferInstanceAs (Decidable (∀ household ∈ db.households.find? householdId,
    ∀ task ∈ db.instances.rows, ∀ definition ∈ db.definitions.find? task.definitionId,
      _ → _ → _))

/-! ## One row -/

theorem sweepRow_swept {definitionIds : List Uuid} {hours : Int} {clock : JobClock}
    {task : TaskInstance} (live : task.definitionId ∈ definitionIds) :
    ¬ SweepDue hours clock (sweepRow definitionIds hours clock task) := by
  unfold sweepRow
  by_cases due : task.status = .pending ∧ task.dueAt ≤ clock.dueNow
  · simp only [due, live, and_self, if_true, true_and]
    split
    · simp [SweepDue]
    · rename_i inGrace
      simpa [SweepDue] using inGrace
  · have notSwept : ¬ (task.status = .pending ∧ task.dueAt ≤ clock.dueNow ∧
        task.definitionId ∈ definitionIds) :=
      fun hit => due ⟨hit.1, hit.2.1⟩
    simp only [if_neg notSwept]
    split
    · simp [SweepDue]
    · rename_i stays
      rintro (pending | overdue)
      · exact due pending
      · exact stays ⟨overdue.1, live, overdue.2⟩

theorem sweepRow_other {definitionIds : List Uuid} {hours : Int} {clock : JobClock}
    {task : TaskInstance} (archived : task.definitionId ∉ definitionIds) :
    sweepRow definitionIds hours clock task = task := by
  simp [sweepRow, archived]

theorem liveDefinitions_iff {db : Database} {householdId definitionId : Uuid}
    {definition : TaskDefinition}
    (found : db.definitions.find? definitionId = some definition)
    (own : definition.householdId = householdId) :
    definitionId ∈ (liveDefinitions db householdId).map TaskDefinition.id ↔
      definition.archivedAt = none := by
  obtain ⟨member, same⟩ := Table.find?_eq_some_iff.mp found
  constructor
  · intro listed
    obtain ⟨other, live, sameId⟩ := List.mem_map.mp listed
    obtain ⟨stored, selected⟩ := List.mem_filter.mp live
    have one : other = definition :=
      db.definitions.row_unique stored member (sameId.trans same.symm)
    rw [one] at selected
    exact (of_decide_eq_true selected).2
  · intro live
    refine List.mem_map.mpr ⟨definition, List.mem_filter.mpr ⟨member, ?_⟩, same⟩
    exact decide_eq_true ⟨own, live⟩

/-! ## The run -/

/-- A row of an archived definition is as it was, and no other row of the
household is left for the sweeps. -/
theorem run_rows {pytz : String → Option TzInfo} {clock : JobClock}
    {householdId : Uuid} {db next : Database} {household : Household} {tz : TzInfo}
    {generated : Table TaskInstance.id}
    (run : GeneratedFor pytz clock householdId db next household tz generated)
    {task : TaskInstance} {definition : TaskDefinition}
    (found : db.definitions.find? task.definitionId = some definition)
    (own : definition.householdId = householdId) :
    (definition.archivedAt = none → task ∈ next.instances.rows →
      ¬ SweepDue household.gracePeriodHours clock task) ∧
    (definition.archivedAt ≠ none →
      (task ∈ next.instances.rows ↔ task ∈ db.instances.rows)) := by
  have rows : task ∈ next.instances.rows ↔ ∃ old ∈ generated.rows, task =
      sweepRow ((liveDefinitions db householdId).map TaskDefinition.id)
        household.gracePeriodHours clock old := by
    rw [run.committed]
    exact mem_sweeps
  have sameDefinition : ∀ old : TaskInstance, (sweepRow ((liveDefinitions db
      householdId).map TaskDefinition.id) household.gracePeriodHours clock
        old).definitionId = old.definitionId :=
    fun old => (sweepRow_effect _ _ _ old).sameTask.definitionId
  constructor
  · intro live member
    obtain ⟨old, _, rfl⟩ := rows.mp member
    rw [sameDefinition] at found
    exact sweepRow_swept ((liveDefinitions_iff found own).mpr live)
  · intro archived
    have unlisted : task.definitionId ∉
        (liveDefinitions db householdId).map TaskDefinition.id :=
      fun listed => archived ((liveDefinitions_iff found own).mp listed)
    obtain ⟨keeps, origin⟩ := upsertAll_rows run.upserts
    rw [rows]
    constructor
    · rintro ⟨old, member, same⟩
      have sameId : old.definitionId = task.definitionId := by
        rw [same, sameDefinition]
      rw [sweepRow_other (sameId ▸ unlisted)] at same
      rw [same]
      rcases origin old member with stored | ⟨defn, targetDate, due, inserts⟩
      · exact stored
      · have live := (mem_generationTargets.mp inserts.target).1
        refine (unlisted (List.mem_map.mpr ⟨defn, live, ?_⟩)).elim
        rw [← sameId, inserts.built]
        rfl
    · intro member
      exact ⟨task, keeps task member, (sweepRow_other unlisted).symm⟩

/-- A committed run leaves nothing to sweep exactly when, before it, no instance
of an archived definition was left behind by the clock. -/
theorem sweep_complete_iff {pytz : String → Option TzInfo} {clock : JobClock}
    {householdId : Uuid} {db next : Database}
    (committed : generateForHousehold pytz clock householdId db = .ok next) :
    Swept clock householdId next ↔ SweptIfArchived clock householdId db := by
  obtain ⟨household, tz, generated, run⟩ := generateForHousehold_ok committed
  have sameDefinitions : next.definitions = db.definitions := by rw [run.committed]
  have sameHouseholds : next.households = db.households := by rw [run.committed]
  constructor
  · intro swept home homeFound task member definition found own archived
    have kept := ((run_rows run found own).2 archived).mpr member
    rw [← sameHouseholds] at homeFound
    rw [← sameDefinitions] at found
    exact swept home homeFound task kept definition found own trivial
  · intro swept home homeFound task member definition found own _
    rw [sameHouseholds] at homeFound
    rw [sameDefinitions] at found
    cases run.found.symm.trans homeFound
    by_cases live : definition.archivedAt = none
    · exact (run_rows run found own).1 live member
    · have before := ((run_rows run found own).2 live).mp member
      exact swept household run.found task before definition found own live

/-! ## A daily task -/

/-- The family's task of the first day, created just after midnight. -/
def dishesCreated : Database :=
  ((createDefinition utcOnly ⟨nightOf 1, nightOf 1, 1, dailyDishes⟩
    newFamily).toOption).getD newFamily

/-- The same, with the definition archived at once. -/
def dishesArchived : Database :=
  ((archiveDefinition ⟨nightOf 1, 1, 1⟩ dishesCreated).toOption).getD dishesCreated

def nightClock (day : Int) : JobClock := ⟨nightOf day, nightOf day, nightOf day⟩

def sampleRun (day : Int) (db : Database) : Except JobError Database :=
  generateForHousehold utcOnly (nightClock day) 1 db

theorem sweep_complete_while_live :
    ∃ next, sampleRun 3 dishesCreated = .ok next ∧ Swept (nightClock 3) 1 next := by
  have returns : (sampleRun 3 dishesCreated).isOk = true := by decide +kernel
  cases committed : sampleRun 3 dishesCreated with
  | error raised =>
      rw [committed] at returns
      cases returns
  | ok next => exact ⟨next, rfl, (sweep_complete_iff committed).mpr (by decide +kernel)⟩

/-- The task was due on the first evening; two nights later, its definition being
archived, it is pending still. -/
theorem archived_instance_left_pending :
    let next := ((sampleRun 3 dishesArchived).toOption).getD dishesArchived
    (sampleRun 3 dishesArchived).isOk = true ∧
      next.instances.rows.map TaskInstance.status = [.pending] ∧
      ¬ Swept (nightClock 3) 1 next := by
  decide +kernel

end KidsChores.Properties
