import KidsChores.Lifecycle
import KidsChores.Planning

/-!
# One occurrence per definition and day

The database key of an instance is its due instant, so two instances of one day
are told apart by their time of day.  A day stays single as long as the runs that
cover it compute one due time for it, the one its instance has.
-/

set_option autoImplicit false

namespace KidsChores.Properties

open KidsChores.Models
open KidsChores.Library
open KidsChores.Library.Runs
open KidsChores.Library.PyDatetime
open KidsChores.Lifecycle
open KidsChores.Planning
open KidsChores.Routers.Definitions
open KidsChores.Routers.Series
open KidsChores.Workers.GenerateInstances

def UniqueDays (tz : TzInfo) (definitionId : Uuid)
    (instances : Table TaskInstance.id) : Prop :=
  ∀ first ∈ instances.rows, ∀ second ∈ instances.rows,
    first.definitionId = definitionId → second.definitionId = definitionId →
    tz.localDate first.dueAt = tz.localDate second.dueAt → first = second

def OncePerDay (pytz : String → Option TzInfo) (db : Database) : Prop :=
  ∀ household ∈ db.households.rows, ∀ tz ∈ pytz household.timezone,
    ∀ definition ∈ db.definitions.rows, definition.householdId = household.id →
      UniqueDays tz definition.id db.instances

instance (tz : TzInfo) (definitionId : Uuid) (instances : Table TaskInstance.id) :
    Decidable (UniqueDays tz definitionId instances) := by
  unfold UniqueDays
  infer_instance

instance (pytz : String → Option TzInfo) : DecidablePred (OncePerDay pytz) :=
  fun db => by
    unfold OncePerDay
    infer_instance

def DefinitionsStored (db : Database) : Prop :=
  ∀ task ∈ db.instances.rows, ∃ definition ∈ db.definitions.rows,
    definition.id = task.definitionId

theorem DefinitionsStored.fresh {db : Database} (stored : DefinitionsStored db) :
    ∀ task ∈ db.instances.rows, task.definitionId ≠ db.definitions.freshKey := by
  intro task member same
  obtain ⟨definition, definitionMember, own⟩ := stored task member
  exact absurd (own.trans same) (Nat.ne_of_lt (Table.key_lt_freshKey definitionMember))

/-! ## The condition -/

/-- The due time a run computes for a date the schedule asks for. -/
def computedDue? (tz : TzInfo) (target : TaskDefinition × Date) : Option Instant :=
  match shouldGenerateForDate target.1 target.2 with
  | .ok true => (dueUtc tz target.2 target.1.dueTime).toOption
  | _ => none

theorem computedDue?_eq_some {tz : TzInfo} {target : TaskDefinition × Date}
    {due : Instant} :
    computedDue? tz target = some due ↔
      shouldGenerateForDate target.1 target.2 = .ok true ∧
        dueUtc tz target.2 target.1.dueTime = .ok due := by
  unfold computedDue?
  cases shouldGenerateForDate target.1 target.2 with
  | error raised => simp
  | ok wanted =>
      cases wanted with
      | false => simp
      | true => simp [Routers.toOption_eq_some]

/-- An instance that a definition has on a local date the run computes a due time
on is due at that time. -/
def StoredDuesKept (tz : TzInfo) (instances : Table TaskInstance.id)
    (targets : List (TaskDefinition × Date)) : Prop :=
  ∀ target ∈ targets, ∀ due ∈ computedDue? tz target, ∀ task ∈ instances.rows,
    task.definitionId = target.1.id → tz.localDate task.dueAt = tz.localDate due →
      task.dueAt = due

/-- The run computes one due time for a definition and a local date.  Two dates can
give due times on one local date where the clock of the zone skips the end of a
day. -/
def ComputedDuesAgree (tz : TzInfo) (targets : List (TaskDefinition × Date)) : Prop :=
  ∀ first ∈ targets, ∀ second ∈ targets, first.1.id = second.1.id →
    ∀ due ∈ computedDue? tz first, ∀ otherDue ∈ computedDue? tz second,
      tz.localDate due = tz.localDate otherDue → due = otherDue

instance (tz : TzInfo) (instances : Table TaskInstance.id)
    (targets : List (TaskDefinition × Date)) :
    Decidable (StoredDuesKept tz instances targets) := by
  unfold StoredDuesKept
  infer_instance

instance (tz : TzInfo) (targets : List (TaskDefinition × Date)) :
    Decidable (ComputedDuesAgree tz targets) := by
  unfold ComputedDuesAgree
  infer_instance

/-- A nightly run that reads all its strings keeps the days it covers. -/
def DueTimesKept (pytz : String → Option TzInfo) (db : Database) :
    PlanningEvent → Prop
  | .nightly clock householdId =>
      ∀ household ∈ db.households.find? householdId,
        ∀ tz ∈ pytz household.timezone,
          (∀ target ∈ generationTargets (liveDefinitions db householdId)
            (tz.localDate clock.generation), TargetReads tz target.1 target.2) →
          StoredDuesKept tz db.instances (generationTargets
              (liveDefinitions db householdId) (tz.localDate clock.generation)) ∧
            ComputedDuesAgree tz (generationTargets
              (liveDefinitions db householdId) (tz.localDate clock.generation))
  | _ => True

instance (pytz : String → Option TzInfo) (db : Database) (event : PlanningEvent) :
    Decidable (DueTimesKept pytz db event) := by
  unfold DueTimesKept
  split <;> infer_instance

/-! ## One run on the rows of a definition -/

section Run

variable {tz : TzInfo} {now : Instant} {targets : List (TaskDefinition × Date)}
variable {instances generated : Table TaskInstance.id} {definitionId : Uuid}

theorem uniqueDays_upsertAll (unique : UniqueDays tz definitionId instances)
    (stored : StoredDuesKept tz instances targets)
    (computed : ComputedDuesAgree tz targets)
    (upserts : upsertAll tz now targets instances = .ok generated) :
    UniqueDays tz definitionId generated := by
  refine (upsertAll_invariant (fun table =>
    UniqueDays tz definitionId table ∧ StoredDuesKept tz table targets)
    ?_ ⟨unique, stored⟩ upserts).1
  rintro before after defn targetDate member ⟨uniqueBefore, storedBefore⟩ upserted
  rcases upsert_cases upserted with same | ⟨due, scheduled, timed, free, inserted⟩
  · rw [same]
    exact ⟨uniqueBefore, storedBefore⟩
  · have ownDue : computedDue? tz (defn, targetDate) = some due :=
      computedDue?_eq_some.mpr ⟨scheduled, timed⟩
    -- the condition leaves no instance of that day beside the one to insert
    have dayFree : ∀ old ∈ before.rows, old.definitionId = defn.id →
        tz.localDate old.dueAt ≠ tz.localDate due := by
      intro old oldMember own sameDay
      exact free old oldMember
        ⟨own, storedBefore (defn, targetDate) member due ownDue old oldMember own sameDay⟩
    rw [inserted]
    constructor
    · intro first firstMember second secondMember firstOwn secondOwn sameDay
      rcases Table.mem_append.mp firstMember with firstOld | rfl
      · rcases Table.mem_append.mp secondMember with secondOld | rfl
        · exact uniqueBefore first firstOld second secondOld firstOwn secondOwn sameDay
        · exact absurd sameDay
            (dayFree first firstOld (firstOwn.trans secondOwn.symm))
      · rcases Table.mem_append.mp secondMember with secondOld | rfl
        · exact absurd sameDay.symm
            (dayFree second secondOld (secondOwn.trans firstOwn.symm))
        · rfl
    · intro target targetMember targetDue targetComputed task taskMember own sameDay
      rcases Table.mem_append.mp taskMember with old | rfl
      · exact storedBefore target targetMember targetDue targetComputed task old own
          sameDay
      · exact computed _ member target targetMember own due ownDue targetDue
          targetComputed sameDay

theorem uniqueDays_upsertAll_other
    (other : ∀ target ∈ targets, target.1.id ≠ definitionId)
    (unique : UniqueDays tz definitionId instances) {runTz : TzInfo}
    (upserts : upsertAll runTz now targets instances = .ok generated) :
    UniqueDays tz definitionId generated := by
  have stored : ∀ task ∈ generated.rows, task.definitionId = definitionId →
      task ∈ instances.rows := by
    intro task member own
    rcases (upsertAll_rows upserts).2 task member with old | ⟨defn, date, due, inserts⟩
    · exact old
    · rw [inserts.built] at own
      exact absurd own (other _ inserts.target)
  intro first firstMember second secondMember firstOwn secondOwn
  exact unique first (stored first firstMember firstOwn) second
    (stored second secondMember secondOwn) firstOwn secondOwn

theorem uniqueDays_sweeps {definitionIds : List Uuid} {hours : Int} {clock : JobClock} :
    UniqueDays tz definitionId (sweepMissed definitionIds hours clock.now
        (sweepOverdue definitionIds clock.dueNow generated)) ↔
      UniqueDays tz definitionId generated := by
  have same := fun task =>
    (sweepRow_effect definitionIds hours clock task).sameTask
  constructor
  · intro unique first firstMember second secondMember firstOwn secondOwn sameDay
    refine generated.row_unique firstMember secondMember ?_
    rw [← (same first).id, ← (same second).id]
    refine congrArg TaskInstance.id (unique _ (mem_sweeps.mpr ⟨first, firstMember, rfl⟩)
      _ (mem_sweeps.mpr ⟨second, secondMember, rfl⟩) ?_ ?_ ?_)
    · rw [(same first).definitionId, firstOwn]
    · rw [(same second).definitionId, secondOwn]
    · rw [(same first).dueAt, (same second).dueAt, sameDay]
  · intro unique first firstMember second secondMember firstOwn secondOwn sameDay
    obtain ⟨firstOld, firstStored, rfl⟩ := mem_sweeps.mp firstMember
    obtain ⟨secondOld, secondStored, rfl⟩ := mem_sweeps.mp secondMember
    rw [(same firstOld).definitionId] at firstOwn
    rw [(same secondOld).definitionId] at secondOwn
    rw [(same firstOld).dueAt, (same secondOld).dueAt] at sameDay
    rw [unique firstOld firstStored secondOld secondStored firstOwn secondOwn sameDay]

end Run

/-! ## One event -/

section Event

variable {pytz : String → Option TzInfo} {db next : Database}

theorem target_stored {clock : JobClock} {householdId : Uuid} {tz : TzInfo}
    {target : TaskDefinition × Date}
    (member : target ∈ generationTargets (liveDefinitions db householdId)
      (tz.localDate clock.generation)) :
    target.1 ∈ db.definitions.rows ∧ target.1.householdId = householdId :=
  mem_liveDefinitions (mem_generationTargets.mp member).1

theorem once_of_kept {clock : JobClock} {householdId : Uuid} {household : Household}
    {tz : TzInfo} {rows : Table TaskInstance.id}
    (run : GeneratedFor pytz clock householdId db next household tz rows)
    (once : OncePerDay pytz db)
    (kept : DueTimesKept pytz db (.nightly clock householdId)) :
    OncePerDay pytz next := by
  have stored : household ∈ db.households.rows := Table.mem_of_find? run.found
  have ownId : household.id = householdId := Table.key_of_find? run.found
  obtain ⟨storedDues, computedDues⟩ := kept household run.found tz run.zone
    (upsertAll_returns_iff.mp ⟨rows, run.upserts⟩)
  rw [run.committed]
  intro other otherStored otherTz zone definition definitionStored own
  have uniqueBefore := once other otherStored otherTz zone definition
    definitionStored own
  refine uniqueDays_sweeps.mpr ?_
  by_cases sameHousehold : other.id = householdId
  · have same : other = household :=
      db.households.row_unique otherStored stored (sameHousehold.trans ownId.symm)
    subst same
    rw [Option.mem_def, run.zone] at zone
    cases zone
    exact uniqueDays_upsertAll uniqueBefore storedDues computedDues run.upserts
  · refine uniqueDays_upsertAll_other ?_ uniqueBefore run.upserts
    intro target member sameId
    obtain ⟨targetStored, targetOwn⟩ := target_stored member
    have same := db.definitions.row_unique targetStored definitionStored sameId
    rw [same, own] at targetOwn
    exact sameHousehold targetOwn

/-- A run that leaves the days single has computed the due times that were there,
one for each day: every due time it computes has a row. -/
theorem kept_of_once {clock : JobClock} {householdId : Uuid} {household : Household}
    {tz : TzInfo} {rows : Table TaskInstance.id}
    (run : GeneratedFor pytz clock householdId db next household tz rows)
    (once : OncePerDay pytz next) :
    DueTimesKept pytz db (.nightly clock householdId) := by
  have stored : household ∈ db.households.rows := Table.mem_of_find? run.found
  have ownId : household.id = householdId := Table.key_of_find? run.found
  rw [run.committed] at once
  intro other found otherTz zone _
  rw [Option.mem_def, run.found] at found
  cases found
  rw [Option.mem_def, run.zone] at zone
  cases zone
  have unique : ∀ target ∈ generationTargets (liveDefinitions db householdId)
      (tz.localDate clock.generation), UniqueDays tz target.1.id rows := by
    intro target member
    obtain ⟨definitionStored, ownDefinition⟩ := target_stored member
    exact uniqueDays_sweeps.mp (once household stored tz run.zone target.1
      definitionStored (ownDefinition.trans ownId.symm))
  have covered : ∀ target ∈ generationTargets (liveDefinitions db householdId)
      (tz.localDate clock.generation), ∀ due, computedDue? tz target = some due →
        ∃ row ∈ rows.rows, row.definitionId = target.1.id ∧ row.dueAt = due := by
    intro target member due computed
    obtain ⟨scheduled, timed⟩ := computedDue?_eq_some.mp computed
    exact upsertAll_covers run.upserts member scheduled timed
  constructor
  · intro target member due computed task taskMember own sameDay
    obtain ⟨row, rowMember, rowOwn, rfl⟩ := covered target member due computed
    have same : task = row := unique target member task
      ((upsertAll_rows run.upserts).1 task taskMember) row rowMember own rowOwn sameDay
    rw [same]
  · intro first firstMember second secondMember sameId due computed otherDue
      otherComputed sameDay
    obtain ⟨row, rowMember, rowOwn, rfl⟩ := covered first firstMember due computed
    obtain ⟨other, otherMember, otherOwn, rfl⟩ :=
      covered second secondMember otherDue otherComputed
    have same : row = other := unique first firstMember row rowMember other otherMember
      rowOwn (otherOwn.trans sameId.symm) sameDay
    rw [same]

/-- An event that leaves the instances alone, and every definition in its
household. -/
theorem once_of_sameInstances (once : OncePerDay pytz db)
    (sameInstances : next.instances = db.instances)
    (sameHouseholds : next.households = db.households)
    (known : ∀ definition ∈ next.definitions.rows, ∃ old ∈ db.definitions.rows,
      old.id = definition.id ∧ old.householdId = definition.householdId) :
    OncePerDay pytz next := by
  intro household stored tz zone definition member own
  obtain ⟨old, oldMember, sameId, sameHousehold⟩ := known definition member
  rw [sameHouseholds] at stored
  rw [sameInstances, ← sameId]
  exact once household stored tz zone old oldMember (sameHousehold.trans own)

theorem created_once {request : CreateDefinition} {parent : Member}
    {household : Household} {tz : TzInfo} {targetDate : Date}
    {instances : Table TaskInstance.id}
    (created : Created pytz request db next parent household tz targetDate instances)
    (definitions : DefinitionsStored db) (once : OncePerDay pytz db) :
    OncePerDay pytz next := by
  have fresh := definitions.fresh
  have sameHouseholds : next.households = db.households := by
    rw [created.committed]
  intro owner stored zoneTz zone definition member own first firstMember second
    secondMember firstOwn secondOwn sameDay
  rw [sameHouseholds] at stored
  rcases created.mem_definitions.mp member with oldDefinition | rfl
  · have old : ∀ task ∈ next.instances.rows, task.definitionId = definition.id →
        task ∈ db.instances.rows := by
      intro task taskMember taskOwn
      rcases created.mem_instances taskMember with kept | ⟨due, _, _, _, rfl⟩
      · exact kept
      · exact absurd taskOwn.symm (Nat.ne_of_lt (Table.key_lt_freshKey oldDefinition))
    exact once owner stored zoneTz zone definition oldDefinition own first
      (old first firstMember firstOwn) second (old second secondMember secondOwn)
      firstOwn secondOwn sameDay
  · rcases created.mem_instances firstMember with kept | ⟨due, _, _, _, firstNew⟩
    · exact absurd firstOwn (fresh first kept)
    · rcases created.mem_instances secondMember with kept | ⟨otherDue, _, _, _, secondNew⟩
      · exact absurd secondOwn (fresh second kept)
      · refine next.instances.row_unique firstMember secondMember ?_
        rw [firstNew, secondNew]
        rfl

end Event

/-! ## Every run -/

theorem planning_definitionsStored (pytz : String → Option TzInfo) (db : Database)
    (event : PlanningEvent) (definitions : DefinitionsStored db) :
    DefinitionsStored (planningStep pytz db event) := by
  have effect := planningStep_effect pytz db event
  generalize planningStep pytz db event = next at effect
  cases effect with
  | refused => exact definitions
  | created created =>
      intro task member
      rcases created.mem_instances member with old | ⟨due, _, _, _, rfl⟩
      · obtain ⟨definition, stored, own⟩ := definitions task old
        exact ⟨definition, created.mem_definitions.mpr (Or.inl stored), own⟩
      · exact ⟨_, created.mem_definitions.mpr (Or.inr rfl), rfl⟩
  | bundled =>
      intro task member
      obtain ⟨definition, stored, own⟩ := definitions task member
      refine ⟨_, mem_afterSeries_definitions.mpr ⟨definition, stored, rfl⟩, ?_⟩
      split <;> exact own
  | edited found same =>
      intro task member
      obtain ⟨definition, stored, own⟩ := definitions task member
      rename_i request edited old
      by_cases hit : definition.id = old.id
      · exact ⟨old, Table.mem_save.mpr (Or.inl ⟨rfl, definition, stored, hit⟩),
          hit.symm.trans own⟩
      · exact ⟨definition, Table.mem_save.mpr (Or.inr ⟨stored, hit⟩), own⟩
  | generated run =>
      rw [run.committed]
      intro task member
      obtain ⟨old, oldMember, rfl⟩ := mem_sweeps.mp member
      rw [(sweepRow_effect _ _ _ old).sameTask.definitionId]
      rcases (upsertAll_rows run.upserts).2 old oldMember with
        kept | ⟨defn, date, due, inserts⟩
      · exact definitions old kept
      · rw [inserts.built]
        exact ⟨defn, (mem_liveDefinitions (mem_generationTargets.mp inserts.target).1).1, rfl⟩

theorem planning_once_iff {pytz : String → Option TzInfo} (db : Database)
    (event : PlanningEvent) (definitions : DefinitionsStored db)
    (once : OncePerDay pytz db) :
    OncePerDay pytz (planningStep pytz db event) ↔ DueTimesKept pytz db event := by
  have effect := planningStep_effect pytz db event
  cases event with
  | nightly clock householdId =>
      cases returned : generateForHousehold pytz clock householdId db with
      | error raised =>
          simp only [planningStep, returned]
          refine iff_of_true once ?_
          intro household found tz zone reads
          obtain ⟨next, success⟩ := generateForHousehold_returns_iff.mpr
            ⟨household, tz, found, zone, reads⟩
          rw [returned] at success
          cases success
      | ok next =>
          simp only [planningStep, returned]
          obtain ⟨household, tz, rows, run⟩ := generateForHousehold_ok returned
          exact ⟨kept_of_once run, once_of_kept run once⟩
  | createDefinition request =>
      refine iff_of_true ?_ trivial
      generalize planningStep pytz db (.createDefinition request) = next at effect
      cases effect with
      | refused => exact once
      | created created => exact created_once created definitions once
  | createSeries request =>
      refine iff_of_true ?_ trivial
      generalize planningStep pytz db (.createSeries request) = next at effect
      cases effect with
      | refused => exact once
      | bundled =>
          refine once_of_sameInstances once rfl rfl ?_
          intro definition member
          obtain ⟨old, stored, rfl⟩ := mem_afterSeries_definitions.mp member
          refine ⟨old, stored, ?_⟩
          split <;> exact ⟨rfl, rfl⟩
  | updateDefinition request =>
      refine iff_of_true ?_ trivial
      generalize planningStep pytz db (.updateDefinition request) = next at effect
      cases effect with
      | refused => exact once
      | edited found same =>
          refine once_of_sameInstances once rfl rfl ?_
          intro definition member
          rcases Table.mem_save.mp member with ⟨rfl, _⟩ | ⟨stored, _⟩
          · exact ⟨_, Table.mem_of_find? found, same.id.symm, same.householdId.symm⟩
          · exact ⟨definition, stored, rfl, rfl⟩

/-- A definition has one instance a day exactly as long as every run computes one
due time for a day, that of the instance that is there. -/
theorem once_per_day_iff {pytz : String → Option TzInfo} {db : Database}
    (definitions : DefinitionsStored db)
    (once : OncePerDay pytz db) (events : List PlanningEvent) :
    Always (planningStep pytz) (OncePerDay pytz) db events ↔
      EachMeets (planningStep pytz) (DueTimesKept pytz) db events := by
  -- the instances keep their definitions on every run, so that is the invariant
  exact always_iff_eachMeets DefinitionsStored
    (fun db event stored => planning_definitionsStored pytz db event stored)
    (fun db event stored onceBefore => planning_once_iff db event stored onceBefore)
    definitions once events

theorem once_per_day_without_edit :
    Always (planningStep utcOnly) (OncePerDay utcOnly) plannedDatabase
      [nightRun 1, nightRun 2] :=
  (once_per_day_iff (fun _ member => by cases member)
    (fun _ _ _ _ _ _ _ _ member => by cases member) _).mpr (by decide +kernel)

/-- The due time moves to 21:00 between two runs: the second run adds an instance
to every day it shares with the first. -/
theorem twice_per_day_after_edit :
    ¬ Always (planningStep utcOnly) (OncePerDay utcOnly) plannedDatabase
      [nightRun 1, .updateDefinition ⟨1, 1, editDueTime "21:00" (by decide)⟩,
        nightRun 2] := by
  decide +kernel

/-- A zone whose clock goes from 23:00 to midnight on 2 January 2025; `localize`
gives a skipped time the offset before. -/
def skippingZone : TzInfo where
  utcOffset instant :=
    if instant < timedeltaSeconds 1735858800 then 0 else timedeltaHours 1
  localizeOffset naive :=
    some (if naive < timedeltaSeconds 1735862400 then 0 else timedeltaHours 1)

/-- A task due at 23:30 is due half past midnight on the night of the skip, and at
23:30 again. -/
example : ¬ OncePerDay (fun _ => some skippingZone)
    (planningStep (fun _ => some skippingZone)
      { plannedDatabase with
        definitions := ⟨[{ sampleDefinition with dueTime := "23:30" }],
          List.nodup_singleton _⟩ } (nightRun 1)) := by
  decide +kernel

end KidsChores.Properties
