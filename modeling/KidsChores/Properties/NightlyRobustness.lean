import KidsChores.Library.Batch
import KidsChores.Lifecycle
import KidsChores.Planning
import KidsChores.Routers.Household

/-!
# What the nightly job survives

The job reads the stored strings inside its loop over households, and nothing
catches what they raise.  A household's run depends on its own rows only, so the
job treats the households apart exactly as long as it can read all of them.
-/

set_option autoImplicit false

namespace KidsChores.Properties

open KidsChores.Models
open KidsChores.Library
open KidsChores.Library.Batch
open KidsChores.Library.PyDatetime
open KidsChores.Library.PyText
open KidsChores.Lifecycle
open KidsChores.Planning
open KidsChores.Routers.Definitions
open KidsChores.Routers.Household
open KidsChores.Services.StateMachine
open KidsChores.Workers.GenerateInstances

/-! ## A household's part of the database -/

def anonymous (task : TaskInstance) : TaskInstance := { task with id := 0 }

/-- The instances of the given definitions, without their generated ids. -/
def ownInstances (definitionIds : List Uuid) (instances : Table TaskInstance.id) :
    List TaskInstance :=
  (instances.rows.filter fun task => task.definitionId ∈ definitionIds).map anonymous

structure HouseholdView where
  household : Option Household
  definitions : List TaskDefinition
  instances : List TaskInstance
  deriving DecidableEq

def ownDefinitions (householdId : Uuid) (definitions : Table TaskDefinition.id) :
    List TaskDefinition :=
  definitions.rows.filter fun defn => defn.householdId = householdId

def householdView (householdId : Uuid) (db : Database) : HouseholdView where
  household := db.households.find? householdId
  definitions := ownDefinitions householdId db.definitions
  instances := ownInstances
    ((ownDefinitions householdId db.definitions).map TaskDefinition.id) db.instances

section Instances

variable {definitionIds : List Uuid} {instances : Table TaskInstance.id}

theorem ownInstances_append {defn : TaskDefinition} {due now : Instant} :
    ownInstances definitionIds
        (instances.append (newInstance defn due now) fun _ => rfl) =
      ownInstances definitionIds instances ++
        if defn.id ∈ definitionIds then [newInstance defn due now 0] else [] := by
  simp only [ownInstances, Table.append, List.filter_append, List.map_append]
  by_cases own : defn.id ∈ definitionIds
  · simp [own, newInstance, anonymous]
  · simp [own, newInstance]

/-- Whether an instance is there can be told from the household's own rows. -/
theorem exists_ownInstances {defn : TaskDefinition} {due : Instant}
    (own : defn.id ∈ definitionIds) :
    (∃ task ∈ instances.rows, task.definitionId = defn.id ∧ task.dueAt = due) ↔
      ∃ task ∈ ownInstances definitionIds instances,
        task.definitionId = defn.id ∧ task.dueAt = due := by
  constructor
  · rintro ⟨task, member, sameId, sameDue⟩
    refine ⟨anonymous task, List.mem_map.mpr ⟨task, List.mem_filter.mpr ⟨member, ?_⟩,
      rfl⟩, sameId, sameDue⟩
    simpa [sameId] using own
  · rintro ⟨view, member, sameId, sameDue⟩
    obtain ⟨task, stored, rfl⟩ := List.mem_map.mp member
    exact ⟨task, (List.mem_filter.mp stored).1, sameId, sameDue⟩

/-- An update that does not look at the ids is an update of the own rows. -/
theorem ownInstances_updateWhere {matching : TaskInstance → Bool}
    {update : TaskInstance → TaskInstance} {keeps : ∀ row, (update row).id = row.id}
    (blind : ∀ row, matching (anonymous row) = matching row)
    (commutes : ∀ row, update (anonymous row) = anonymous (update row))
    (sameDefinition : ∀ row, (update row).definitionId = row.definitionId) :
    ownInstances definitionIds (instances.updateWhere matching update keeps) =
      (ownInstances definitionIds instances).map fun row =>
        if matching row then update row else row := by
  simp only [ownInstances, Table.updateWhere, List.filter_map, List.map_map]
  have kept : ((fun task : TaskInstance => decide (task.definitionId ∈ definitionIds)) ∘
      fun row => if matching row then update row else row) =
        fun task => decide (task.definitionId ∈ definitionIds) := by
    funext task
    by_cases hit : matching task = true
    · simp [hit, sameDefinition]
    · simp [hit]
  rw [kept]
  apply List.map_congr_left
  intro task _
  by_cases hit : matching task = true
  · simp [hit, blind, commutes]
  · simp [hit, blind]

theorem ownInstances_sweepOverdue {liveIds : List Uuid} {now : Instant} :
    ownInstances definitionIds (sweepOverdue liveIds now instances) =
      (ownInstances definitionIds instances).map fun row =>
        if row.status = .pending ∧ row.dueAt ≤ now ∧ row.definitionId ∈ liveIds then
          { row with status := .overdue }
        else row := by
  rw [sweepOverdue, ownInstances_updateWhere]
  · simp only [decide_eq_true_eq]
  · exact fun _ => rfl
  · exact fun _ => rfl
  · exact fun _ => rfl

theorem ownInstances_sweepMissed {liveIds : List Uuid} {hours : Int} {now : Instant} :
    ownInstances definitionIds (sweepMissed liveIds hours now instances) =
      (ownInstances definitionIds instances).map fun row =>
        if row.status = .overdue ∧ row.definitionId ∈ liveIds ∧
            graceRemaining row hours now ≤ 0 then
          { row with status := .missed }
        else row := by
  rw [sweepMissed, ownInstances_updateWhere]
  · simp only [decide_eq_true_eq]
  · exact fun _ => rfl
  · exact fun _ => rfl
  · exact fun _ => rfl

theorem mem_ownInstances {row : TaskInstance}
    (member : row ∈ ownInstances definitionIds instances) :
    row.definitionId ∈ definitionIds := by
  obtain ⟨task, stored, rfl⟩ := List.mem_map.mp member
  exact of_decide_eq_true (List.mem_filter.mp stored).2

theorem ownInstances_sweeps_other {liveIds : List Uuid} {hours : Int}
    {dueNow now : Instant} (other : ∀ id ∈ definitionIds, id ∉ liveIds) :
    ownInstances definitionIds
        (sweepMissed liveIds hours now (sweepOverdue liveIds dueNow instances)) =
      ownInstances definitionIds instances := by
  rw [ownInstances_sweepMissed, ownInstances_sweepOverdue, List.map_map]
  conv_rhs => rw [← List.map_id (ownInstances definitionIds instances)]
  apply List.map_congr_left
  intro row member
  have notLive := other row.definitionId (mem_ownInstances member)
  simp [notLive]

/-! ## Upserts on the own rows -/

theorem ownInstances_insert {defn : TaskDefinition} {due now : Instant}
    (own : defn.id ∈ definitionIds) :
    ownInstances definitionIds (insertOnConflictDoNothing instances defn due now) =
      if ∃ task ∈ ownInstances definitionIds instances,
          task.definitionId = defn.id ∧ task.dueAt = due then
        ownInstances definitionIds instances
      else ownInstances definitionIds instances ++ [newInstance defn due now 0] := by
  have present : (∃ task ∈ instances.rows,
      task.definitionId = defn.id ∧ task.dueAt = due) ↔ _ := exists_ownInstances own
  unfold insertOnConflictDoNothing
  by_cases taken : ∃ task ∈ instances.rows,
      task.definitionId = defn.id ∧ task.dueAt = due
  · rw [if_pos taken, if_pos (present.mp taken)]
  · rw [if_neg taken, if_neg (mt present.mpr taken), ownInstances_append, if_pos own]

theorem ownInstances_upsertAll {tz : TzInfo} {now : Instant}
    {targets : List (TaskDefinition × Date)}
    (own : ∀ target ∈ targets, target.1.id ∈ definitionIds)
    {other generated otherGenerated : Table TaskInstance.id}
    (same : ownInstances definitionIds instances = ownInstances definitionIds other)
    (upserts : upsertAll tz now targets instances = .ok generated)
    (otherUpserts : upsertAll tz now targets other = .ok otherGenerated) :
    ownInstances definitionIds generated =
      ownInstances definitionIds otherGenerated := by
  induction targets generalizing instances other with
  | nil =>
      cases upserts
      cases otherUpserts
      exact same
  | cons target rest ih =>
      obtain ⟨defn, targetDate⟩ := target
      have ownHead := own _ List.mem_cons_self
      have ownRest := fun later member => own later (List.mem_cons_of_mem _ member)
      simp only [upsertAll, upsertInstanceForDate] at upserts otherUpserts
      cases scheduled : shouldGenerateForDate defn targetDate with
      | error raised =>
          simp only [scheduled] at upserts
          cases upserts
      | ok wanted =>
          cases wanted with
          | false =>
              simp only [scheduled] at upserts otherUpserts
              exact ih ownRest same upserts otherUpserts
          | true =>
              cases timed : dueUtc tz targetDate defn.dueTime with
              | error raised =>
                  simp only [scheduled, timed] at upserts
                  cases upserts
              | ok due =>
                  simp only [scheduled, timed] at upserts otherUpserts
                  refine ih ownRest ?_ upserts otherUpserts
                  rw [ownInstances_insert ownHead, ownInstances_insert ownHead, same]

theorem ownInstances_upsertAll_other {tz : TzInfo} {now : Instant}
    {targets : List (TaskDefinition × Date)}
    (other : ∀ target ∈ targets, target.1.id ∉ definitionIds)
    {generated : Table TaskInstance.id}
    (upserts : upsertAll tz now targets instances = .ok generated) :
    ownInstances definitionIds generated = ownInstances definitionIds instances := by
  refine upsertAll_invariant (fun table =>
    ownInstances definitionIds table = ownInstances definitionIds instances) ?_ rfl upserts
  intro before after defn targetDate member same upserted
  rcases upsert_cases upserted with unchanged | ⟨due, _, _, _, inserted⟩
  · rw [unchanged, same]
  · rw [inserted, ownInstances_append, if_neg (other _ member), List.append_nil, same]

end Instances

/-! ## The runs of the households are isolated -/

section Isolation

variable {pytz : String → Option TzInfo} {clock : JobClock}

theorem liveDefinitions_own (db : Database) (householdId : Uuid) :
    liveDefinitions db householdId =
      (ownDefinitions householdId db.definitions).filter fun defn => defn.archivedAt = none := by
  simp only [liveDefinitions, ownDefinitions, List.filter_filter]
  apply List.filter_congr
  intro defn _
  simp [Bool.and_comm]

theorem mem_ownDefinitions {db : Database} {householdId : Uuid} {defn : TaskDefinition} :
    defn ∈ ownDefinitions householdId db.definitions ↔
      defn ∈ db.definitions.rows ∧ defn.householdId = householdId := by
  simp [ownDefinitions]

theorem ownDefinitions_apart {db : Database} {first second : Uuid}
    (different : first ≠ second) {defn : TaskDefinition}
    (own : defn ∈ ownDefinitions first db.definitions) :
    defn.id ∉ (ownDefinitions second db.definitions).map TaskDefinition.id := by
  intro taken
  obtain ⟨other, otherOwn, sameId⟩ := List.mem_map.mp taken
  obtain ⟨stored, household⟩ := mem_ownDefinitions.mp own
  obtain ⟨otherStored, otherHousehold⟩ := mem_ownDefinitions.mp otherOwn
  have same := db.definitions.row_unique otherStored stored sameId
  rw [same, household] at otherHousehold
  exact different otherHousehold

theorem target_own {db : Database} {householdId : Uuid} {today : Date}
    {target : TaskDefinition × Date}
    (member : target ∈ generationTargets (liveDefinitions db householdId) today) :
    target.1 ∈ ownDefinitions householdId db.definitions :=
  mem_ownDefinitions.mpr (mem_liveDefinitions (mem_generationTargets.mp member).1)

theorem generateForHousehold_frame {householdId other : Uuid} {db next : Database}
    (success : generateForHousehold pytz clock householdId db = .ok next)
    (different : other ≠ householdId) :
    householdView other next = householdView other db := by
  obtain ⟨household, tz, generated, run⟩ := generateForHousehold_ok success
  have swept : ∀ id ∈ (ownDefinitions other db.definitions).map TaskDefinition.id,
      id ∉ (liveDefinitions db householdId).map TaskDefinition.id := by
    intro id member live
    obtain ⟨defn, own, rfl⟩ := List.mem_map.mp member
    obtain ⟨liveDefn, liveMember, sameId⟩ := List.mem_map.mp live
    have liveOwn := mem_ownDefinitions.mpr (mem_liveDefinitions liveMember)
    refine ownDefinitions_apart different.symm liveOwn ?_
    rw [sameId]
    exact member
  have upserted := ownInstances_upsertAll_other
    (fun target member => ownDefinitions_apart different.symm (target_own member))
    run.upserts
  rw [run.committed]
  simp only [householdView]
  rw [ownInstances_sweeps_other swept, upserted]

/-- A household's run depends on the household's part only. -/
theorem generateForHousehold_depends {householdId : Uuid} {db other next : Database}
    (sameView : householdView householdId db = householdView householdId other)
    (success : generateForHousehold pytz clock householdId db = .ok next) :
    ∃ next', generateForHousehold pytz clock householdId other = .ok next' ∧
      householdView householdId next' = householdView householdId next := by
  obtain ⟨household, tz, generated, run⟩ := generateForHousehold_ok success
  obtain ⟨sameHousehold, sameDefinitions, sameInstances⟩ :=
    HouseholdView.mk.inj sameView
  have found : other.households.find? householdId = some household :=
    sameHousehold.symm.trans run.found
  have live : liveDefinitions other householdId = liveDefinitions db householdId := by
    rw [liveDefinitions_own, liveDefinitions_own, sameDefinitions]
  have reads := upsertAll_returns_iff.mp ⟨generated, run.upserts⟩
  have returns : ∃ next', generateForHousehold pytz clock householdId other =
      .ok next' :=
    generateForHousehold_returns_iff.mpr ⟨household, tz, found, run.zone, by
      rw [live]
      exact reads⟩
  obtain ⟨next', success'⟩ := returns
  obtain ⟨household', tz', generated', run'⟩ := generateForHousehold_ok success'
  have sameFound : household' = household :=
    Option.some.inj (run'.found.symm.trans found)
  subst sameFound
  have sameZone : tz' = tz := Option.some.inj (run'.zone.symm.trans run.zone)
  subst sameZone
  have upserts' := run'.upserts
  rw [live] at upserts'
  refine ⟨next', success', ?_⟩
  rw [← sameDefinitions] at sameInstances
  have sameGenerated := ownInstances_upsertAll
    (fun target member => List.mem_map_of_mem (target_own member)) sameInstances
    run.upserts upserts'
  rw [run'.committed, run.committed]
  simp only [householdView, live]
  rw [HouseholdView.mk.injEq]
  refine ⟨sameHousehold.symm, sameDefinitions.symm, ?_⟩
  rw [ownInstances_sweepMissed, ownInstances_sweepMissed, ownInstances_sweepOverdue,
    ownInstances_sweepOverdue]
  have sameOwn : ownInstances ((ownDefinitions householdId other.definitions).map TaskDefinition.id)
      generated' = ownInstances ((ownDefinitions householdId db.definitions).map TaskDefinition.id)
        generated := by
    rw [← sameDefinitions, sameGenerated]
  rw [sameOwn]

end Isolation

theorem nightly_isolated (pytz : String → Option TzInfo) (clock : Uuid → JobClock) :
    Isolated (fun householdId db =>
      generateForHousehold pytz (clock householdId) householdId db) householdView where
  frame := generateForHousehold_frame
  depends := generateForHousehold_depends

theorem generateHouseholds_runAll (pytz : String → Option TzInfo)
    (clock : Uuid → JobClock) (householdIds : List Uuid) (db : Database) :
    generateHouseholds pytz clock householdIds db =
      runAll (fun householdId db =>
        generateForHousehold pytz (clock householdId) householdId db) householdIds db := by
  induction householdIds generalizing db with
  | nil => rfl
  | cons householdId rest ih =>
      simp only [generateHouseholds, runAll]
      cases generateForHousehold pytz (clock householdId) householdId db with
      | error raised => rfl
      | ok next => exact ih next

/-! ## The strings a run reads -/

/-- The strings of a definition can be read for a date, as far as its schedule
asks for them. -/
structure Readable (tz : TzInfo) (defn : TaskDefinition) (targetDate : Date) :
    Prop where
  startDate : (strptimeDate? defn.startDate).isSome
  endDate : ∀ start ∈ strptimeDate? defn.startDate, ¬ targetDate < start →
    truthy defn.endDate = true → (strptimeDate? (defn.endDate.getD "")).isSome
  dueTime : shouldGenerateForDate defn targetDate = .ok true →
    ∃ time ∈ parseDueTime? defn.dueTime,
      (tz.localize? (naiveAt targetDate time.1 time.2)).isSome

theorem dueUtc_isOk_iff {tz : TzInfo} {targetDate : Date} {dueTime : String} :
    (dueUtc tz targetDate dueTime).isOk = true ↔ ∃ time ∈ parseDueTime? dueTime,
      (tz.localize? (naiveAt targetDate time.1 time.2)).isSome := by
  unfold dueUtc
  cases parseDueTime? dueTime with
  | none => simp [Except.isOk, Except.toBool]
  | some time =>
      cases localized : tz.localize? (naiveAt targetDate time.1 time.2) <;>
        simp [Except.isOk, Except.toBool, localized]

/-- The schedule check returns as soon as it can read the dates it looks at. -/
theorem schedule_returns_iff {defn : TaskDefinition} {targetDate : Date} :
    (∃ wanted, shouldGenerateForDate defn targetDate = .ok wanted) ↔
      (strptimeDate? defn.startDate).isSome ∧
        ∀ start ∈ strptimeDate? defn.startDate, ¬ targetDate < start →
          truthy defn.endDate = true →
          (strptimeDate? (defn.endDate.getD "")).isSome := by
  unfold shouldGenerateForDate
  cases strptimeDate? defn.startDate with
  | none => simp
  | some start =>
      by_cases early : targetDate < start
      · simp [early]
      · cases ends : truthy defn.endDate with
        | false => simp [early]
        | true =>
            cases strptimeDate? (defn.endDate.getD "") with
            | none => simp [early]
            | some finish =>
                simp only [early, if_false, if_true]
                split <;> simp

theorem targetReads_iff {tz : TzInfo} {defn : TaskDefinition} {targetDate : Date} :
    TargetReads tz defn targetDate ↔ Readable tz defn targetDate := by
  have returns : (∃ wanted, shouldGenerateForDate defn targetDate = .ok wanted) ↔ _ :=
    schedule_returns_iff
  unfold TargetReads
  cases scheduled : shouldGenerateForDate defn targetDate with
  | error raised =>
      rw [scheduled] at returns
      refine iff_of_false id fun readable => ?_
      obtain ⟨wanted, same⟩ := returns.mpr ⟨readable.startDate, readable.endDate⟩
      cases same
  | ok wanted =>
      rw [scheduled] at returns
      obtain ⟨start, finish⟩ := returns.mp ⟨wanted, rfl⟩
      cases wanted with
      | false =>
          refine iff_of_true trivial ⟨start, finish, fun other => ?_⟩
          rw [scheduled] at other
          cases other
      | true =>
          rw [dueUtc_isOk_iff]
          exact ⟨fun due => ⟨start, finish, fun _ => due⟩,
            fun readable => readable.dueTime scheduled⟩

/-- A known time zone, and live definitions that can be read for every date of the
horizon. -/
def HouseholdReadable (pytz : String → Option TzInfo) (clock : JobClock)
    (db : Database) (household : Household) : Prop :=
  ∃ tz ∈ pytz household.timezone, ∀ defn ∈ liveDefinitions db household.id,
    ∀ dayOffset : Nat, dayOffset < generationHorizonDays →
      Readable tz defn ((tz.localDate clock.generation).addDays dayOffset)

theorem household_returns_iff {pytz : String → Option TzInfo} {clock : JobClock}
    {db : Database} {household : Household} (stored : household ∈ db.households.rows) :
    (∃ next, generateForHousehold pytz clock household.id db = .ok next) ↔
      HouseholdReadable pytz clock db household := by
  rw [generateForHousehold_returns_iff]
  constructor
  · rintro ⟨other, tz, found, zone, reads⟩
    rw [Table.find?_self db.households stored] at found
    cases found
    refine ⟨tz, zone, fun defn live dayOffset inHorizon => targetReads_iff.mp ?_⟩
    exact reads (defn, _) (mem_generationTargets.mpr ⟨live, dayOffset, inHorizon, rfl⟩)
  · rintro ⟨tz, zone, readable⟩
    refine ⟨household, tz, Table.find?_self db.households stored, zone, ?_⟩
    intro target member
    obtain ⟨live, dayOffset, inHorizon, onDate⟩ := mem_generationTargets.mp member
    rw [targetReads_iff, onDate]
    exact readable target.1 live dayOffset inHorizon

/-! ## The job -/

/-- The job returns, and leaves every household what the household's own run on
the stored data leaves. -/
structure JobRight (pytz : String → Option TzInfo) (clock : Uuid → JobClock)
    (db : Database) : Prop where
  completes : (generateInstances pytz clock db).2 = none
  isolated : ∀ household ∈ db.households.rows, ∃ next,
    generateForHousehold pytz (clock household.id) household.id db = .ok next ∧
      householdView household.id (generateInstances pytz clock db).1 =
        householdView household.id next

/-- The job is robust exactly when every household can be read. -/
theorem nightly_right_iff (pytz : String → Option TzInfo) (clock : Uuid → JobClock)
    (db : Database) :
    JobRight pytz clock db ↔ ∀ household ∈ db.households.rows,
      HouseholdReadable pytz (clock household.id) db household := by
  constructor
  · intro right household stored
    obtain ⟨next, success, _⟩ := right.isolated household stored
    exact (household_returns_iff stored).mp ⟨next, success⟩
  · intro readable
    have returns : ∀ householdId ∈ db.households.rows.map Household.id, ∃ next,
        generateForHousehold pytz (clock householdId) householdId db = .ok next := by
      intro householdId member
      obtain ⟨household, stored, rfl⟩ := List.mem_map.mp member
      exact (household_returns_iff stored).mpr (readable household stored)
    have job := runAll_isolated (nightly_isolated pytz clock) db.households.keysNodup
      returns
    rw [← generateHouseholds_runAll] at job
    refine ⟨job.1, ?_⟩
    intro household stored
    obtain ⟨next, success⟩ := returns household.id (List.mem_map_of_mem stored)
    exact ⟨next, success, job.2 household.id (List.mem_map_of_mem stored) next success⟩

/-! ## Two families -/

/-- A second family beside the sample one, with a daily task of its own. -/
def twoFamilies : Database :=
  { plannedDatabase with
    households := ⟨[sampleHousehold, { sampleHousehold with id := 2 }], by decide⟩
    members := ⟨[sampleParent, sampleTeen, { sampleTeen with id := 3, householdId := 2 }],
      by decide⟩
    definitions := ⟨[sampleDefinition,
      { sampleDefinition with id := 2, householdId := 2, assigneeId := 3 }], by decide⟩ }

/-- The parent of the first family edits a due time to `25:00`, or the time zone to
a name no zone has.  Both bodies are accepted; the job raises, and the second
family gets no instances. -/
theorem accepted_edits_stop_job :
    ¬ JobRight utcOnly (fun _ => ⟨nightOf 1, nightOf 1, nightOf 1⟩)
        (((updateDefinition ⟨1, 1, editDueTime "25:00" (by decide)⟩
          twoFamilies).toOption).getD twoFamilies) ∧
      ¬ JobRight utcOnly (fun _ => ⟨nightOf 1, nightOf 1, nightOf 1⟩)
        (((updateHousehold ⟨1, editTimezone "Mars/Olympus"⟩
          twoFamilies).toOption).getD twoFamilies) := by
  constructor
  · intro right
    have completes := right.completes
    revert completes
    decide +kernel
  · intro right
    have completes := right.completes
    revert completes
    decide +kernel

end KidsChores.Properties
