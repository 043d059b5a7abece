import KidsChores.Library.SlidingHorizon
import KidsChores.Properties.DailyOccurrence
import KidsChores.Properties.NightlyRobustness
import KidsChores.Properties.SweepCompleteness

/-!
# Generation without gaps

A definition from its creation on, under nightly runs of any households: repeated
runs and the instance created on demand meet the same rows.  Runs at most fourteen
days apart leave exactly the scheduled instances, as long as every live definition of
the household can be read; one that cannot stops the household's run.
-/

set_option autoImplicit false

namespace KidsChores.Properties

open KidsChores.Lifecycle
open KidsChores.Library
open KidsChores.Library.PyDatetime
open KidsChores.Library.PyText
open KidsChores.Library.Runs
open KidsChores.Library.SlidingHorizon
open KidsChores.Models
open KidsChores.Planning
open KidsChores.Routers
open KidsChores.Routers.Definitions
open KidsChores.Services.StateMachine
open KidsChores.Workers.GenerateInstances

structure NightlyRun where
  clock : JobClock
  householdId : Uuid
  deriving DecidableEq, Repr

/-- A run that raises is rolled back. -/
def nightlyStep (pytz : String → Option TzInfo) (db : Database) (run : NightlyRun) :
    Database :=
  match generateForHousehold pytz run.clock run.householdId db with
  | .error _ => db
  | .ok next => next

/-- The local date of a run of the household, whether it returns or not. -/
def ownDate? (householdId : Uuid) (tz : TzInfo) (run : NightlyRun) : Option Int :=
  if run.householdId = householdId then
    some (tz.localDate run.clock.generation).ordinal
  else none

/-- The local date of a run of the household that returns. -/
def runDate? (pytz : String → Option TzInfo) (householdId : Uuid) (tz : TzInfo)
    (db : Database) (run : NightlyRun) : Option Int :=
  match generateForHousehold pytz run.clock run.householdId db with
  | .error _ => none
  | .ok _ => ownDate? householdId tz run

/-- `localize` maps a date and the due time to an instant that falls on that date. -/
def FallsOnDate (tz : TzInfo) (dueTime : String) : Prop :=
  ∀ date due, dueUtc tz date dueTime = .ok due → tz.localDate due = date

def ExactlyScheduled (tz : TzInfo) (definition : TaskDefinition) (db : Database)
    (date : Date) : Prop :=
  if shouldGenerateForDate definition date = .ok true then
    ∃! task, task ∈ db.instances.rows ∧ task.definitionId = definition.id ∧
      tz.localDate task.dueAt = date
  else
    ∀ task ∈ db.instances.rows, task.definitionId = definition.id →
      tz.localDate task.dueAt ≠ date

structure ValidStrings (definition : TaskDefinition) : Prop where
  startDate : (strptimeDate? definition.startDate).isSome = true
  endDate : truthy definition.endDate = true →
    (strptimeDate? (definition.endDate.getD "")).isSome = true
  dueTime : (parseDueTime? definition.dueTime).isSome = true

/-! ## The rows of a definition -/

/-- `uq_instance_def_due`, for one definition. -/
def SingleDues (definitionId : Uuid) (instances : Table TaskInstance.id) : Prop :=
  ∀ first ∈ instances.rows, ∀ second ∈ instances.rows,
    first.definitionId = definitionId → second.definitionId = definitionId →
      first.dueAt = second.dueAt → first = second

/-- A live definition whose instances are due on scheduled dates, one for each due
time. -/
structure Generating (tz : TzInfo) (household : Household) (definition : TaskDefinition)
    (db : Database) : Prop where
  found : db.households.find? household.id = some household
  live : definition ∈ liveDefinitions db household.id
  scheduled : ∀ task ∈ db.instances.rows, task.definitionId = definition.id →
    ∃ date, shouldGenerateForDate definition date = .ok true ∧
      dueUtc tz date definition.dueTime = .ok task.dueAt
  single : SingleDues definition.id db.instances

def Generated (tz : TzInfo) (definition : TaskDefinition) (db : Database) (day : Int) :
    Prop :=
  shouldGenerateForDate definition ⟨day⟩ = .ok true →
    ∃ task ∈ db.instances.rows, task.definitionId = definition.id ∧
      dueUtc tz ⟨day⟩ definition.dueTime = .ok task.dueAt

/-- The rows of a database are still there, with the columns no run writes. -/
def RowsKept (db next : Database) : Prop :=
  ∀ task ∈ db.instances.rows, ∃ kept ∈ next.instances.rows, SameTask task kept

section Run

variable {pytz : String → Option TzInfo} {tz : TzInfo} {household : Household}
variable {definition : TaskDefinition} {db next : Database} {clock : JobClock}
variable {householdId : Uuid} {owner : Household} {runTz : TzInfo}
variable {rows : Table TaskInstance.id}

theorem mem_run (run : GeneratedFor pytz clock householdId db next owner runTz rows)
    {task : TaskInstance} :
    task ∈ next.instances.rows ↔ ∃ old ∈ rows.rows, task =
      sweepRow ((liveDefinitions db householdId).map TaskDefinition.id)
        owner.gracePeriodHours clock old := by
  rw [run.committed]
  exact mem_sweeps

theorem run_rowsKept
    (run : GeneratedFor pytz clock householdId db next owner runTz rows) :
    RowsKept db next := by
  intro task member
  have stored := (upsertAll_rows run.upserts).1 task member
  exact ⟨_, (mem_run run).mpr ⟨task, stored, rfl⟩,
    (sweepRow_effect _ _ clock task).sameTask⟩

theorem Generated.kept {day : Int} (generated : Generated tz definition db day)
    (keeps : RowsKept db next) : Generated tz definition next day := by
  intro asked
  obtain ⟨task, member, own, due⟩ := generated asked
  obtain ⟨kept, keptMember, same⟩ := keeps task member
  exact ⟨kept, keptMember, same.definitionId.trans own, by rw [same.dueAt]; exact due⟩

/-- A run's target with the definition's id is the definition, in its household. -/
theorem target_same (stored : definition ∈ liveDefinitions db household.id)
    {today : Date} {target : TaskDefinition × Date}
    (member : target ∈ generationTargets (liveDefinitions db householdId) today)
    (own : target.1.id = definition.id) :
    target.1 = definition ∧ householdId = household.id := by
  obtain ⟨definitionStored, definitionOwn⟩ := mem_liveDefinitions stored
  obtain ⟨targetStored, targetOwn⟩ := mem_liveDefinitions (mem_generationTargets.mp member).1
  have same := db.definitions.row_unique targetStored definitionStored own
  rw [same] at targetOwn
  exact ⟨same, targetOwn.symm.trans definitionOwn⟩

theorem single_upsertAll {now : Instant} {targets : List (TaskDefinition × Date)}
    {instances generated : Table TaskInstance.id} {definitionId : Uuid}
    (single : SingleDues definitionId instances)
    (upserts : upsertAll runTz now targets instances = .ok generated) :
    SingleDues definitionId generated := by
  refine upsertAll_invariant (SingleDues definitionId) ?_ single upserts
  intro before after defn targetDate _ unique upserted
  rcases upsert_cases upserted with same | ⟨due, _, _, free, inserted⟩
  · rw [same]
    exact unique
  · rw [inserted]
    intro first firstMember second secondMember firstOwn secondOwn sameDue
    rcases Table.mem_append.mp firstMember with firstOld | rfl
    · rcases Table.mem_append.mp secondMember with secondOld | rfl
      · exact unique first firstOld second secondOld firstOwn secondOwn sameDue
      · exact absurd ⟨firstOwn.trans secondOwn.symm, sameDue⟩ (free first firstOld)
    · rcases Table.mem_append.mp secondMember with secondOld | rfl
      · exact absurd ⟨secondOwn.trans firstOwn.symm, sameDue.symm⟩ (free second secondOld)
      · rfl

theorem single_run (single : SingleDues definition.id db.instances)
    (run : GeneratedFor pytz clock householdId db next owner runTz rows) :
    SingleDues definition.id next.instances := by
  have unique := single_upsertAll single run.upserts
  have same := fun task => (sweepRow_effect
    ((liveDefinitions db householdId).map TaskDefinition.id) owner.gracePeriodHours clock
    task).sameTask
  intro first firstMember second secondMember firstOwn secondOwn sameDue
  obtain ⟨firstOld, firstStored, rfl⟩ := (mem_run run).mp firstMember
  obtain ⟨secondOld, secondStored, rfl⟩ := (mem_run run).mp secondMember
  rw [(same firstOld).definitionId] at firstOwn
  rw [(same secondOld).definitionId] at secondOwn
  rw [(same firstOld).dueAt, (same secondOld).dueAt] at sameDue
  rw [unique firstOld firstStored secondOld secondStored firstOwn secondOwn sameDue]

theorem Generating.run (zone : pytz household.timezone = some tz)
    (generating : Generating tz household definition db)
    (run : GeneratedFor pytz clock householdId db next owner runTz rows) :
    Generating tz household definition next := by
  have sameHouseholds : next.households = db.households := by rw [run.committed]
  have sameDefinitions : next.definitions = db.definitions := by rw [run.committed]
  constructor
  · rw [sameHouseholds]
    exact generating.found
  · unfold liveDefinitions
    rw [sameDefinitions]
    exact generating.live
  · intro task member own
    obtain ⟨old, oldMember, rfl⟩ := (mem_run run).mp member
    have same := (sweepRow_effect ((liveDefinitions db householdId).map TaskDefinition.id)
      owner.gracePeriodHours clock old).sameTask
    rw [same.definitionId] at own
    rw [same.dueAt]
    rcases (upsertAll_rows run.upserts).2 old oldMember with
      stored | ⟨defn, targetDate, due, inserts⟩
    · exact generating.scheduled old stored own
    · rw [inserts.built] at own ⊢
      obtain ⟨rfl, sameHousehold⟩ := target_same generating.live inserts.target own
      -- the run is one of the definition's household, so its zone is the zone
      have sameOwner : owner = household := by
        have found := run.found
        rw [sameHousehold, generating.found] at found
        exact (Option.some.inj found).symm
      have sameZone : runTz = tz := by
        have runZone := run.zone
        rw [sameOwner, zone] at runZone
        exact (Option.some.inj runZone).symm
      refine ⟨targetDate, inserts.scheduled, ?_⟩
      rw [← sameZone]
      exact inserts.timed
  · exact single_run generating.single run

theorem run_generates (generating : Generating tz household definition db)
    (run : GeneratedFor pytz clock household.id db next owner tz rows) {day : Int}
    (from_ : (tz.localDate clock.generation).ordinal ≤ day)
    (below : day < (tz.localDate clock.generation).ordinal + 14) :
    Generated tz definition next day := by
  intro asked
  have target : (definition, (⟨day⟩ : Date)) ∈ generationTargets
      (liveDefinitions db household.id) (tz.localDate clock.generation) := by
    refine mem_generationTargets.mpr ⟨generating.live,
      (day - (tz.localDate clock.generation).ordinal).toNat, ?_, ?_⟩
    · unfold generationHorizonDays
      omega
    · simp only [Date.addDays, Date.mk.injEq]
      omega
  have reads := upsertAll_returns_iff.mp ⟨rows, run.upserts⟩ _ target
  simp only [TargetReads, asked] at reads
  cases timed : dueUtc tz ⟨day⟩ definition.dueTime with
  | error raised =>
      rw [timed] at reads
      cases reads
  | ok due =>
      obtain ⟨task, member, own, sameDue⟩ :=
        upsertAll_covers run.upserts target asked timed
      have same := (sweepRow_effect ((liveDefinitions db household.id).map TaskDefinition.id)
        owner.gracePeriodHours clock task).sameTask
      refine ⟨_, (mem_run run).mpr ⟨task, member, rfl⟩, same.definitionId.trans own, ?_⟩
      rw [same.dueAt, sameDue]

end Run

/-! ## Every run -/

section Runs

variable {pytz : String → Option TzInfo} {tz : TzInfo} {household : Household}
variable {definition : TaskDefinition}

theorem nightlyStep_cases (pytz : String → Option TzInfo) (db : Database)
    (run : NightlyRun) :
    nightlyStep pytz db run = db ∨ ∃ owner runTz rows,
      GeneratedFor pytz run.clock run.householdId db (nightlyStep pytz db run) owner
        runTz rows := by
  cases returned : generateForHousehold pytz run.clock run.householdId db with
  | error raised =>
      simp only [nightlyStep, returned]
      exact Or.inl trivial
  | ok next =>
      simp only [nightlyStep, returned]
      exact Or.inr (generateForHousehold_ok returned)

theorem nightlyStep_rowsKept (pytz : String → Option TzInfo) (db : Database)
    (run : NightlyRun) : RowsKept db (nightlyStep pytz db run) := by
  rcases nightlyStep_cases pytz db run with same | ⟨owner, runTz, rows, ran⟩
  · rw [same]
    intro task member
    exact ⟨task, member, SameTask.refl task⟩
  · exact run_rowsKept ran

theorem Generating.nightly (zone : pytz household.timezone = some tz) {db : Database}
    (generating : Generating tz household definition db) (run : NightlyRun) :
    Generating tz household definition (nightlyStep pytz db run) := by
  rcases nightlyStep_cases pytz db run with same | ⟨owner, runTz, rows, ran⟩
  · rw [same]
    exact generating
  · exact generating.run zone ran

theorem runDate?_eq_some {db : Database} {run : NightlyRun} {date : Int}
    (dated : runDate? pytz household.id tz db run = some date) :
    run.householdId = household.id ∧
      date = (tz.localDate run.clock.generation).ordinal ∧
      ∃ owner runTz rows, GeneratedFor pytz run.clock run.householdId db
        (nightlyStep pytz db run) owner runTz rows := by
  cases returned : generateForHousehold pytz run.clock run.householdId db with
  | error raised =>
      simp only [runDate?, returned] at dated
      cases dated
  | ok next =>
      simp only [runDate?, ownDate?, returned] at dated
      split at dated
      · rename_i own
        cases dated
        have stepped : nightlyStep pytz db run = next := by
          simp only [nightlyStep, returned]
        rw [stepped]
        exact ⟨own, rfl, generateForHousehold_ok returned⟩
      · cases dated

theorem nightly_covers (zone : pytz household.timezone = some tz) :
    Covers (nightlyStep pytz) (runDate? pytz household.id tz) 14
      (Generating tz household definition) (Generated tz definition) where
  preserved := fun _ run generating => generating.nightly zone run
  kept := fun db run _ _ generated => generated.kept (nightlyStep_rowsKept pytz db run)
  reaches := by
    intro db run date day generating dated from_ below
    obtain ⟨own, rfl, owner, runTz, rows, ran⟩ := runDate?_eq_some dated
    rw [own] at ran
    have sameOwner : owner = household :=
      Option.some.inj (ran.found.symm.trans generating.found)
    subst sameOwner
    have sameZone : runTz = tz := Option.some.inj (ran.zone.symm.trans zone)
    subst sameZone
    exact run_generates generating ran from_ below

theorem exactly_of_generated {db : Database}
    (falls : FallsOnDate tz definition.dueTime)
    (generating : Generating tz household definition db) {date : Date}
    (generated : Generated tz definition db date.ordinal) :
    ExactlyScheduled tz definition db date := by
  -- the date an instance was computed for is its local date
  have ofDate : ∀ task ∈ db.instances.rows, task.definitionId = definition.id →
      tz.localDate task.dueAt = date →
        shouldGenerateForDate definition date = .ok true ∧
          dueUtc tz date definition.dueTime = .ok task.dueAt := by
    intro task member own onDate
    obtain ⟨computed, asked, timed⟩ := generating.scheduled task member own
    have same : computed = date := (falls computed task.dueAt timed).symm.trans onDate
    rw [← same]
    exact ⟨asked, timed⟩
  unfold ExactlyScheduled
  by_cases asked : shouldGenerateForDate definition date = .ok true
  · rw [if_pos asked]
    obtain ⟨task, member, own, timed⟩ := generated asked
    refine ⟨task, ⟨member, own, falls date task.dueAt timed⟩, ?_⟩
    rintro other ⟨otherMember, otherOwn, onDate⟩
    obtain ⟨_, otherTimed⟩ := ofDate other otherMember otherOwn onDate
    have sameDue : other.dueAt = task.dueAt :=
      Except.ok.inj (otherTimed.symm.trans timed)
    exact generating.single other otherMember task member otherOwn own sameDue
  · rw [if_neg asked]
    intro task member own onDate
    exact asked (ofDate task member own onDate).1

/-! ## Runs that return -/

theorem ValidStrings.readable (valid : ValidStrings definition)
    (localizes : ∀ naive, (tz.localize? naive).isSome = true) (date : Date) :
    Readable tz definition date := by
  refine ⟨valid.startDate, fun _ _ _ ends => valid.endDate ends, fun _ => ?_⟩
  obtain ⟨time, parsed⟩ := Option.isSome_iff_exists.mp valid.dueTime
  exact ⟨time, parsed, localizes (naiveAt date time.1 time.2)⟩

/-- The household's row and its live definitions are those of the start. -/
structure Unedited (household : Household) (start db : Database) : Prop where
  found : db.households.find? household.id = some household
  live : liveDefinitions db household.id = liveDefinitions start household.id

theorem Unedited.nightly {start db : Database} (unedited : Unedited household start db)
    (run : NightlyRun) : Unedited household start (nightlyStep pytz db run) := by
  rcases nightlyStep_cases pytz db run with same | ⟨owner, runTz, rows, ran⟩
  · rw [same]
    exact unedited
  · rw [ran.committed]
    exact ⟨unedited.found, unedited.live⟩

theorem Unedited.dated {start db : Database} (unedited : Unedited household start db)
    {run : NightlyRun} (readable : run.householdId = household.id →
      HouseholdReadable pytz run.clock start household) :
    runDate? pytz household.id tz db run = ownDate? household.id tz run := by
  cases returned : generateForHousehold pytz run.clock run.householdId db with
  | ok next => simp only [runDate?, returned]
  | error raised =>
      simp only [runDate?, returned, ownDate?]
      split
      · rename_i own
        obtain ⟨zone, known, reads⟩ := readable own
        rw [← unedited.live] at reads
        obtain ⟨next, success⟩ := (household_returns_iff
          (Table.mem_of_find? unedited.found)).mpr ⟨zone, known, reads⟩
        rw [own, success] at returned
        cases returned
      · rfl

end Runs

/-! ## From the creation on -/

section Creation

variable {pytz : String → Option TzInfo} {request : CreateDefinition}
variable {before start : Database} {parent : Member} {household : Household}
variable {tz : TzInfo}

/-- The new definition is live, with at most the instance created on demand. -/
theorem created_generating (stored : DefinitionsStored before)
    {targetDate : Date} {instances : Table TaskInstance.id}
    (created : Created pytz request before start parent household tz targetDate
      instances) :
    Generating tz household
      (request.body.definition household parent before.definitions.freshKey) start := by
  have fresh := stored.fresh
  have sameHouseholds : start.households = before.households := by
    rw [created.committed]
  constructor
  · obtain ⟨_, householdFound⟩ := loadParent_ok created.loaded
    rw [sameHouseholds, Table.key_of_find? householdFound]
    exact householdFound
  · refine List.mem_filter.mpr ⟨created.mem_definitions.mpr (Or.inr rfl), ?_⟩
    simp [TaskDefinitionCreate.definition]
  · intro task member own
    rcases created.mem_instances member with old | ⟨due, asked, timed, _, rfl⟩
    · exact absurd own (fresh task old)
    · exact ⟨targetDate, asked, timed⟩
  · intro first firstMember second secondMember firstOwn secondOwn _
    rcases created.mem_instances firstMember with old | ⟨_, _, _, _, firstNew⟩
    · exact absurd firstOwn (fresh first old)
    · rcases created.mem_instances secondMember with old | ⟨_, _, _, _, secondNew⟩
      · exact absurd secondOwn (fresh second old)
      · refine start.instances.row_unique firstMember secondMember ?_
        rw [firstNew, secondNew]
        rfl

end Creation

/-- From the first run of the household to the end of the last one's horizon the
definition has exactly its scheduled instances, when the runs are at most fourteen days
apart. -/
def Gapless (pytz : String → Option TzInfo) (tz : TzInfo) (household : Household)
    (definition : TaskDefinition) (start : Database) (runs : List NightlyRun) : Prop :=
  ∀ first rest, runs.filterMap (ownDate? household.id tz) = first :: rest →
    (first :: rest).IsChain (Spaced 14) →
      ∀ date : Date, first ≤ date.ordinal → date.ordinal < rest.getLastD first + 14 →
        ExactlyScheduled tz definition (runFrom (nightlyStep pytz) start runs) date

/-- Every run of the household can read each of its live definitions. -/
def RunsRead (pytz : String → Option TzInfo) (household : Household) (start : Database)
    (runs : List NightlyRun) : Prop :=
  ∀ run ∈ runs, run.householdId = household.id →
    HouseholdReadable pytz run.clock start household

/-- No run touches what is there, and there is no gap while the runs can read the
household's live definitions, as they can when all their strings are valid. -/
theorem generation_gapless {pytz : String → Option TzInfo} {request : CreateDefinition}
    {before start : Database} {parent : Member} {household : Household} {tz : TzInfo}
    (stored : DefinitionsStored before)
    (loaded : loadParent before request.memberId = .ok (parent, household))
    (zone : pytz household.timezone = some tz)
    (falls : FallsOnDate tz request.body.dueTime)
    (returned : createDefinition pytz request before = .ok start)
    (runs : List NightlyRun) :
    (RunsRead pytz household start runs → Gapless pytz tz household
      (request.body.definition household parent before.definitions.freshKey) start runs) ∧
    EachMeets (nightlyStep pytz) (fun db run => RowsKept db (nightlyStep pytz db run))
      start runs ∧
    ((∀ other ∈ liveDefinitions start household.id, ValidStrings other) →
      (∀ naive, (tz.localize? naive).isSome = true) →
        RunsRead pytz household start runs) := by
  obtain ⟨creator, owner, createdTz, targetDate, instances, created⟩ :=
    createDefinition_ok returned
  obtain ⟨rfl, rfl⟩ := Prod.mk.inj (Except.ok.inj (created.loaded.symm.trans loaded))
  have sameZone : createdTz = tz := Option.some.inj (created.zone.symm.trans zone)
  subst sameZone
  have initial := created_generating stored created
  refine ⟨?_, ?_, ?_⟩
  · intro reads first rest dates spaced date from_ below
    have generating := (invariant_always _ (fun _ run holds => holds.nightly zone run)
      initial runs).at_end
    have dated : runDates (nightlyStep pytz) (runDate? pytz owner.id createdTz) start runs =
        runs.filterMap (ownDate? owner.id createdTz) :=
      runDates_eq_filterMap (fun _ run unedited => unedited.nightly run)
        (fun _ run member unedited => unedited.dated (reads run member))
        (⟨initial.found, rfl⟩ : Unedited owner start start)
    have generated := (nightly_covers zone).gapless initial (dated.trans dates) spaced
      date.ordinal from_ below
    have sameTime : (request.body.definition owner creator
        before.definitions.freshKey).dueTime = request.body.dueTime := rfl
    rw [← sameTime] at falls
    exact exactly_of_generated falls generating generated
  · exact eachMeets_of_forall (fun db run _ => nightlyStep_rowsKept pytz db run) start
  · intro valid localizes run _ _
    exact ⟨createdTz, zone, fun defn live _ _ => (valid defn live).readable localizes _⟩

/-! ## The dishes of a family on UTC -/

theorem parseDueTime?_bounds {dueTime : String} {hour minute : Int}
    (parsed : parseDueTime? dueTime = some (hour, minute)) :
    0 ≤ hour ∧ hour ≤ 23 ∧ 0 ≤ minute ∧ minute ≤ 59 := by
  unfold parseDueTime? at parsed
  split at parsed
  · split at parsed
    · split at parsed
      · rename_i inRange
        cases parsed
        exact inRange
      · cases parsed
    · cases parsed
  · cases parsed

theorem utc_fallsOnDate (dueTime : String) : FallsOnDate (TzInfo.fixed 0) dueTime := by
  intro date due timed
  unfold dueUtc at timed
  split at timed
  · cases timed
  · rename_i hour minute parsed
    have bounds := parseDueTime?_bounds parsed
    cases timed
    simp only [TzInfo.localDate, TzInfo.localTime, TzInfo.fixed, naiveDate, naiveAt,
      microsecondsPerDay, epochOrdinal, timedeltaSeconds]
    dsimp only [Instant, Timedelta, NaiveDatetime] at *
    cases date
    simp only [Date.mk.injEq]
    omega

/-- Two runs of one night, the next night's, and one after a fortnight's outage. -/
def dishesRuns : List NightlyRun :=
  [⟨nightClock 1, 1⟩, ⟨nightClock 1, 1⟩, ⟨nightClock 2, 1⟩, ⟨nightClock 16, 1⟩]

theorem dishesCreated_committed :
    createDefinition utcOnly ⟨nightOf 1, nightOf 1, 1, dailyDishes⟩ newFamily =
      .ok dishesCreated := by
  have returns : (createDefinition utcOnly ⟨nightOf 1, nightOf 1, 1, dailyDishes⟩
      newFamily).isOk = true := by decide +kernel
  unfold dishesCreated
  cases returned : createDefinition utcOnly ⟨nightOf 1, nightOf 1, 1, dailyDishes⟩
      newFamily with
  | error raised =>
      rw [returned] at returns
      cases returns
  | ok next => rfl

theorem generation_gapless_dishes :
    ∃ definition ∈ dishesCreated.definitions.rows, ∀ date : Date,
      739252 ≤ date.ordinal → date.ordinal < 739281 →
        ExactlyScheduled (TzInfo.fixed 0) definition
          (runFrom (nightlyStep utcOnly) dishesCreated dishesRuns) date := by
  obtain ⟨gapless, _, readable⟩ := @generation_gapless utcOnly
    ⟨nightOf 1, nightOf 1, 1, dailyDishes⟩ newFamily dishesCreated sampleParent
    sampleHousehold (TzInfo.fixed 0) (fun _ absent => by cases absent) rfl rfl
    (utc_fallsOnDate _) dishesCreated_committed dishesRuns
  have valid : ∀ other ∈ liveDefinitions dishesCreated sampleHousehold.id,
      (strptimeDate? other.startDate).isSome = true ∧
        (truthy other.endDate = true →
          (strptimeDate? (other.endDate.getD "")).isSome = true) ∧
        (parseDueTime? other.dueTime).isSome = true := by decide +kernel
  have reads := readable
    (fun other live => ⟨(valid other live).1, (valid other live).2.1, (valid other live).2.2⟩)
    (fun _ => rfl)
  have dates : dishesRuns.filterMap (ownDate? 1 (TzInfo.fixed 0)) =
      [739252, 739252, 739253, 739267] := by decide
  refine ⟨dailyDishes.definition sampleHousehold sampleParent 1, ?_, ?_⟩
  · decide +kernel
  · exact gapless reads _ _ dates (by decide)

/-- The family's other definition, after its due time was edited to `25:00`: the body is
accepted. -/
def besideUnreadable : Database :=
  ((updateDefinition ⟨1, 1, editDueTime "25:00" (by decide)⟩ plannedDatabase).toOption).getD
    plannedDatabase

def dishesBeside : Database :=
  ((createDefinition utcOnly ⟨nightOf 1, nightOf 1, 1, dailyDishes⟩
    besideUnreadable).toOption).getD besideUnreadable

/-- The new definition is valid, and the next night's run leaves it without instances. -/
theorem sibling_stops_generation :
    (updateDefinition ⟨1, 1, editDueTime "25:00" (by decide)⟩ plannedDatabase).isOk = true ∧
      (createDefinition utcOnly ⟨nightOf 1, nightOf 1, 1, dailyDishes⟩
        besideUnreadable).isOk = true ∧
      ¬ Gapless utcOnly (TzInfo.fixed 0) sampleHousehold
        (dailyDishes.definition sampleHousehold sampleParent 2) dishesBeside
        [⟨nightClock 1, 1⟩] := by
  refine ⟨by decide +kernel, by decide +kernel, ?_⟩
  intro gapless
  have exactly := gapless 739252 [] (by decide) (List.IsChain.singleton _) ⟨739253⟩
    (by decide) (by decide)
  have asked : shouldGenerateForDate (dailyDishes.definition sampleHousehold sampleParent 2)
      ⟨739253⟩ = .ok true := by decide +kernel
  unfold ExactlyScheduled at exactly
  rw [if_pos asked] at exactly
  obtain ⟨task, ⟨stored, own, onDate⟩, _⟩ := exactly
  have missing : ∀ task ∈ (runFrom (nightlyStep utcOnly) dishesBeside
      [⟨nightClock 1, 1⟩]).instances.rows,
        (TzInfo.fixed 0).localDate task.dueAt ≠ ⟨739253⟩ := by decide +kernel
  exact missing task stored onDate

end KidsChores.Properties
