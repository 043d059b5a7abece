import KidsChores.Lifecycle
import KidsChores.Planning
import KidsChores.Services.SeriesCompletion

/-!
# The instances of a series window

Generation never links an instance to a window.  The log keeps, for every instance
the runs insert, the series its definition belonged to; a window's instances are
the linked ones exactly as long as no member is generated into it.
-/

set_option autoImplicit false

namespace KidsChores.Properties

open KidsChores.Models
open KidsChores.Library
open KidsChores.Library.Runs
open KidsChores.Library.PyDatetime
open KidsChores.Lifecycle
open KidsChores.Planning
open KidsChores.Routers
open KidsChores.Routers.Definitions
open KidsChores.Routers.Series
open KidsChores.Services.SeriesCompletion
open KidsChores.Services.StateMachine
open KidsChores.Workers.GenerateInstances

structure GenerationRecord where
  taskId : Uuid
  seriesId : Option Uuid
  deriving DecidableEq, Repr

structure Logged where
  db : Database
  log : List GenerationRecord := []

/-- The instances an event inserted, with the series of their definitions. -/
def newRecords (db next : Database) : List GenerationRecord :=
  (next.instances.rows.filter fun task => db.instances.find? task.id = none).map
    fun task => ⟨task.id,
      (next.definitions.find? task.definitionId).bind TaskDefinition.seriesId⟩

def loggedStep (pytz : String → Option TzInfo) (state : Logged)
    (event : PlanningEvent) : Logged :=
  let next := planningStep pytz state.db event
  ⟨next, state.log ++ newRecords state.db next⟩

def InWindow (seriesInstance : SeriesInstance) (due : Instant) : Prop :=
  seriesInstance.windowStart ≤ due ∧ due < seriesInstance.windowEnd

instance (seriesInstance : SeriesInstance) (due : Instant) :
    Decidable (InWindow seriesInstance due) :=
  inferInstanceAs (Decidable (_ ∧ _))

def IsMember (log : List GenerationRecord) (seriesInstance : SeriesInstance)
    (task : TaskInstance) : Prop :=
  ⟨task.id, some seriesInstance.seriesId⟩ ∈ log ∧ InWindow seriesInstance task.dueAt

instance (log : List GenerationRecord) (seriesInstance : SeriesInstance)
    (task : TaskInstance) : Decidable (IsMember log seriesInstance task) :=
  inferInstanceAs (Decidable (_ ∧ _))

/-- What `evaluate` inspects for an active window is the set of its members. -/
def MembersLinked (state : Logged) : Prop :=
  ∀ seriesInstance ∈ state.db.seriesInstances.rows,
    seriesInstance.status = .active →
      linkedInstances state.db seriesInstance.id =
        state.db.instances.rows.filter fun task =>
          IsMember state.log seriesInstance task

instance : DecidablePred MembersLinked := fun state => by
  unfold MembersLinked
  infer_instance

/-! ## The condition -/

def FallsIntoWindow (db : Database) (seriesId : Option Uuid) (due : Instant) : Prop :=
  ∃ seriesInstance ∈ db.seriesInstances.rows, seriesInstance.status = .active ∧
    seriesId = some seriesInstance.seriesId ∧ InWindow seriesInstance due

instance (db : Database) (seriesId : Option Uuid) (due : Instant) :
    Decidable (FallsIntoWindow db seriesId due) :=
  inferInstanceAs (Decidable (∃ seriesInstance ∈ db.seriesInstances.rows, _))

/-- The upsert inserts nothing, or nothing that falls into an active window of the
definition's series. -/
def OutsideWindows (tz : TzInfo) (db : Database) (defn : TaskDefinition)
    (targetDate : Date) : Prop :=
  shouldGenerateForDate defn targetDate = .ok true →
    ∀ due ∈ (dueUtc tz targetDate defn.dueTime).toOption,
      (∀ task ∈ db.instances.rows,
        ¬ (task.definitionId = defn.id ∧ task.dueAt = due)) →
      ¬ FallsIntoWindow db defn.seriesId due

instance (tz : TzInfo) (db : Database) (defn : TaskDefinition) (targetDate : Date) :
    Decidable (OutsideWindows tz db defn targetDate) := by
  unfold OutsideWindows
  infer_instance

/-- No upsert of the event inserts a member of an active window. -/
def AvoidsWindows (pytz : String → Option TzInfo) (state : Logged) :
    PlanningEvent → Prop
  | .createDefinition request =>
      ∀ loaded ∈ (loadParent state.db request.memberId).toOption,
        ∀ tz ∈ pytz loaded.2.timezone,
          let definition := request.body.definition loaded.2 loaded.1
            state.db.definitions.freshKey
          ∀ targetDate ∈ (onDemandDate tz request.today definition).toOption,
            OutsideWindows tz state.db definition targetDate
  | .nightly clock householdId =>
      ∀ household ∈ state.db.households.find? householdId,
        ∀ tz ∈ pytz household.timezone,
          ∀ target ∈ generationTargets (liveDefinitions state.db householdId)
            (tz.localDate clock.generation),
            OutsideWindows tz state.db target.1 target.2
  | _ => True

instance (pytz : String → Option TzInfo) (state : Logged) (event : PlanningEvent) :
    Decidable (AvoidsWindows pytz state event) :=
  match event with
  | .createDefinition _ =>
      inferInstanceAs (Decidable (∀ loaded ∈ Except.toOption _, _))
  | .nightly _ _ => inferInstanceAs (Decidable (∀ household ∈ _, _))
  | .updateDefinition _ => isTrue trivial
  | .createSeries _ => isTrue trivial

/-! ## The invariant -/

def SeriesStored (db : Database) : Prop :=
  ∀ definition ∈ db.definitions.rows, ∀ seriesId ∈ definition.seriesId,
    ∃ series, db.series.find? seriesId = some series

structure MembershipInvariant (state : Logged) : Prop where
  unlinked : ∀ task ∈ state.db.instances.rows, task.seriesInstanceId = none
  noMember : ∀ seriesInstance ∈ state.db.seriesInstances.rows,
    seriesInstance.status = .active → ∀ task ∈ state.db.instances.rows,
      ¬ IsMember state.log seriesInstance task
  stored : ∀ generated ∈ state.log,
    (∃ task ∈ state.db.instances.rows, task.id = generated.taskId) ∧
      ∀ seriesId ∈ generated.seriesId,
        ∃ series, state.db.series.find? seriesId = some series
  series : SeriesStored state.db

theorem MembershipInvariant.linked {state : Logged}
    (invariant : MembershipInvariant state) : MembersLinked state := by
  intro seriesInstance stored active
  have noneLinked : linkedInstances state.db seriesInstance.id = [] := by
    refine List.filter_eq_nil_iff.mpr ?_
    intro task member
    simp [invariant.unlinked task member]
  have noneMember : (state.db.instances.rows.filter fun task =>
      IsMember state.log seriesInstance task) = [] := by
    refine List.filter_eq_nil_iff.mpr ?_
    intro task member
    simpa using invariant.noMember seriesInstance stored active task member
  rw [noneLinked, noneMember]

/-- An event that opens no window and generates no member. -/
structure Grows (db next : Database) : Prop where
  sameWindows : next.seriesInstances = db.seriesInstances
  sameSeries : next.series = db.series
  keeps : ∀ old ∈ db.instances.rows, ∃ task ∈ next.instances.rows, task.id = old.id
  origin : ∀ task ∈ next.instances.rows,
    (∃ old ∈ db.instances.rows, SameTask old task) ∨
      task.seriesInstanceId = none ∧ (∀ old ∈ db.instances.rows, old.id ≠ task.id) ∧
        ∃ definition, next.definitions.find? task.definitionId = some definition ∧
          ¬ FallsIntoWindow db definition.seriesId task.dueAt
  series : SeriesStored next

theorem mem_newRecords {db next : Database} {generated : GenerationRecord}
    (new : generated ∈ newRecords db next) :
    ∃ task ∈ next.instances.rows, (∀ old ∈ db.instances.rows, old.id ≠ task.id) ∧
      generated = ⟨task.id,
        (next.definitions.find? task.definitionId).bind TaskDefinition.seriesId⟩ := by
  obtain ⟨task, member, same⟩ := List.mem_map.mp new
  obtain ⟨stored, absent⟩ := List.mem_filter.mp member
  refine ⟨task, stored, ?_, same.symm⟩
  exact Table.find?_eq_none_iff.mp (of_decide_eq_true absent)

theorem Grows.invariant {state : Logged} {next : Database}
    (grows : Grows state.db next) (invariant : MembershipInvariant state) :
    MembershipInvariant ⟨next, state.log ++ newRecords state.db next⟩ := by
  refine ⟨?_, ?_, ?_, grows.series⟩
  · intro task member
    rcases grows.origin task member with ⟨old, stored, same⟩ | ⟨unlinked, _⟩
    · rw [same.seriesInstanceId]
      exact invariant.unlinked old stored
    · exact unlinked
  · rintro seriesInstance stored active task member ⟨inLog, inWindow⟩
    rw [show Logged.db ⟨next, _⟩ = next from rfl, grows.sameWindows] at stored
    rcases List.mem_append.mp inLog with logged | new
    · -- an old record is of an old instance, whose due time no event changes
      obtain ⟨⟨old, oldMember, sameId⟩, _⟩ := invariant.stored _ logged
      rcases grows.origin task member with ⟨source, sourceMember, same⟩ | ⟨_, apart, _⟩
      · refine invariant.noMember seriesInstance stored active source sourceMember ?_
        rw [IsMember, ← same.id, ← same.dueAt]
        exact ⟨logged, inWindow⟩
      · exact apart old oldMember sameId
    · obtain ⟨fresh, freshMember, apart, record⟩ := mem_newRecords new
      obtain ⟨sameId, sameSeries⟩ := GenerationRecord.mk.inj record
      have same : task = fresh :=
        next.instances.row_unique member freshMember sameId
      subst same
      rcases grows.origin task member with ⟨old, oldMember, old_⟩ | ⟨_, _, outside⟩
      · exact apart old oldMember old_.id.symm
      · obtain ⟨definition, found, outside⟩ := outside
        rw [found, Option.bind_some] at sameSeries
        exact outside ⟨seriesInstance, stored, active, sameSeries.symm, inWindow⟩
  · intro generated member
    rcases List.mem_append.mp member with logged | new
    · obtain ⟨⟨old, oldMember, sameId⟩, stored⟩ := invariant.stored generated logged
      obtain ⟨task, taskMember, kept⟩ := grows.keeps old oldMember
      refine ⟨⟨task, taskMember, kept.trans sameId⟩, ?_⟩
      rw [show Logged.db ⟨next, _⟩ = next from rfl, grows.sameSeries]
      exact stored
    · obtain ⟨task, taskMember, _, rfl⟩ := mem_newRecords new
      refine ⟨⟨task, taskMember, rfl⟩, ?_⟩
      intro seriesId named
      obtain ⟨definition, found, own⟩ := Option.bind_eq_some_iff.mp named
      exact grows.series definition (Table.mem_of_find? found) seriesId own

/-! ## One event -/

theorem grows_of_sameInstances {db next : Database}
    (sameInstances : next.instances = db.instances)
    (sameWindows : next.seriesInstances = db.seriesInstances)
    (sameSeries : next.series = db.series) (series : SeriesStored next) :
    Grows db next := by
  refine ⟨sameWindows, sameSeries, ?_, ?_, series⟩
  · intro old member
    exact ⟨old, by rw [sameInstances]; exact member, rfl⟩
  · intro task member
    rw [sameInstances] at member
    exact Or.inl ⟨task, member, SameTask.refl task⟩

theorem grows_of_created {pytz : String → Option TzInfo} {state : Logged}
    {request : CreateDefinition} {next : Database} {parent : Member}
    {household : Household} {tz : TzInfo} {targetDate : Date}
    {instances : Table TaskInstance.id}
    (created : Created pytz request state.db next parent household tz targetDate
      instances)
    (avoids : AvoidsWindows pytz state (.createDefinition request))
    (series : SeriesStored state.db) : Grows state.db next := by
  have sameSeries : next.series = state.db.series := by
    rw [created.committed]
  refine ⟨by rw [created.committed], sameSeries, ?_, ?_, ?_⟩
  · intro old member
    refine ⟨old, ?_, rfl⟩
    have rows : next.instances = instances := by
      rw [created.committed]
    rw [rows]
    rcases upsert_cases created.upserted with same | ⟨due, _, _, _, inserted⟩
    · rw [same]
      exact member
    · rw [inserted]
      exact Table.mem_append.mpr (Or.inl member)
  · intro task member
    rcases created.mem_instances member with old | ⟨due, scheduled, timed, free, new⟩
    · exact Or.inl ⟨task, old, SameTask.refl task⟩
    · right
      have loaded : (parent, household) ∈
          (loadParent state.db request.memberId).toOption :=
        toOption_eq_some.mpr created.loaded
      have onDate : targetDate ∈ (onDemandDate tz request.today
          (request.body.definition household parent
            state.db.definitions.freshKey)).toOption :=
        toOption_eq_some.mpr created.target
      have computed : due ∈ (dueUtc tz targetDate request.body.dueTime).toOption :=
        toOption_eq_some.mpr timed
      have outside := avoids _ loaded tz created.zone targetDate onDate scheduled due
        computed free
      rw [new]
      refine ⟨rfl, ?_, _, Table.find?_self next.definitions
        (created.mem_definitions.mpr (Or.inr rfl)), outside⟩
      intro old oldMember
      exact Nat.ne_of_lt (Table.key_lt_freshKey oldMember)
  · intro definition member seriesId named
    rw [sameSeries]
    rcases created.mem_definitions.mp member with old | rfl
    · exact series definition old seriesId named
    · exact created.seriesFound seriesId named

theorem grows_of_generated {pytz : String → Option TzInfo} {state : Logged}
    {clock : JobClock} {householdId : Uuid} {next : Database} {household : Household}
    {tz : TzInfo} {rows : Table TaskInstance.id}
    (run : GeneratedFor pytz clock householdId state.db next household tz rows)
    (avoids : AvoidsWindows pytz state (.nightly clock householdId))
    (series : SeriesStored state.db) : Grows state.db next := by
  have grown := upsertAll_generation run.upserts
  rw [run.committed]
  refine ⟨rfl, rfl, ?_, ?_, series⟩
  · intro old member
    refine ⟨_, mem_sweeps.mpr ⟨old, grown.keeps old member, rfl⟩, ?_⟩
    exact (sweepRow_effect _ _ _ old).sameTask.id
  · intro task member
    obtain ⟨source, sourceMember, rfl⟩ := mem_sweeps.mp member
    have same := (sweepRow_effect ((liveDefinitions state.db householdId).map
      TaskDefinition.id) household.gracePeriodHours clock source).sameTask
    rcases grown.adds source sourceMember with old | ⟨_, apart⟩
    · exact Or.inl ⟨source, old, same⟩
    · right
      rcases (upsertAll_rows run.upserts).2 source sourceMember with
        old | ⟨defn, targetDate, due, inserts⟩
      · exact absurd rfl (apart source old)
      · have computed : due ∈ (dueUtc tz targetDate defn.dueTime).toOption :=
          toOption_eq_some.mpr inserts.timed
        have outside := avoids household run.found tz run.zone _ inserts.target
          inserts.scheduled due computed inserts.free
        have stored := mem_liveDefinitions (mem_generationTargets.mp inserts.target).1
        rw [same.seriesInstanceId, same.id, same.definitionId, same.dueAt]
        refine ⟨?_, apart, defn, ?_, ?_⟩
        · rw [inserts.built]
          rfl
        · rw [inserts.built]
          exact Table.find?_self state.db.definitions stored.1
        · rw [inserts.built]
          exact outside

theorem opened_invariant {state : Logged} {body : SeriesCreate} {household : Household}
    {windowStart windowEnd : Instant} (invariant : MembershipInvariant state) :
    MembershipInvariant ⟨afterSeries body household windowStart windowEnd state.db,
      state.log ++ newRecords state.db
        (afterSeries body household windowStart windowEnd state.db)⟩ := by
  have noneNew : newRecords state.db
      (afterSeries body household windowStart windowEnd state.db) = [] := by
    refine List.eq_nil_iff_forall_not_mem.mpr ?_
    intro generated new
    obtain ⟨task, member, apart, _⟩ := mem_newRecords new
    exact apart task member rfl
  have kept : ∀ seriesId, (∃ series, state.db.series.find? seriesId = some series) →
      ∃ series, (afterSeries body household windowStart windowEnd
        state.db).series.find? seriesId = some series := by
    rintro seriesId ⟨series, found⟩
    obtain ⟨stored, own⟩ := Table.find?_eq_some_iff.mp found
    exact ⟨series, Table.find?_eq_some_iff.mpr
      ⟨mem_afterSeries_series.mpr (Or.inl stored), own⟩⟩
  rw [noneNew, List.append_nil]
  refine ⟨invariant.unlinked, ?_, ?_, ?_⟩
  · rintro seriesInstance stored active task member ⟨inLog, inWindow⟩
    rcases mem_afterSeries_windows.mp stored with old | rfl
    · exact invariant.noMember seriesInstance old active task member ⟨inLog, inWindow⟩
    · obtain ⟨series, found⟩ := (invariant.stored _ inLog).2 _ rfl
      have own : series.id = state.db.series.freshKey := Table.key_of_find? found
      exact absurd own
        (Nat.ne_of_lt (Table.key_lt_freshKey (Table.mem_of_find? found)))
  · intro generated member
    obtain ⟨task, series⟩ := invariant.stored generated member
    exact ⟨task, fun seriesId named => kept seriesId (series seriesId named)⟩
  · intro definition member seriesId named
    obtain ⟨old, stored, rfl⟩ := mem_afterSeries_definitions.mp member
    split at named
    · cases named
      exact ⟨_, Table.find?_eq_some_iff.mpr
        ⟨mem_afterSeries_series.mpr (Or.inr rfl), rfl⟩⟩
    · exact kept seriesId (invariant.series old stored seriesId named)

theorem loggedStep_invariant {pytz : String → Option TzInfo} (state : Logged)
    (event : PlanningEvent) (invariant : MembershipInvariant state)
    (avoids : AvoidsWindows pytz state event) :
    MembershipInvariant (loggedStep pytz state event) := by
  have effect := planningStep_effect pytz state.db event
  simp only [loggedStep]
  generalize planningStep pytz state.db event = next at effect
  cases effect with
  | refused =>
      exact (grows_of_sameInstances rfl rfl rfl invariant.series).invariant invariant
  | created created =>
      exact (grows_of_created created avoids invariant.series).invariant invariant
  | bundled => exact opened_invariant invariant
  | edited found same =>
      refine Grows.invariant ?_ invariant
      refine grows_of_sameInstances rfl rfl rfl ?_
      intro definition member seriesId named
      rcases Table.mem_save.mp member with ⟨rfl, _⟩ | ⟨stored, _⟩
      · rw [same.seriesId] at named
        exact invariant.series _ (Table.mem_of_find? found) seriesId named
      · exact invariant.series definition stored seriesId named
  | generated run =>
      exact (grows_of_generated run avoids invariant.series).invariant invariant

/-! ## Every run -/

/-- The windows hold exactly their members as long as no member is generated. -/
theorem members_linked_while_avoided {pytz : String → Option TzInfo} {db : Database}
    (unlinked : ∀ task ∈ db.instances.rows, task.seriesInstanceId = none)
    (series : SeriesStored db) {events : List PlanningEvent}
    (meets : EachMeets (loggedStep pytz) (AvoidsWindows pytz) ⟨db, []⟩ events) :
    Always (loggedStep pytz) MembersLinked ⟨db, []⟩ events := by
  have start : MembershipInvariant ⟨db, []⟩ := by
    refine ⟨unlinked, ?_, ?_, series⟩
    · rintro seriesInstance _ _ task _ ⟨inLog, _⟩
      cases inLog
    · intro generated member
      cases member
  exact (guarded_always MembershipInvariant loggedStep_invariant start meets).imp
    fun _ invariant => invariant.linked

/-- A week of the sample definition. -/
def sampleSeriesCreate : SeriesCreate where
  name := "Kitchen week"
  assigneeId := 2
  bonusPoints := 5
  payoutMode := .individualPlusBonus
  windowType := .weekly
  taskDefinitionIds := [1]
  nameLength := by decide
  bonusRange := by decide
  bundles := by simp

def openWeek (day : Int) : PlanningEvent :=
  .createSeries ⟨nightOf day, 1, sampleSeriesCreate⟩

/-- Runs after the week is over. -/
theorem members_linked_after_window :
    Always (loggedStep utcOnly) MembersLinked ⟨plannedDatabase, []⟩
      [openWeek 1, nightRun 8] :=
  members_linked_while_avoided (fun _ member => by cases member)
    (fun definition member seriesId named => by
      simp only [plannedDatabase, sampleDatabase, List.mem_singleton] at member
      subst member
      cases named)
    (by decide +kernel)

/-- The run of the same night generates five instances into the new window and
links none of them. -/
theorem members_unlinked_in_window :
    ¬ Always (loggedStep utcOnly) MembersLinked ⟨plannedDatabase, []⟩
      [openWeek 1, nightRun 1] := by
  decide +kernel

end KidsChores.Properties
