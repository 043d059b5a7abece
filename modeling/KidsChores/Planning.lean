import KidsChores.Library.Runs
import KidsChores.Routers.Series

/-!
# Planning

The requests that set up definitions and series, and the nightly runs, one after
another.  A request that raises leaves the database as it was.
-/

set_option autoImplicit false

namespace KidsChores.Planning

open KidsChores.Models
open KidsChores.Library
open KidsChores.Library.PyDatetime
open KidsChores.Routers.Definitions
open KidsChores.Routers.Series
open KidsChores.Workers.GenerateInstances

inductive PlanningEvent where
  | createDefinition (request : CreateDefinition)
  | createSeries (request : CreateSeries)
  | updateDefinition (request : UpdateDefinition)
  | nightly (clock : JobClock) (householdId : Uuid)

def planningStep (pytz : String → Option TzInfo) (db : Database) :
    PlanningEvent → Database
  | .createDefinition request => ((createDefinition pytz request db).toOption).getD db
  | .createSeries request => ((createSeries pytz request db).toOption).getD db
  | .updateDefinition request => ((updateDefinition request db).toOption).getD db
  | .nightly clock householdId =>
      ((generateForHousehold pytz clock householdId db).toOption).getD db

/-- What an event can do. -/
inductive PlanningEffect (pytz : String → Option TzInfo) (db : Database) :
    PlanningEvent → Database → Prop where
  | refused {event : PlanningEvent} : PlanningEffect pytz db event db
  | created {request : CreateDefinition} {next : Database} {parent : Member}
      {household : Household} {tz : TzInfo} {targetDate : Date}
      {instances : Table TaskInstance.id}
      (created : Created pytz request db next parent household tz targetDate
        instances) :
      PlanningEffect pytz db (.createDefinition request) next
  | bundled {request : CreateSeries} {household : Household}
      {windowStart windowEnd : Instant} :
      PlanningEffect pytz db (.createSeries request)
        (afterSeries request.body household windowStart windowEnd db)
  | edited {request : UpdateDefinition} {definition edited : TaskDefinition}
      (found : db.definitions.find? request.definitionId = some definition)
      (same : SameDefinition definition edited) :
      PlanningEffect pytz db (.updateDefinition request)
        { db with definitions := db.definitions.save edited }
  | generated {clock : JobClock} {householdId : Uuid} {next : Database}
      {household : Household} {tz : TzInfo} {rows : Table TaskInstance.id}
      (run : GeneratedFor pytz clock householdId db next household tz rows) :
      PlanningEffect pytz db (.nightly clock householdId) next

theorem planningStep_effect (pytz : String → Option TzInfo) (db : Database)
    (event : PlanningEvent) :
    PlanningEffect pytz db event (planningStep pytz db event) := by
  cases event with
  | createDefinition request =>
      cases returned : createDefinition pytz request db with
      | error raised =>
          simp only [planningStep, returned]
          exact .refused
      | ok next =>
          simp only [planningStep, returned]
          obtain ⟨parent, household, tz, targetDate, instances, created⟩ :=
            createDefinition_ok returned
          exact .created created
  | createSeries request =>
      cases returned : createSeries pytz request db with
      | error raised =>
          simp only [planningStep, returned]
          exact .refused
      | ok next =>
          simp only [planningStep, returned]
          obtain ⟨household, windowStart, windowEnd, _, rfl⟩ := createSeries_ok returned
          exact .bundled
  | updateDefinition request =>
      cases returned : updateDefinition request db with
      | error raised =>
          simp only [planningStep, returned]
          exact .refused
      | ok next =>
          simp only [planningStep, returned]
          obtain ⟨definition, edited, found, same, rfl⟩ := updateDefinition_ok returned
          exact .edited found same
  | nightly clock householdId =>
      cases returned : generateForHousehold pytz clock householdId db with
      | error raised =>
          simp only [planningStep, returned]
          exact .refused
      | ok next =>
          simp only [planningStep, returned]
          obtain ⟨household, tz, rows, run⟩ := generateForHousehold_ok returned
          exact .generated run

/-! ## A household on UTC -/

def utcOnly (name : String) : Option TzInfo :=
  if name = "UTC" then some (TzInfo.fixed 0) else none

/-- Five past midnight, UTC, on a day of January 2025. -/
def nightOf (day : Int) : Instant := timedeltaSeconds (1735603500 + day * 86400)

def nightRun (day : Int) : PlanningEvent :=
  .nightly ⟨nightOf day, nightOf day, nightOf day⟩ 1

/-- The family with one daily definition, due at 20:00. -/
def plannedDatabase : Database :=
  { sampleDatabase sampleDefinition sampleTask with instances := Table.empty }

/-- A body for a daily task of the sample teen. -/
def dailyDishes : TaskDefinitionCreate where
  assigneeId := 2
  title := "Dishes"
  pointValue := 10
  scheduleType := .daily
  startDate := "2025-01-01"
  titleLength := by decide
  pointRange := by decide
  maskRange := by simp
  startPattern := by decide
  endPattern := by simp
  duePattern := by decide

/-- The family before its first definition. -/
def newFamily : Database :=
  { plannedDatabase with definitions := Table.empty }

end KidsChores.Planning
