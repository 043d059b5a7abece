import KidsChores.Properties.GraceClock
import KidsChores.Routers.Household

/-!
# Task runs

The events of the task lifecycle, and between them the requests that decide what they
find: a new definition, whose first instance is put in at once, an edit of one, and the
settings of a household.
-/

set_option autoImplicit false

namespace KidsChores.Properties

open KidsChores.Models
open KidsChores.Library
open KidsChores.Library.PyDatetime
open KidsChores.Library.Runs
open KidsChores.Lifecycle
open KidsChores.Routers.Definitions
open KidsChores.Routers.Household
open KidsChores.Services.StateMachine
open KidsChores.Session
open KidsChores.Workers.GenerateInstances

inductive TaskEvent where
  | lifecycle (event : LifecycleEvent)
  | createDefinition (request : CreateDefinition)
  | updateDefinition (request : UpdateDefinition)
  | updateHousehold (request : UpdateHousehold)

def taskStep (pytz : String → Option TzInfo) (db : Database) : TaskEvent → Database
  | .lifecycle event => lifecycleStep pytz db event
  | .createDefinition request => ((createDefinition pytz request db).toOption).getD db
  | .updateDefinition request => ((updateDefinition request db).toOption).getD db
  | .updateHousehold request => ((updateHousehold request db).toOption).getD db

/-! ## Where the rows of an event come from -/

/-- An instance after an event: one that was there, the result of a call, or a new one
under a new id. -/
inductive RowOrigin (db : Database) : TaskEvent → TaskInstance → Prop where
  | kept {event : TaskEvent} {row : TaskInstance} (stored : row ∈ db.instances.rows) :
      RowOrigin db event row
  | called {clock : Clock} {actor : Member} {taskId : Uuid} {call : ServiceCall}
      {loaded : Loaded} {row : TaskInstance} {ledger : Ledger}
      (found : load? db taskId = some loaded)
      (effect : CallEffect clock loaded.household loaded.definition actor loaded.task
        db.ledger call row ledger)
      (committed : callTransaction db clock actor taskId call =
        some (storeCall db row ledger)) :
      RowOrigin db (.lifecycle (.call clock actor taskId call)) row
  | swept {clock : JobClock} {householdId : Uuid} {definitionIds : List Uuid} {hours : Int}
      {old : TaskInstance} (stored : old ∈ db.instances.rows) :
      RowOrigin db (.lifecycle (.nightly clock householdId))
        (sweepRow definitionIds hours clock old)
  | generated {clock : JobClock} {householdId : Uuid} {definitionIds : List Uuid}
      {hours : Int} {defn : TaskDefinition} {due : Instant} {id : Uuid}
      (fresh : ∀ old ∈ db.instances.rows, old.id ≠ id) :
      RowOrigin db (.lifecycle (.nightly clock householdId))
        (sweepRow definitionIds hours clock (newInstance defn due clock.generation id))
  | created {request : CreateDefinition} {defn : TaskDefinition} {due : Instant} {id : Uuid}
      (fresh : ∀ old ∈ db.instances.rows, old.id ≠ id) :
      RowOrigin db (.createDefinition request) (newInstance defn due request.now id)

section Steps

variable {pytz : String → Option TzInfo} {db : Database}

theorem call_origin {clock : Clock} {actor : Member} {taskId : Uuid} {call : ServiceCall}
    {next : Database} (committed : callTransaction db clock actor taskId call = some next)
    {row : TaskInstance} (member : row ∈ next.instances.rows) :
    RowOrigin db (.lifecycle (.call clock actor taskId call)) row := by
  obtain ⟨loaded, task, ledger, found, effect, rfl⟩ := callTransaction_ok committed
  rcases Table.mem_save.mp member with ⟨rfl, _⟩ | ⟨stored, _⟩
  · exact .called found effect committed
  · exact .kept stored

theorem nightly_origin {clock : JobClock} {householdId : Uuid} {next : Database}
    (success : generateForHousehold pytz clock householdId db = .ok next)
    {row : TaskInstance} (member : row ∈ next.instances.rows) :
    RowOrigin db (.lifecycle (.nightly clock householdId)) row := by
  obtain ⟨household, definitionIds, generated, found, rows⟩ := nightly_rows success
  obtain ⟨old, oldMember, rfl⟩ := (rows.swept row).mp member
  rcases rows.grown.adds old oldMember with stored | ⟨⟨defn, due, built⟩, fresh⟩
  · exact .swept stored
  · rw [built]
    exact .generated fresh

theorem createDefinition_origin {request : CreateDefinition} {next : Database}
    (returned : createDefinition pytz request db = .ok next)
    {row : TaskInstance} (member : row ∈ next.instances.rows) :
    RowOrigin db (.createDefinition request) row := by
  obtain ⟨parent, household, tz, targetDate, instances, created⟩ :=
    createDefinition_ok returned
  have upserted : row ∈ instances.rows := by
    rw [created.committed] at member
    exact member
  rcases upsert_cases created.upserted with same | ⟨due, _, _, _, inserted⟩
  · rw [same] at upserted
    exact .kept upserted
  · rw [inserted] at upserted
    rcases Table.mem_append.mp upserted with stored | rfl
    · exact .kept stored
    · exact .created fun old stored => Nat.ne_of_lt (Table.key_lt_freshKey stored)

/-- What holds before a request and after one that returns holds after any. -/
theorem request_keeps {Error : Type} {good : Database → Prop} {result : Except Error Database}
    (before : good db) (after : ∀ next, result = .ok next → good next) :
    good (result.toOption.getD db) := by
  cases result with
  | error raised => exact before
  | ok next => exact after next rfl

theorem taskStep_origin (event : TaskEvent) {row : TaskInstance}
    (member : row ∈ (taskStep pytz db event).instances.rows) : RowOrigin db event row := by
  cases event with
  | lifecycle event =>
      have effect := lifecycleStep_effect pytz db event
      dsimp only [taskStep] at member
      generalize lifecycleStep pytz db event = next at effect member
      cases effect with
      | unchanged => exact .kept member
      | called committed => exact call_origin committed member
      | swept success => exact nightly_origin success member
      | policySet found => exact .kept member
  | createDefinition request =>
      exact @request_keeps _ _ (fun next => row ∈ next.instances.rows → RowOrigin db _ row) _
        .kept (fun _ returned => createDefinition_origin returned) member
  | updateDefinition request =>
      refine @request_keeps _ _ (fun next => row ∈ next.instances.rows → RowOrigin db _ row) _
        .kept (fun next returned => ?_) member
      obtain ⟨definition, edited, _, _, rfl⟩ := updateDefinition_ok returned
      exact fun stored => .kept stored
  | updateHousehold request =>
      refine @request_keeps _ _ (fun next => row ∈ next.instances.rows → RowOrigin db _ row) _
        .kept (fun next returned => ?_) member
      obtain ⟨households, rfl⟩ := updateHousehold_ok returned
      exact fun stored => .kept stored

theorem taskStep_stays (event : TaskEvent) {old : TaskInstance}
    (stored : old ∈ db.instances.rows) :
    ∃ row ∈ (taskStep pytz db event).instances.rows, row.id = old.id := by
  have kept : ∃ row ∈ db.instances.rows, row.id = old.id := ⟨old, stored, rfl⟩
  cases event with
  | lifecycle event =>
      have effect := lifecycleStep_effect pytz db event
      dsimp only [taskStep]
      generalize lifecycleStep pytz db event = next at effect ⊢
      cases effect with
      | unchanged => exact kept
      | called committed =>
          obtain ⟨loaded, task, ledger, _, _, rfl⟩ := callTransaction_ok committed
          by_cases hit : old.id = task.id
          · exact ⟨task, Table.mem_save.mpr (Or.inl ⟨rfl, old, stored, hit⟩), hit.symm⟩
          · exact ⟨old, Table.mem_save.mpr (Or.inr ⟨stored, hit⟩), rfl⟩
      | swept success =>
          obtain ⟨household, definitionIds, generated, _, rows⟩ := nightly_rows success
          exact ⟨_, (rows.swept _).mpr ⟨old, rows.grown.keeps old stored, rfl⟩,
            (sweepRow_effect _ _ _ old).sameTask.id⟩
      | policySet found => exact kept
  | createDefinition request =>
      refine @request_keeps _ _ (fun next => ∃ row ∈ next.instances.rows, row.id = old.id) _
        kept fun next returned => ?_
      obtain ⟨parent, household, tz, targetDate, instances, created⟩ :=
        createDefinition_ok returned
      have upserted : old ∈ instances.rows := by
        rcases upsert_cases created.upserted with same | ⟨due, _, _, _, inserted⟩
        · rw [same]
          exact stored
        · rw [inserted]
          exact Table.mem_append.mpr (Or.inl stored)
      refine ⟨old, ?_, rfl⟩
      rw [created.committed]
      exact upserted
  | updateDefinition request =>
      refine @request_keeps _ _ (fun next => ∃ row ∈ next.instances.rows, row.id = old.id) _
        kept fun next returned => ?_
      obtain ⟨definition, edited, _, _, rfl⟩ := updateDefinition_ok returned
      exact kept
  | updateHousehold request =>
      refine @request_keeps _ _ (fun next => ∃ row ∈ next.instances.rows, row.id = old.id) _
        kept fun next returned => ?_
      obtain ⟨households, rfl⟩ := updateHousehold_ok returned
      exact kept

/-- What new rows have, and every call and sweep keeps, all rows keep. -/
theorem taskStep_keeps {good : TaskInstance → Prop}
    (generated : ∀ defn due now id, good (newInstance defn due now id))
    (called : ∀ {clock household definition actor task ledger call next nextLedger},
      CallEffect clock household definition actor task ledger call next nextLedger →
        good task → good next)
    (swept : ∀ {definitionIds hours clock task next},
      SweepEffect definitionIds hours clock task next → good task → good next)
    (initial : ∀ task ∈ db.instances.rows, good task) (event : TaskEvent) :
    ∀ task ∈ (taskStep pytz db event).instances.rows, good task := by
  intro row member
  cases taskStep_origin event member with
  | kept stored => exact initial row stored
  | called found effect _ =>
      exact called effect (initial _ (Table.mem_of_find? (load?_ok found).1))
  | swept stored => exact swept (sweepRow_effect _ _ _ _) (initial _ stored)
  | generated fresh => exact swept (sweepRow_effect _ _ _ _) (generated _ _ _ _)
  | created fresh => exact generated _ _ _ _

end Steps

/-! ## With a clock -/

/-- The event's last clock reading; an edit reads none. -/
def lastTaskReading (earlier : Instant) : TaskEvent → Instant
  | .lifecycle event => lastReading earlier event
  | .createDefinition request => request.now
  | .updateDefinition _ => earlier
  | .updateHousehold _ => earlier

def timedTaskStep (pytz : String → Option TzInfo) (timed : Timed) (event : TaskEvent) :
    Timed where
  db := taskStep pytz timed.db event
  clock := lastTaskReading timed.clock event

def TaskInOrder (timed : Timed) : TaskEvent → Prop
  | .lifecycle event => InOrder timed event
  | .createDefinition request => timed.clock ≤ request.today ∧ request.today ≤ request.now
  | .updateDefinition _ => True
  | .updateHousehold _ => True

instance (timed : Timed) (event : TaskEvent) : Decidable (TaskInOrder timed event) := by
  cases event <;> unfold TaskInOrder <;> infer_instance

theorem TaskInOrder.later {timed : Timed} {event : TaskEvent}
    (order : TaskInOrder timed event) : timed.clock ≤ lastTaskReading timed.clock event := by
  cases event with
  | lifecycle event => exact InOrder.later order
  | createDefinition request => exact Int.le_trans order.1 order.2
  | updateDefinition request => exact Int.le_refl _
  | updateHousehold request => exact Int.le_refl _

end KidsChores.Properties
