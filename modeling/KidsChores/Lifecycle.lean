import KidsChores.Library.Runs
import KidsChores.Services.CallEffect
import KidsChores.Session
import KidsChores.Workers.GenerateInstances

/-!
# Task lifecycle over the database

The state machine and the nightly job as transactions on the whole database: a
service call loads the instance with its definition and its household, runs, and
commits the row and the ledger; a call that raises is rolled back.
-/

set_option autoImplicit false

namespace KidsChores.Lifecycle

open KidsChores.Models
open KidsChores.Library
open KidsChores.Library.Runs
open KidsChores.Library.PyDatetime
open KidsChores.Services.StateMachine
open KidsChores.Session
open KidsChores.Workers.GenerateInstances

/-- The rows a service call works on. -/
structure Loaded where
  household : Household
  definition : TaskDefinition
  task : TaskInstance
  deriving DecidableEq, Repr

def load? (db : Database) (taskId : Uuid) : Option Loaded := do
  let task ← db.instances.find? taskId
  let definition ← db.definitions.find? task.definitionId
  let household ← db.households.find? definition.householdId
  return ⟨household, definition, task⟩

theorem load?_ok {db : Database} {taskId : Uuid} {loaded : Loaded}
    (found : load? db taskId = some loaded) :
    db.instances.find? taskId = some loaded.task ∧
      db.definitions.find? loaded.task.definitionId = some loaded.definition ∧
      db.households.find? loaded.definition.householdId =
        some loaded.household := by
  simp only [load?, Option.bind_eq_bind, Option.bind_eq_some_iff, Option.pure_def,
    Option.some.injEq] at found
  obtain ⟨task, taskFound, definition, definitionFound, household,
    householdFound, rfl⟩ := found
  exact ⟨taskFound, definitionFound, householdFound⟩

/-- `none` is a rollback. -/
def callTransaction (db : Database) (clock : Clock) (actor : Member)
    (taskId : Uuid) (call : ServiceCall) : Option Database :=
  match load? db taskId with
  | none => none
  | some loaded =>
      match call.run clock loaded.household loaded.definition actor loaded.task
          db.ledger with
      | .error _ => none
      | .ok (task, ledger) => some (storeCall db task ledger)

theorem callTransaction_ok {db next : Database} {clock : Clock} {actor : Member}
    {taskId : Uuid} {call : ServiceCall}
    (committed : callTransaction db clock actor taskId call = some next) :
    ∃ loaded task ledger, load? db taskId = some loaded ∧
      CallEffect clock loaded.household loaded.definition actor loaded.task
        db.ledger call task ledger ∧
      next = storeCall db task ledger := by
  unfold callTransaction at committed
  cases found : load? db taskId with
  | none =>
      rw [found] at committed
      cases committed
  | some loaded =>
      simp only [found] at committed
      split at committed
      · cases committed
      · rename_i task ledger success
        cases committed
        exact ⟨loaded, task, ledger, rfl, run_effect success, rfl⟩

/-! ## Events -/

inductive LifecycleEvent where
  | call (clock : Clock) (actor : Member) (taskId : Uuid) (request : ServiceCall)
  | nightly (clock : JobClock) (householdId : Uuid)
  | setPayoutPolicy (householdId : Uuid) (policy : ExcusedPayoutPolicy)
  deriving DecidableEq, Repr

def setPayoutPolicy (db : Database) (householdId : Uuid)
    (policy : ExcusedPayoutPolicy) : Database :=
  match db.households.find? householdId with
  | none => db
  | some household => { db with
      households := db.households.save
        { household with excusedPayoutPolicy := policy } }

def lifecycleStep (pytz : String → Option TzInfo) (db : Database) :
    LifecycleEvent → Database
  | .call clock actor taskId request =>
      (callTransaction db clock actor taskId request).getD db
  | .nightly clock householdId =>
      match generateForHousehold pytz clock householdId db with
      | .error _ => db
      | .ok next => next
  | .setPayoutPolicy householdId policy => setPayoutPolicy db householdId policy

/-! ## What one event does to the instances and the ledger -/

/-- The two sweeps on one row. -/
def sweepRow (definitionIds : List Uuid) (gracePeriodHours : Int)
    (clock : JobClock) (task : TaskInstance) : TaskInstance :=
  let due :=
    if task.status = .pending ∧ task.dueAt ≤ clock.dueNow ∧
        task.definitionId ∈ definitionIds then
      { task with status := .overdue }
    else task
  if due.status = .overdue ∧ due.definitionId ∈ definitionIds ∧
      graceRemaining due gracePeriodHours clock.now ≤ 0 then
    { due with status := .missed }
  else due

theorem mem_sweeps {definitionIds : List Uuid} {gracePeriodHours : Int}
    {clock : JobClock} {instances : Table TaskInstance.id} {task : TaskInstance} :
    task ∈ (sweepMissed definitionIds gracePeriodHours clock.now
        (sweepOverdue definitionIds clock.dueNow instances)).rows ↔
      ∃ old ∈ instances.rows,
        task = sweepRow definitionIds gracePeriodHours clock old := by
  simp only [sweepMissed, Table.mem_updateWhere, sweepOverdue]
  constructor
  · rintro ⟨middle, ⟨old, member, rfl⟩, rfl⟩
    exact ⟨old, member, by simp only [sweepRow, decide_eq_true_eq]⟩
  · rintro ⟨old, member, rfl⟩
    exact ⟨_, ⟨old, member, rfl⟩, by simp only [sweepRow, decide_eq_true_eq]⟩

/-- What the sweeps leave of a row: itself, or a row moved along the clock. -/
inductive SweepEffect (definitionIds : List Uuid) (gracePeriodHours : Int)
    (clock : JobClock) (task : TaskInstance) : TaskInstance → Prop where
  | unchanged : SweepEffect definitionIds gracePeriodHours clock task task
  | overdue (pending : task.status = .pending) (due : task.dueAt ≤ clock.dueNow) :
      SweepEffect definitionIds gracePeriodHours clock task
        { task with status := .overdue }
  | missed (open_ : Actionable task.status)
      (live : task.definitionId ∈ definitionIds)
      (expired : graceRemaining task gracePeriodHours clock.now ≤ 0) :
      SweepEffect definitionIds gracePeriodHours clock task
        { task with status := .missed }

theorem sweepRow_effect (definitionIds : List Uuid) (gracePeriodHours : Int)
    (clock : JobClock) (task : TaskInstance) :
    SweepEffect definitionIds gracePeriodHours clock task
      (sweepRow definitionIds gracePeriodHours clock task) := by
  unfold sweepRow
  by_cases due : task.status = .pending ∧ task.dueAt ≤ clock.dueNow ∧
      task.definitionId ∈ definitionIds
  · simp only [due, true_and, and_self, if_true]
    split
    · rename_i expired
      exact .missed (Or.inl due.1) due.2.2 expired
    · exact .overdue due.1 due.2.1
  · simp only [due, if_false]
    split
    · rename_i expired
      exact .missed (Or.inr expired.1) expired.2.1 expired.2.2
    · exact .unchanged

/-- A row after the sweeps, and the row it was. -/
theorem of_mem_sweeps {definitionIds : List Uuid} {gracePeriodHours : Int}
    {clock : JobClock} {instances : Table TaskInstance.id} {task : TaskInstance}
    (member : task ∈ (sweepMissed definitionIds gracePeriodHours clock.now
      (sweepOverdue definitionIds clock.dueNow instances)).rows) :
    ∃ old ∈ instances.rows,
      SweepEffect definitionIds gracePeriodHours clock old task := by
  obtain ⟨old, oldMember, rfl⟩ := mem_sweeps.mp member
  exact ⟨old, oldMember, sweepRow_effect definitionIds gracePeriodHours clock old⟩

theorem SweepEffect.sameTask {definitionIds : List Uuid}
    {gracePeriodHours : Int} {clock : JobClock} {task next : TaskInstance}
    (effect : SweepEffect definitionIds gracePeriodHours clock task next) :
    SameTask task next := by
  cases effect <;> exact ⟨rfl, rfl, rfl, rfl, rfl, rfl⟩

theorem newInstance_actionable (defn : TaskDefinition) (due now : Instant)
    (id : Uuid) : Actionable (newInstance defn due now id).status := by
  unfold newInstance Actionable
  split
  · exact Or.inr rfl
  · exact Or.inl rfl

/-- The rows the upserts leave: the old ones, and new instances under new ids. -/
structure Generation (now : Instant) (instances generated : Table TaskInstance.id) :
    Prop where
  keeps : ∀ task ∈ instances.rows, task ∈ generated.rows
  adds : ∀ task ∈ generated.rows, task ∈ instances.rows ∨
    (∃ defn due, task = newInstance defn due now task.id) ∧
      ∀ old ∈ instances.rows, old.id ≠ task.id

theorem upsertAll_generation {tz : TzInfo} {now : Instant}
    {targets : List (TaskDefinition × Date)}
    {instances generated : Table TaskInstance.id}
    (upserts : upsertAll tz now targets instances = .ok generated) :
    Generation now instances generated := by
  refine upsertAll_invariant (Generation now instances) ?_
    ⟨fun _ member => member, fun _ member => Or.inl member⟩ upserts
  intro before after defn targetDate _ grown upserted
  rcases upsert_cases upserted with same | ⟨due, _, _, _, inserted⟩
  · rw [same]
    exact grown
  · rw [inserted]
    constructor
    · intro task member
      exact Table.mem_append.mpr (Or.inl (grown.keeps task member))
    · intro task member
      rcases Table.mem_append.mp member with old | rfl
      · exact grown.adds task old
      · refine Or.inr ⟨⟨defn, due, rfl⟩, ?_⟩
        intro old oldMember
        exact Nat.ne_of_lt (Table.key_lt_freshKey (grown.keeps old oldMember))

/-- A household's run that commits, on the rows of the instance table. -/
structure NightlyRows (clock : JobClock) (db next : Database)
    (household : Household) (definitionIds : List Uuid)
    (generated : Table TaskInstance.id) : Prop where
  grown : Generation clock.generation db.instances generated
  swept : ∀ task, task ∈ next.instances.rows ↔ ∃ old ∈ generated.rows,
    task = sweepRow definitionIds household.gracePeriodHours clock old
  live : ∀ definitionId ∈ definitionIds, ∃ definition,
    db.definitions.find? definitionId = some definition ∧
      definition.householdId = household.id
  sameLedger : next.ledger = db.ledger
  sameHouseholds : next.households = db.households
  sameDefinitions : next.definitions = db.definitions

theorem nightly_rows {pytz : String → Option TzInfo} {clock : JobClock}
    {householdId : Uuid} {db next : Database}
    (success : generateForHousehold pytz clock householdId db = .ok next) :
    ∃ household definitionIds generated,
      db.households.find? householdId = some household ∧
      NightlyRows clock db next household definitionIds generated := by
  obtain ⟨household, tz, generated, run⟩ := generateForHousehold_ok success
  refine ⟨household, (liveDefinitions db householdId).map TaskDefinition.id,
    generated, run.found, upsertAll_generation run.upserts, ?_, ?_, ?_, ?_, ?_⟩
  · intro task
    rw [run.committed]
    exact mem_sweeps
  · intro definitionId member
    obtain ⟨definition, live, rfl⟩ := List.mem_map.mp member
    obtain ⟨stored, selected⟩ := List.mem_filter.mp live
    simp only [decide_eq_true_eq] at selected
    refine ⟨definition, Table.find?_self db.definitions stored, ?_⟩
    rw [selected.1, Table.key_of_find? run.found]
  · rw [run.committed]
  · rw [run.committed]
  · rw [run.committed]

/-! ## What one event does -/

/-- An event commits what it does or leaves the database as it is. -/
inductive LifecycleEffect (pytz : String → Option TzInfo) (db : Database) :
    LifecycleEvent → Database → Prop where
  | unchanged {event : LifecycleEvent} : LifecycleEffect pytz db event db
  | called {clock : Clock} {actor : Member} {taskId : Uuid} {call : ServiceCall}
      {next : Database} (committed : callTransaction db clock actor taskId call = some next) :
      LifecycleEffect pytz db (.call clock actor taskId call) next
  | swept {clock : JobClock} {householdId : Uuid} {next : Database}
      (success : generateForHousehold pytz clock householdId db = .ok next) :
      LifecycleEffect pytz db (.nightly clock householdId) next
  | policySet {householdId : Uuid} {policy : ExcusedPayoutPolicy} {household : Household}
      (found : db.households.find? householdId = some household) :
      LifecycleEffect pytz db (.setPayoutPolicy householdId policy)
        { db with
          households := db.households.save { household with excusedPayoutPolicy := policy } }

theorem lifecycleStep_effect (pytz : String → Option TzInfo) (db : Database)
    (event : LifecycleEvent) :
    LifecycleEffect pytz db event (lifecycleStep pytz db event) := by
  cases event with
  | call clock actor taskId call =>
      simp only [lifecycleStep]
      cases committed : callTransaction db clock actor taskId call with
      | none => exact .unchanged
      | some next => exact .called committed
  | nightly clock householdId =>
      simp only [lifecycleStep]
      cases success : generateForHousehold pytz clock householdId db with
      | error raised => exact .unchanged
      | ok next => exact .swept success
  | setPayoutPolicy householdId policy =>
      simp only [lifecycleStep, setPayoutPolicy]
      cases found : db.households.find? householdId with
      | none => exact .unchanged
      | some household => exact .policySet found

/-! ## Invariants of single rows -/

/-- What new rows have, and every call and sweep keeps, all rows keep. -/
theorem step_preserves_rows {pytz : String → Option TzInfo}
    (good : TaskInstance → Prop)
    (generated : ∀ defn due now id, good (newInstance defn due now id))
    (called : ∀ {clock household definition actor task ledger call next nextLedger},
      CallEffect clock household definition actor task ledger call next nextLedger →
        good task → good next)
    (swept : ∀ {definitionIds hours clock task next},
      SweepEffect definitionIds hours clock task next → good task → good next)
    {db : Database} (initial : ∀ task ∈ db.instances.rows, good task)
    (event : LifecycleEvent) :
    ∀ task ∈ (lifecycleStep pytz db event).instances.rows, good task := by
  have effect := lifecycleStep_effect pytz db event
  generalize lifecycleStep pytz db event = next at effect ⊢
  intro row member
  cases effect with
  | unchanged => exact initial row member
  | called committed =>
      obtain ⟨loaded, task, ledger, found, effect, rfl⟩ := callTransaction_ok committed
      rcases Table.mem_save.mp member with ⟨rfl, _⟩ | ⟨old, _⟩
      · exact called effect (initial loaded.task (Table.mem_of_find? (load?_ok found).1))
      · exact initial row old
  | swept success =>
      obtain ⟨household, definitionIds, generatedRows, _, rows⟩ := nightly_rows success
      obtain ⟨old, oldMember, rfl⟩ := (rows.swept row).mp member
      refine swept (sweepRow_effect _ _ _ _) ?_
      rcases rows.grown.adds old oldMember with stored | ⟨⟨defn, due, built⟩, _⟩
      · exact initial old stored
      · rw [built]
        exact generated defn due _ _
  | policySet found => exact initial row member

end KidsChores.Lifecycle
