import KidsChores.Lifecycle

/-!
# Task lifecycle with the limits of the columns

A service call in its session.  The query of the balance flushes the row, and the
commit flushes what is left; a row that the columns refuse is rolled back.
-/

set_option autoImplicit false

namespace KidsChores.Lifecycle

open KidsChores.Models
open KidsChores.Library
open KidsChores.Library.PyDatetime
open KidsChores.Services.Ledger
open KidsChores.Services.StateMachine
open KidsChores.Session
open KidsChores.Workers.GenerateInstances

/-- The columns take the texts of the row, and the seconds of its grace clock. -/
def Stores (task : TaskInstance) : Prop :=
  storableTask task = true ∧ FitsInteger task.graceElapsedSeconds

instance (task : TaskInstance) : Decidable (Stores task) :=
  inferInstanceAs (Decidable (_ ∧ _))

def RowsStore (db : Database) : Prop := ∀ task ∈ db.instances.rows, Stores task

/-- A service call up to its return: one that posts queries the balance, and with it
the row is flushed. -/
def sessionCall (clock : Clock) (actor : Member) (loaded : Loaded) (ledger : Ledger)
    (request : ServiceCall) : Except ServiceError (TaskInstance × Ledger) :=
  match request.run clock loaded.household loaded.definition actor loaded.task ledger with
  | .error raised => .error raised
  | .ok (task, next) =>
      if next.entries.length = ledger.entries.length ∨ Stores task then .ok (task, next)
      else .error .dataError

/-- `none` is a rollback. -/
def storedTransaction (db : Database) (clock : Clock) (actor : Member) (taskId : Uuid)
    (request : ServiceCall) : Option Database :=
  match load? db taskId with
  | none => none
  | some loaded =>
      match sessionCall clock actor loaded db.ledger request with
      | .error _ => none
      | .ok (task, ledger) => if Stores task then some (storeCall db task ledger) else none

def storedStep (pytz : String → Option TzInfo) (db : Database) :
    LifecycleEvent → Database
  | .call clock actor taskId request =>
      (storedTransaction db clock actor taskId request).getD db
  | event => lifecycleStep pytz db event

section Calls

variable {clock : Clock} {actor : Member} {loaded : Loaded} {ledger nextLedger : Ledger}
variable {request : ServiceCall} {task : TaskInstance} {db next : Database} {taskId : Uuid}

theorem sessionCall_ok_iff :
    sessionCall clock actor loaded ledger request = .ok (task, nextLedger) ↔
      request.run clock loaded.household loaded.definition actor loaded.task ledger =
        .ok (task, nextLedger) ∧
      (nextLedger.entries.length = ledger.entries.length ∨ Stores task) := by
  unfold sessionCall
  cases ran : request.run clock loaded.household loaded.definition actor loaded.task
      ledger with
  | error raised => simp
  | ok outcome =>
      obtain ⟨result, posted⟩ := outcome
      dsimp only
      split
      · rename_i taken
        simp only [Except.ok.injEq, Prod.mk.injEq]
        constructor
        · rintro ⟨rfl, rfl⟩
          exact ⟨⟨rfl, rfl⟩, taken⟩
        · exact And.left
      · rename_i refused
        simp only [reduceCtorEq, Except.ok.injEq, Prod.mk.injEq, false_iff]
        rintro ⟨⟨rfl, rfl⟩, taken⟩
        exact refused taken

theorem storedTransaction_ok
    (committed : storedTransaction db clock actor taskId request = some next) :
    ∃ loaded task ledger, load? db taskId = some loaded ∧
      request.run clock loaded.household loaded.definition actor loaded.task db.ledger =
        .ok (task, ledger) ∧
      Stores task ∧ next = storeCall db task ledger := by
  unfold storedTransaction at committed
  cases found : load? db taskId with
  | none =>
      rw [found] at committed
      cases committed
  | some loaded =>
      simp only [found] at committed
      split at committed
      · cases committed
      · rename_i task ledger returned
        split at committed
        · rename_i stores
          cases committed
          exact ⟨loaded, task, ledger, rfl, (sessionCall_ok_iff.mp returned).1, stores, rfl⟩
        · cases committed

end Calls

/-! ## A step -/

section Steps

variable {pytz : String → Option TzInfo} {db : Database}

/-- A step is one of the lifecycle, or a rollback more. -/
theorem storedStep_cases (pytz : String → Option TzInfo) (db : Database)
    (event : LifecycleEvent) :
    storedStep pytz db event = db ∨
      storedStep pytz db event = lifecycleStep pytz db event := by
  cases event with
  | call clock actor taskId request =>
      simp only [storedStep, lifecycleStep]
      cases committed : storedTransaction db clock actor taskId request with
      | none => exact Or.inl rfl
      | some next =>
          obtain ⟨loaded, task, ledger, found, ran, _, rfl⟩ := storedTransaction_ok committed
          refine Or.inr ?_
          simp only [callTransaction, found, ran, Option.getD_some]
  | nightly clock householdId => exact Or.inr rfl
  | setPayoutPolicy householdId policy => exact Or.inr rfl

theorem newInstance_stores (defn : TaskDefinition) (due now : Instant) (id : Uuid) :
    Stores (newInstance defn due now id) := by
  refine ⟨rfl, ?_⟩
  change FitsInteger 0
  decide

theorem SweepEffect.stores {definitionIds : List Uuid} {gracePeriodHours : Int}
    {clock : JobClock} {task next : TaskInstance}
    (effect : SweepEffect definitionIds gracePeriodHours clock task next)
    (stores : Stores task) : Stores next := by
  cases effect with
  | unchanged => exact stores
  | overdue => exact stores
  | missed => exact stores

theorem RowsStore.step (stored : RowsStore db) (event : LifecycleEvent) :
    RowsStore (storedStep pytz db event) := by
  cases event with
  | call clock actor taskId request =>
      simp only [storedStep]
      cases committed : storedTransaction db clock actor taskId request with
      | none => exact stored
      | some next =>
          obtain ⟨loaded, task, ledger, _, _, stores, rfl⟩ := storedTransaction_ok committed
          intro row member
          rcases Table.mem_save.mp member with ⟨rfl, _⟩ | ⟨old, _⟩
          · exact stores
          · exact stored row old
  | nightly clock householdId =>
      simp only [storedStep, lifecycleStep]
      cases success : generateForHousehold pytz clock householdId db with
      | error raised => exact stored
      | ok next =>
          obtain ⟨household, definitionIds, generated, _, rows⟩ := nightly_rows success
          intro row member
          obtain ⟨old, oldMember, rfl⟩ := (rows.swept row).mp member
          refine (sweepRow_effect _ _ _ _).stores ?_
          rcases rows.grown.adds old oldMember with kept | ⟨⟨defn, due, built⟩, _⟩
          · exact stored old kept
          · rw [built]
            exact newInstance_stores defn due _ _
  | setPayoutPolicy householdId policy =>
      simp only [storedStep, lifecycleStep, setPayoutPolicy]
      cases db.households.find? householdId with
      | none => exact stored
      | some household => exact stored

end Steps

end KidsChores.Lifecycle
