import Mathlib.Data.Fintype.Defs
import KidsChores.Interleaving
import KidsChores.Routers.Tasks

/-!
# Overlapping completions

`complete_task` statement by statement under READ COMMITTED: the request loads the
row, completes and awards it, reads the series window, evaluates it on what is
committed and on its own writes, and commits.  An update waits for another open
transaction's update of the row, an insert for its insert of the index key.

The sum and the insert of one award are one step.  What a commit between them
changes is the entry's `balance_after`.
-/

set_option autoImplicit false

namespace KidsChores.Routers.CompletionRaces

open KidsChores.Interleaving
open KidsChores.Library
open KidsChores.Library.PyDatetime
open KidsChores.Library.Runs
open KidsChores.Models
open KidsChores.Routers.Tasks
open KidsChores.Services.Ledger
open KidsChores.Services.SeriesCompletion
open KidsChores.Services.StateMachine
open KidsChores.Session

/-- What a transaction has written and not committed: its row, its entries, and the
window it completes. -/
structure Pending where
  read : TaskInstance
  new : TaskInstance
  posted : List LedgerEntry
  window : Option (Uuid × Instant) := none
  deriving DecidableEq, Repr

def completeWindow (windowId : Uuid) (completedAt : Instant) (db : Database) : Database :=
  match db.seriesInstances.find? windowId with
  | none => db
  | some seriesInstance => { db with
      seriesInstances := db.seriesInstances.save { seriesInstance with
        status := .complete
        completedAt := some completedAt } }

/-- The database as the transaction sees it, and as its commit leaves it. -/
def Pending.apply (pending : Pending) (db : Database) : Database :=
  let written := writeBack pending.read.id pending.read pending.new pending.posted db
  match pending.window with
  | none => written
  | some (windowId, completedAt) => completeWindow windowId completedAt written

inductive Phase where
  | ready
  | loaded (member : Member) (definition : TaskDefinition) (task : TaskInstance)
  | completed (member : Member) (pending : Pending)
  | windowRead (member : Member) (pending : Pending) (seriesInstance : SeriesInstance)
  | checked (pending : Pending)
  | committed
  | rolledBack
  deriving DecidableEq, Repr

def Phase.pending? : Phase → Option Pending
  | .completed _ pending => some pending
  | .windowRead _ pending _ => some pending
  | .checked pending => some pending
  | _ => none

structure Config (Id : Type) where
  db : Database
  phase : Id → Phase

variable {Id : Type}

def opening (db : Database) : Config Id := ⟨db, fun _ => .ready⟩

section Step

variable [DecidableEq Id]

def Config.enter (config : Config Id) (id : Id) (phase : Phase) : Config Id :=
  { config with phase := Function.update config.phase id phase }

/-- Another open transaction has updated the row or holds a key of the entries. -/
def Waits (config : Config Id) (id : Id) (taskId : Uuid) (posted : List LedgerEntry) :
    Prop :=
  ∃ other, other ≠ id ∧ ∃ pending ∈ (config.phase other).pending?,
    pending.read.id = taskId ∨
      ∃ earlier ∈ pending.posted, ∃ entry ∈ posted, earlier.Clashes entry

instance [Fintype Id] (config : Config Id) (id : Id) (taskId : Uuid)
    (posted : List LedgerEntry) : Decidable (Waits config id taskId posted) :=
  inferInstanceAs (Decidable (∃ _, _ ∧ _))

variable [Fintype Id]

/-- The next statement of a transaction. -/
def completionStep (requests : Id → TaskRequest) (notes : Id → Option String)
    (config : Config Id) (id : Id) : Config Id :=
  let clock := (requests id).clock
  match config.phase id with
  | .ready =>
      match loadForRequest (requests id) anyMember
          (ownTask "You can only complete your own tasks.") config.db with
      | .error _ => config.enter id .rolledBack
      | .ok (member, _, definition, task) =>
          config.enter id (.loaded member definition task)
  | .loaded member definition task =>
      match complete clock definition member (notes id) task config.db.ledger with
      | .error _ => config.enter id .rolledBack
      | .ok (result, ledger) =>
          let posted := ledger.entries.drop config.db.ledger.entries.length
          if storableTask result = false then config.enter id .rolledBack
          else if Waits config id task.id posted then config
          else config.enter id (.completed member ⟨task, result, posted, none⟩)
  | .completed member pending =>
      match pending.new.seriesInstanceId.bind config.db.seriesInstances.find? with
      | none => config.enter id (.checked pending)
      | some seriesInstance => config.enter id (.windowRead member pending seriesInstance)
  | .windowRead member pending seriesInstance =>
      let view := pending.apply config.db
      match evaluate clock seriesInstance member view with
      | .error _ => config.enter id .rolledBack
      | .ok (paid, next) =>
          let posted := next.ledger.entries.drop view.ledger.entries.length
          if Waits config id pending.read.id posted then config
          else config.enter id (.checked { pending with
            posted := pending.posted ++ posted
            window := if paid then some (seriesInstance.id, clock.now) else none })
  | .checked pending => ⟨pending.apply config.db, Function.update config.phase id .committed⟩
  | .committed | .rolledBack => config

/-- A statement moves its own transaction only. -/
theorem completionStep_other {requests : Id → TaskRequest} {notes : Id → Option String}
    {config : Config Id} {id other : Id} (different : other ≠ id) :
    (completionStep requests notes config id).phase other = config.phase other := by
  have entered : ∀ phase, (config.enter id phase).phase other = config.phase other := by
    intro phase
    simp [Config.enter, different]
  unfold completionStep
  cases config.phase id with
  | ready =>
      simp only
      split <;> exact entered _
  | loaded member definition task =>
      simp only
      split
      · exact entered _
      · split
        · exact entered _
        · split
          · rfl
          · exact entered _
  | completed member pending =>
      simp only
      split <;> exact entered _
  | windowRead member pending seriesInstance =>
      simp only
      split
      · exact entered _
      · split
        · rfl
        · exact entered _
  | checked pending => exact Function.update_of_ne different _ config.phase
  | committed => rfl
  | rolledBack => rfl

end Step

/-! ## A transaction by itself -/

section Alone

theorem writeBack_completed {db : Database} {clock : Clock} {definition : TaskDefinition}
    {member : Member} {note : Option String} {task result : TaskInstance}
    {ledger : Ledger} (found : db.instances.find? task.id = some task)
    (returned : complete clock definition member note task db.ledger =
      .ok (result, ledger)) :
    writeBack task.id task result (ledger.entries.drop db.ledger.entries.length) db =
      storeCall db result ledger := by
  -- any household will do: `complete` does not read it
  have effect : CallEffect clock sampleHousehold definition member task db.ledger
      (.complete note) result ledger := complete_effect returned
  have row : updateRow task result task = result := by
    simp only [updateRow, written_read]
    cases effect <;> rfl
  have posted : appendPosted db.ledger (ledger.entries.drop db.ledger.entries.length) =
      ledger := by
    cases effect with
    | completed actionable auto paid => exact appendPosted_record paid
    | sentToReview actionable reviewed => simp [appendPosted]
  simp only [writeBack, found, row, posted, storeCall]

/-- After an evaluation the transaction sees, and commits, the database it left. -/
theorem apply_evaluated {db next : Database} {clock : Clock}
    {seriesInstance : SeriesInstance} {member : Member} {pending : Pending} {paid : Bool}
    {task : TaskInstance} (found : db.instances.find? pending.read.id = some task)
    (windowFound : db.seriesInstances.find? seriesInstance.id = some seriesInstance)
    (quiet : pending.window = none)
    (returned : evaluate clock seriesInstance member (pending.apply db) =
      .ok (paid, next)) :
    ({ pending with
      posted := pending.posted ++
        next.ledger.entries.drop (pending.apply db).ledger.entries.length
      window := if paid then some (seriesInstance.id, clock.now) else none } :
        Pending).apply db = next := by
  have view : pending.apply db =
      writeBack pending.read.id pending.read pending.new pending.posted db := by
    simp [Pending.apply, quiet]
  have ledger : (pending.apply db).ledger = appendPosted db.ledger pending.posted := by
    rw [view]
    simp [writeBack, found]
  cases evaluate_ok returned with
  | closed | outstanding => simp [Pending.apply, quiet]
  | paid active earned seriesFound recorded =>
      have posted := appendPosted_record recorded
      rw [ledger] at posted
      simp only [Pending.apply, if_true, quiet, writeBack, found, completeWindow,
        windowFound] at posted ⊢
      simp only [appendPosted, List.foldl_append] at posted ⊢
      rw [posted]

variable [DecidableEq Id]

/-- No other transaction has begun. -/
def lone (db : Database) (id : Id) (phase : Phase) : Config Id :=
  (opening db).enter id phase

@[simp] theorem lone_db (db : Database) (id : Id) (phase : Phase) :
    (lone db id phase).db = db := rfl

@[simp] theorem lone_phase (db : Database) (id : Id) (phase : Phase) :
    (lone db id phase).phase id = phase := by
  simp [lone, Config.enter]

@[simp] theorem lone_enter (db : Database) (id : Id) (phase next : Phase) :
    (lone db id phase).enter id next = lone db id next := by
  simp [lone, Config.enter]

theorem not_waits_lone (db : Database) (id : Id) (phase : Phase) (taskId : Uuid)
    (posted : List LedgerEntry) : ¬ Waits (lone db id phase) id taskId posted := by
  rintro ⟨other, different, pending, held, _⟩
  have ready : (lone db id phase).phase other = .ready := by
    simp [lone, Config.enter, opening, different]
  rw [ready] at held
  cases held

theorem opening_eq_lone (db : Database) (id : Id) : opening db = lone db id .ready := by
  simp [lone, Config.enter, opening]

variable [Fintype Id] {requests : Id → TaskRequest} {notes : Id → Option String} {id : Id}

/-- A transaction that has ended stays so. -/
theorem run_ended {config : Config Id}
    (ended : config.phase id = .rolledBack ∨ config.phase id = .committed) (n : Nat) :
    (runFrom (completionStep requests notes) config (List.replicate n id)).db = config.db := by
  induction n with
  | zero => rfl
  | succ n ih =>
      have idle : completionStep requests notes config id = config := by
        rcases ended with phase | phase
        · simp only [completionStep, phase]
        · simp only [completionStep, phase]
      rw [List.replicate_succ, runFrom, idle]
      exact ih

theorem rolledBack_lone {db : Database} (n : Nat) :
    (runFrom (completionStep requests notes) (lone db id .rolledBack) (List.replicate n id)).db =
      db :=
  run_ended (Or.inl (lone_phase db id .rolledBack)) n

theorem checked_lone {db : Database} {pending : Pending} (n : Nat) :
    (runFrom (completionStep requests notes) (lone db id (.checked pending))
      (List.replicate (n + 1) id)).db = pending.apply db := by
  have next : completionStep requests notes (lone db id (.checked pending)) id =
      ⟨pending.apply db, Function.update (lone db id (.checked pending)).phase id
        .committed⟩ := by
    simp only [completionStep, lone_phase, lone_db]
  rw [List.replicate_succ, runFrom, next]
  exact run_ended (Or.inr (by simp)) n

/-- What is committed of a handler's outcome. -/
def committedBy (db : Database) :
    Except RequestError (TaskInstance × OpenSession) → Database
  | .error _ => db
  | .ok (_, session) => if session.flushable then session.db else db

theorem catchInvalidTransition_error {Value : Type} (raised : ServiceError) :
    ∃ error, catchInvalidTransition (.error raised : Except ServiceError Value) =
      .error error := by
  cases raised <;> exact ⟨_, rfl⟩

/-- The window is read and its series is evaluated next. -/
theorem windowRead_lone {db : Database} {member : Member} {task result : TaskInstance}
    {posted : List LedgerEntry} {ledger : Ledger} {windowId : Uuid}
    {seriesInstance : SeriesInstance} (found : db.instances.find? task.id = some task)
    (view : writeBack task.id task result posted db = storeCall db result ledger)
    (linked : result.seriesInstanceId = some windowId)
    (windowFound : db.seriesInstances.find? windowId = some seriesInstance) :
    (runFrom (completionStep requests notes)
        (lone db id (.windowRead member ⟨task, result, posted, none⟩ seriesInstance))
        (List.replicate 2 id)).db =
      committedBy db (evaluateWindow (requests id).clock member result
        ⟨storeCall db result ledger, true⟩) := by
  have applied : (⟨task, result, posted, none⟩ : Pending).apply db =
      storeCall db result ledger := view
  have checks : evaluateWindow (requests id).clock member result
      ⟨storeCall db result ledger, true⟩ =
        (ofService (evaluate (requests id).clock seriesInstance member
          (storeCall db result ledger))).map fun outcome =>
            (result, ⟨outcome.2, true⟩) := by
    simp only [evaluateWindow, linked, OpenSession.flush, if_true, ofService,
      Except.mapError, storeCall, windowFound, bind, Except.bind, pure, Except.pure]
    cases evaluate (requests id).clock seriesInstance member _ <;> rfl
  rw [List.replicate_succ, runFrom, checks]
  cases evaluated : evaluate (requests id).clock seriesInstance member
      (storeCall db result ledger) with
  | error raised =>
      have failed : completionStep requests notes (lone db id (.windowRead member
          ⟨task, result, posted, none⟩ seriesInstance)) id =
            lone db id .rolledBack := by
        simp [completionStep, applied, evaluated]
      rw [failed, rolledBack_lone 1]
      rfl
  | ok outcome =>
      obtain ⟨paid, after⟩ := outcome
      rw [← Table.key_of_find? windowFound] at windowFound
      have commits := @apply_evaluated db after (requests id).clock seriesInstance
        member ⟨task, result, posted, none⟩ paid task found windowFound rfl
        (applied.symm ▸ evaluated)
      have passed : completionStep requests notes (lone db id (.windowRead member
          ⟨task, result, posted, none⟩ seriesInstance)) id = lone db id (.checked
            ⟨task, result, posted ++ after.ledger.entries.drop
              (storeCall db result ledger).ledger.entries.length,
              if paid then some (seriesInstance.id, (requests id).clock.now)
              else none⟩) := by
        simp only [completionStep, lone_phase, lone_db, applied, evaluated,
          not_waits_lone, if_false, lone_enter]
      rw [applied] at commits
      rw [passed, checked_lone 0, commits]
      rfl

/-- The row is stored and the series check comes next. -/
theorem completed_lone {db : Database} {member : Member} {task result : TaskInstance}
    {posted : List LedgerEntry} {ledger : Ledger}
    (found : db.instances.find? task.id = some task)
    (view : writeBack task.id task result posted db = storeCall db result ledger) :
    (runFrom (completionStep requests notes)
        (lone db id (.completed member ⟨task, result, posted, none⟩))
        (List.replicate 3 id)).db =
      committedBy db (evaluateWindow (requests id).clock member result
        ⟨storeCall db result ledger, true⟩) := by
  have applied : (⟨task, result, posted, none⟩ : Pending).apply db =
      storeCall db result ledger := view
  rw [List.replicate_succ, runFrom]
  cases linked : result.seriesInstanceId with
  | none =>
      have next : completionStep requests notes
          (lone db id (.completed member ⟨task, result, posted, none⟩)) id =
            lone db id (.checked ⟨task, result, posted, none⟩) := by
        simp [completionStep, linked]
      rw [next, checked_lone 1, applied]
      simp [evaluateWindow, linked, committedBy]
  | some windowId =>
      cases windowFound : db.seriesInstances.find? windowId with
      | none =>
          have next : completionStep requests notes
              (lone db id (.completed member ⟨task, result, posted, none⟩)) id =
                lone db id (.checked ⟨task, result, posted, none⟩) := by
            simp [completionStep, linked, windowFound]
          rw [next, checked_lone 1, applied]
          simp [evaluateWindow, linked, OpenSession.flush, ofService, Except.mapError,
            storeCall, windowFound, committedBy, bind, Except.bind, pure, Except.pure]
      | some seriesInstance =>
          have next : completionStep requests notes
              (lone db id (.completed member ⟨task, result, posted, none⟩)) id =
                lone db id (.windowRead member ⟨task, result, posted, none⟩
                  seriesInstance) := by
            simp [completionStep, linked, windowFound]
          rw [next]
          exact windowRead_lone found view linked windowFound

theorem loaded_lone {db : Database} {household : Household} {definition : TaskDefinition}
    {member : Member} {task : TaskInstance}
    (found : db.instances.find? task.id = some task) :
    (runFrom (completionStep requests notes) (lone db id (.loaded member definition task))
        (List.replicate 4 id)).db =
      committedBy db (completeHandler (requests id).clock (notes id) household definition
        member task ⟨db, true⟩) := by
  simp only [completeHandler, bind, Except.bind]
  rw [List.replicate_succ, runFrom]
  cases returned : complete (requests id).clock definition member (notes id) task
      db.ledger with
  | error raised =>
      obtain ⟨error, caught⟩ := @catchInvalidTransition_error (TaskInstance × Ledger)
        raised
      have next : completionStep requests notes
          (lone db id (.loaded member definition task)) id = lone db id .rolledBack := by
        simp [completionStep, returned]
      rw [next, caught]
      exact rolledBack_lone 3
  | ok outcome =>
      obtain ⟨result, ledger⟩ := outcome
      simp only [catchInvalidTransition, ofService, Except.mapError]
      cases storable : storableTask result with
      | false =>
          have next : completionStep requests notes
              (lone db id (.loaded member definition task)) id =
                lone db id .rolledBack := by
            simp [completionStep, returned, storable]
          rw [next, rolledBack_lone 3]
          rcases @OpenSession.putCall_unstorable db result ledger storable with put | put
          · simp [put, committedBy]
          · simp only [put, evaluateWindow, OpenSession.flush]
            split <;> simp [committedBy, bind, Except.bind, ofService, Except.mapError]
      | true =>
          have next : completionStep requests notes
              (lone db id (.loaded member definition task)) id = lone db id (.completed member
                ⟨task, result, ledger.entries.drop db.ledger.entries.length, none⟩) := by
            simp [completionStep, returned, storable, not_waits_lone]
          rw [next, OpenSession.putCall_storable storable]
          exact completed_lone found (writeBack_completed found returned)

/-- By itself a transaction leaves what the request leaves under an unused key. -/
theorem completionStep_alone {world : World}
    (fresh : world.cache.get (requests id).clock.now (requests id).memberId
      (requests id).idempotencyKey = none) :
    (runFrom (completionStep requests notes) (opening world.db) (List.replicate 5 id)).db =
      (completeTask (requests id) (notes id) world).1.db := by
  rw [opening_eq_lone world.db id]
  unfold completeTask taskMutation
  cases loaded : loadForRequest (requests id) anyMember
      (ownTask "You can only complete your own tasks.") world.db with
  | error raised =>
      have first : completionStep requests notes (lone world.db id .ready) id =
          lone world.db id .rolledBack := by
        simp [completionStep, loaded]
      rw [List.replicate_succ, runFrom, first]
      exact rolledBack_lone 4
  | ok rows =>
      obtain ⟨member, household, definition, task⟩ := rows
      have loads := loadForRequest_ok loaded
      have missing : world.cache.get (requests id).clock.now member.id
          (requests id).idempotencyKey = none := by
        rw [Table.key_of_find? loads.memberFound]
        exact fresh
      have first : completionStep requests notes (lone world.db id .ready) id =
          lone world.db id (.loaded member definition task) := by
        simp [completionStep, loaded]
      simp only
      rw [runHandler_fresh missing, List.replicate_succ, runFrom, first,
        @loaded_lone _ _ _ _ _ _ _ household _ _ _ loads.stored]
      cases completeHandler (requests id).clock (notes id) household definition member task
          ⟨world.db, true⟩ with
      | error raised => rfl
      | ok outcome =>
          obtain ⟨result, session⟩ := outcome
          simp only [committedBy, Except.map]
          split <;> rfl

end Alone

end KidsChores.Routers.CompletionRaces
