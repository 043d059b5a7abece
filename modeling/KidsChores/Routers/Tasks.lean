import KidsChores.Routers.Requests
import KidsChores.Services.CallEffect
import KidsChores.Services.Notifications
import KidsChores.Services.SeriesCompletion

/-!
# Tasks router

The mutations of `app/routers/tasks.py`.  They load the instance, check who may
act on it and run one handler under the request's idempotency key.  Completing a
task also evaluates its series window; reviewing one does not.
-/

set_option autoImplicit false

namespace KidsChores.Routers.Tasks

open KidsChores.Models
open KidsChores.Library
open KidsChores.Services.Idempotency
open KidsChores.Services.Notifications
open KidsChores.Services.SeriesCompletion
open KidsChores.Services.StateMachine
open KidsChores.Session

/-- The instance with that id, joined to a definition of the household. -/
def findInstance? (db : Database) (household : Household) (instanceId : Uuid) :
    Option (TaskDefinition × TaskInstance) := do
  let task ← db.instances.find? instanceId
  let definition ← db.definitions.find? task.definitionId
  if definition.householdId = household.id then some (definition, task) else none

theorem findInstance?_ok {db : Database} {household : Household}
    {instanceId : Uuid} {definition : TaskDefinition} {task : TaskInstance}
    (found : findInstance? db household instanceId = some (definition, task)) :
    db.instances.find? instanceId = some task ∧
      db.definitions.find? task.definitionId = some definition ∧
      definition.householdId = household.id := by
  simp only [findInstance?, Option.bind_eq_bind, Option.bind_eq_some_iff] at found
  obtain ⟨stored, taskFound, owner, definitionFound, selected⟩ := found
  split at selected
  · rename_i own
    cases selected
    exact ⟨taskFound, definitionFound, own⟩
  · cases selected

def getInstanceOr404 (db : Database) (household : Household) (instanceId : Uuid) :
    Except RequestError (TaskDefinition × TaskInstance) :=
  match findInstance? db household instanceId with
  | none => .error (.http 404 "Task instance not found.")
  | some found => .ok found

theorem getInstanceOr404_ok {db : Database} {household : Household}
    {instanceId : Uuid} {found : TaskDefinition × TaskInstance}
    (returned : getInstanceOr404 db household instanceId = .ok found) :
    findInstance? db household instanceId = some found := by
  unfold getInstanceOr404 at returned
  split at returned
  · cases returned
  · rename_i loaded
    cases returned
    exact loaded

structure TaskRequest where
  clock : Clock
  memberId : Uuid
  instanceId : Uuid
  idempotencyKey : String
  deriving DecidableEq, Repr

/-- A handler on the rows the request has loaded. -/
abbrev TaskHandler := Household → TaskDefinition → Member → TaskInstance →
  OpenSession → Except RequestError (TaskInstance × OpenSession)

def loadForRequest (request : TaskRequest) (role : Member → Except RequestError Unit)
    (owns : Member → TaskInstance → Except RequestError Unit) (db : Database) :
    Except RequestError (Member × Household × TaskDefinition × TaskInstance) := do
  let member ← getCurrentMember db request.memberId
  role member
  let household ← getCurrentHousehold db member
  let (definition, task) ← getInstanceOr404 db household request.instanceId
  owns member task
  return (member, household, definition, task)

def taskMutation (role : Member → Except RequestError Unit)
    (owns : Member → TaskInstance → Except RequestError Unit)
    (handler : TaskHandler) (request : TaskRequest) (world : World) :
    World × Except RequestError Response :=
  match loadForRequest request role owns world.db with
  | .error raised => (world, .error raised)
  | .ok (member, household, definition, task) =>
      runHandler request.clock member request.idempotencyKey asTask
        (fun session =>
          (handler household definition member task session).map fun result =>
            (.task (.ofTask result.1), result.2))
        world

def anyMember (_ : Member) : Except RequestError Unit := .ok ()

def anyTask (_ : Member) (_ : TaskInstance) : Except RequestError Unit := .ok ()

/-- A teen may only act on their own tasks. -/
def ownTask (detail : String) (member : Member) (task : TaskInstance) :
    Except RequestError Unit :=
  if member.role = .teen ∧ task.assigneeId ≠ member.id then .error (.http 403 detail)
  else .ok ()

/-- What a handler that ran had loaded and checked. -/
structure Loads (request : TaskRequest) (role : Member → Except RequestError Unit)
    (owns : Member → TaskInstance → Except RequestError Unit) (db : Database)
    (member : Member) (household : Household) (definition : TaskDefinition)
    (task : TaskInstance) : Prop where
  memberFound : db.members.find? request.memberId = some member
  roleOk : role member = .ok ()
  householdFound : db.households.find? member.householdId = some household
  taskFound : findInstance? db household request.instanceId = some (definition, task)
  ownsOk : owns member task = .ok ()

theorem loadForRequest_ok {request : TaskRequest}
    {role : Member → Except RequestError Unit}
    {owns : Member → TaskInstance → Except RequestError Unit} {db : Database}
    {member : Member} {household : Household} {definition : TaskDefinition}
    {task : TaskInstance}
    (loaded : loadForRequest request role owns db =
      .ok (member, household, definition, task)) :
    Loads request role owns db member household definition task := by
  unfold loadForRequest at loaded
  obtain ⟨_, memberFound, loaded⟩ := bind_ok loaded
  obtain ⟨_, roleOk, loaded⟩ := bind_ok loaded
  obtain ⟨_, householdFound, loaded⟩ := bind_ok loaded
  obtain ⟨⟨_, _⟩, rowsFound, loaded⟩ := bind_ok loaded
  obtain ⟨_, ownsOk, loaded⟩ := bind_ok loaded
  cases loaded
  exact ⟨getCurrentMember_ok memberFound, roleOk, getCurrentHousehold_ok householdFound,
    getInstanceOr404_ok rowsFound, ownsOk⟩

theorem Loads.stored {request : TaskRequest} {role : Member → Except RequestError Unit}
    {owns : Member → TaskInstance → Except RequestError Unit} {db : Database}
    {member : Member} {household : Household} {definition : TaskDefinition}
    {task : TaskInstance}
    (loads : Loads request role owns db member household definition task) :
    db.instances.find? task.id = some task := by
  obtain ⟨found, _⟩ := findInstance?_ok loads.taskFound
  rw [Table.key_of_find? found]
  exact found

theorem taskMutation_db (role : Member → Except RequestError Unit)
    (owns : Member → TaskInstance → Except RequestError Unit)
    (handler : TaskHandler) (request : TaskRequest) (world : World) :
    (taskMutation role owns handler request world).1.db = world.db ∨
      ∃ member household definition task result session,
        loadForRequest request role owns world.db =
          .ok (member, household, definition, task) ∧
        world.cache.get request.clock.now member.id request.idempotencyKey = none ∧
        handler household definition member task ⟨world.db, true⟩ =
          .ok (result, session) ∧
        (taskMutation role owns handler request world).1.db = session.db := by
  unfold taskMutation
  split
  · exact Or.inl rfl
  · rename_i member household definition task loaded
    rcases runHandler_db request.clock member request.idempotencyKey asTask _ world with
      same | ⟨response, session, fresh, returned, committed⟩
    · exact Or.inl same
    · right
      cases ran : handler household definition member task ⟨world.db, true⟩ with
      | error raised =>
          rw [ran] at returned
          cases returned
      | ok outcome =>
          obtain ⟨result, after⟩ := outcome
          rw [ran] at returned
          cases returned
          exact ⟨member, household, definition, task, result, after,
            loaded, fresh, ran, committed⟩

/-! ## The handlers -/

/-- `except InvalidTransitionError`. -/
def catchInvalidTransition {α : Type} : Except ServiceError α →
    Except RequestError α
  | .error (.invalidTransition message) => .error (.http 422 message)
  | result => ofService result

/-- `except (InvalidTransitionError, ValueError)`. -/
def catchValueError {α : Type} : Except ServiceError α → Except RequestError α
  | .error (.valueError message) => .error (.http 422 message)
  | result => catchInvalidTransition result

theorem catchInvalidTransition_ok {α : Type} {result : Except ServiceError α}
    {value : α} (returned : catchInvalidTransition result = .ok value) :
    result = .ok value := by
  unfold catchInvalidTransition at returned
  split at returned
  · cases returned
  · exact ofService_ok returned

theorem catchValueError_ok {α : Type} {result : Except ServiceError α} {value : α}
    (returned : catchValueError result = .ok value) : result = .ok value := by
  unfold catchValueError at returned
  split at returned
  · cases returned
  · exact catchInvalidTransition_ok returned

/-- The series check after a completion. -/
def evaluateWindow (clock : Clock) (member : Member) (completed : TaskInstance)
    (session : OpenSession) : Except RequestError (TaskInstance × OpenSession) :=
  match completed.seriesInstanceId with
  | none => .ok (completed, session)
  | some seriesInstanceId => do
      let session ← ofService session.flush
      match session.db.seriesInstances.find? seriesInstanceId with
      | none => return (completed, session)
      | some seriesInstance =>
          let (_, db) ← ofService (evaluate clock seriesInstance member session.db)
          return (completed, { session with db := db })

def completeHandler (clock : Clock) (note : Option String) : TaskHandler :=
  fun _ definition member task session => do
    let (completed, ledger) ← catchInvalidTransition
      (complete clock definition member note task session.db.ledger)
    let session ← ofService (session.putCall completed ledger)
    evaluateWindow clock member completed session

/-- The notification after a submitted excuse queries the parents, which flushes
the row. -/
def excuseHandler (clock : Clock) (excuseText : String) : TaskHandler :=
  fun _ _ _ task session => do
    let (result, ledger) ← catchValueError
      (submitExcuse clock excuseText task session.db.ledger)
    let session ← ofService (session.putCall result ledger)
    let session ← ofService session.flush
    return (result, session)

/-- The service call a review comes to, by the status that was loaded. -/
def reviewCall (clock : Clock) (approve : Bool) (comment : Option String)
    (household : Household) (definition : TaskDefinition) (parent : Member)
    (task : TaskInstance) (ledger : Ledger) :
    Option (Except ServiceError (TaskInstance × Ledger)) :=
  if task.status = .reviewPending then
    some (review clock definition parent approve comment task ledger)
  else if task.status = .excusePending then
    some (resolveExcuse clock definition parent household approve comment task
      ledger)
  else none

def notPendingReview (task : TaskInstance) : String :=
  "Task is not pending review (status: " ++ task.status.value ++ ")."

def reviewHandler (clock : Clock) (approve : Bool) (comment : Option String) :
    TaskHandler :=
  fun household definition parent task session =>
    match reviewCall clock approve comment household definition parent task
        session.db.ledger with
    | none => .error (.http 422 (notPendingReview task))
    | some called => do
        let (result, ledger) ← catchValueError called
        let session ← ofService (session.putCall result ledger)
        return (result, session)

def cancelHandler (clock : Clock) (reason : Option String) : TaskHandler :=
  fun _ _ parent task session => do
    let (result, ledger) ← catchInvalidTransition
      (cancel clock parent reason task session.db.ledger)
    let session ← ofService (session.putCall result ledger)
    return (result, session)

/-! ## What the handlers leave -/

/-- The series check: no window, a window that is gone, or an evaluation. -/
inductive WindowCheck (clock : Clock) (completed : TaskInstance) (db : Database) :
    Database → Prop where
  | unlinked (unlinked : completed.seriesInstanceId = none) :
      WindowCheck clock completed db db
  | gone {seriesInstanceId : Uuid}
      (linked : completed.seriesInstanceId = some seriesInstanceId)
      (gone : db.seriesInstances.find? seriesInstanceId = none) :
      WindowCheck clock completed db db
  | evaluated {seriesInstanceId : Uuid} {seriesInstance : SeriesInstance}
      {paid : Bool} {next : Database}
      (linked : completed.seriesInstanceId = some seriesInstanceId)
      (found : db.seriesInstances.find? seriesInstanceId = some seriesInstance)
      (evaluation : Evaluation clock seriesInstance db paid next) :
      WindowCheck clock completed db next

theorem evaluateWindow_ok {clock : Clock} {member : Member}
    {completed result : TaskInstance} {session next : OpenSession}
    (returned : evaluateWindow clock member completed session = .ok (result, next)) :
    result = completed ∧ WindowCheck clock completed session.db next.db := by
  unfold evaluateWindow at returned
  split at returned
  · rename_i unlinked
    cases returned
    exact ⟨rfl, .unlinked unlinked⟩
  · rename_i seriesInstanceId linked
    obtain ⟨after, flushed, returned⟩ := bind_ok returned
    cases OpenSession.flush_ok (ofService_ok flushed)
    split at returned
    · rename_i gone
      cases returned
      exact ⟨rfl, .gone linked gone⟩
    · rename_i seriesInstance found
      obtain ⟨outcome, evaluated, returned⟩ := bind_ok returned
      cases returned
      exact ⟨rfl, .evaluated linked found (evaluate_ok (ofService_ok evaluated))⟩

theorem completeHandler_ok {clock : Clock} {note : Option String}
    {household : Household} {definition : TaskDefinition} {member : Member}
    {task result : TaskInstance} {session next : OpenSession}
    (returned : completeHandler clock note household definition member task session =
      .ok (result, next)) :
    ∃ ledger,
      CallEffect clock household definition member task session.db.ledger
        (.complete note) result ledger ∧
      WindowCheck clock result (storeCall session.db result ledger) next.db := by
  unfold completeHandler at returned
  obtain ⟨⟨completed, ledger⟩, called, returned⟩ := bind_ok returned
  obtain ⟨after, put, returned⟩ := bind_ok returned
  obtain ⟨rfl, check⟩ := evaluateWindow_ok returned
  rw [OpenSession.putCall_ok (ofService_ok put)] at check
  exact ⟨ledger, complete_effect (catchInvalidTransition_ok called), check⟩

theorem excuseHandler_ok {clock : Clock} {excuseText : String}
    {household : Household} {definition : TaskDefinition} {member : Member}
    {task result : TaskInstance} {session next : OpenSession}
    (returned : excuseHandler clock excuseText household definition member task
      session = .ok (result, next)) :
    ∃ ledger,
      CallEffect clock household definition member task session.db.ledger
        (.submitExcuse excuseText) result ledger ∧
      next.db = storeCall session.db result ledger := by
  unfold excuseHandler at returned
  obtain ⟨⟨submitted, ledger⟩, called, returned⟩ := bind_ok returned
  obtain ⟨after, put, returned⟩ := bind_ok returned
  obtain ⟨flushedSession, flushed, returned⟩ := bind_ok returned
  cases returned
  refine ⟨ledger, submitExcuse_effect (catchValueError_ok called), ?_⟩
  rw [OpenSession.flush_ok (ofService_ok flushed)]
  exact OpenSession.putCall_ok (ofService_ok put)

/-- A review is one of two calls. -/
def IsDecision (approve : Bool) (comment : Option String) (call : ServiceCall) :
    Prop :=
  call = .review approve comment ∨ call = .resolveExcuse approve comment

theorem IsDecision.forward {approve : Bool} {comment : Option String}
    {call : ServiceCall} (decision : IsDecision approve comment call) (reason : String) :
    call ≠ .reverseCompletion reason := by
  rcases decision with rfl | rfl <;> simp

theorem reviewCall_effect {clock : Clock} {approve : Bool}
    {comment : Option String} {household : Household} {definition : TaskDefinition}
    {parent : Member} {task result : TaskInstance} {ledger next : Ledger}
    (called : reviewCall clock approve comment household definition parent task
      ledger = some (.ok (result, next))) :
    ∃ call, IsDecision approve comment call ∧
      CallEffect clock household definition parent task ledger call result next := by
  unfold reviewCall at called
  split at called
  · exact ⟨_, Or.inl rfl, review_effect (Option.some.inj called)⟩
  · split at called
    · exact ⟨_, Or.inr rfl, resolveExcuse_effect (Option.some.inj called)⟩
    · cases called

theorem reviewHandler_ok {clock : Clock} {approve : Bool} {comment : Option String}
    {household : Household} {definition : TaskDefinition} {parent : Member}
    {task result : TaskInstance} {session next : OpenSession}
    (returned : reviewHandler clock approve comment household definition parent task
      session = .ok (result, next)) :
    ∃ call ledger, IsDecision approve comment call ∧
      CallEffect clock household definition parent task session.db.ledger call result
        ledger ∧
      next.db = storeCall session.db result ledger := by
  unfold reviewHandler at returned
  split at returned
  · cases returned
  · rename_i outcome called
    obtain ⟨⟨row, ledger⟩, handled, returned⟩ := bind_ok returned
    obtain ⟨after, put, returned⟩ := bind_ok returned
    rw [catchValueError_ok handled] at called
    obtain ⟨call, decision, effect⟩ := reviewCall_effect called
    cases returned
    exact ⟨call, ledger, decision, effect, OpenSession.putCall_ok (ofService_ok put)⟩

theorem cancelHandler_ok {clock : Clock} {reason : Option String}
    {household : Household} {definition : TaskDefinition} {parent : Member}
    {task result : TaskInstance} {session next : OpenSession}
    (returned : cancelHandler clock reason household definition parent task session =
      .ok (result, next)) :
    ∃ ledger,
      CallEffect clock household definition parent task session.db.ledger
        (.cancel reason) result ledger ∧
      next.db = storeCall session.db result ledger := by
  unfold cancelHandler at returned
  obtain ⟨⟨cancelled, ledger⟩, called, returned⟩ := bind_ok returned
  obtain ⟨after, put, returned⟩ := bind_ok returned
  cases returned
  exact ⟨ledger, cancel_effect (catchInvalidTransition_ok called),
    OpenSession.putCall_ok (ofService_ok put)⟩

/-! ## The endpoints -/

def completeTask (request : TaskRequest) (note : Option String) (world : World) :
    World × Except RequestError Response :=
  taskMutation anyMember (ownTask "You can only complete your own tasks.")
    (completeHandler request.clock note) request world

def excuseTask (request : TaskRequest) (excuseText : String) (world : World) :
    World × Except RequestError Response :=
  taskMutation anyMember (ownTask "You can only excuse your own tasks.")
    (excuseHandler request.clock excuseText) request world

def reviewTask (request : TaskRequest) (approve : Bool) (comment : Option String)
    (world : World) : World × Except RequestError Response :=
  taskMutation requireParent anyTask
    (reviewHandler request.clock approve comment) request world

def cancelTask (request : TaskRequest) (reason : Option String) (world : World) :
    World × Except RequestError Response :=
  taskMutation requireParent anyTask (cancelHandler request.clock reason) request
    world

/-- The notifications of a request to `excuse_task`: those of its handler, if it gets to
run. -/
def excusePushes (request : TaskRequest) (excuseText : String) (world : World) :
    List Push :=
  match loadForRequest request anyMember (ownTask "You can only excuse your own tasks.")
      world.db with
  | .error _ => []
  | .ok (member, household, definition, task) =>
      match world.cache.get request.clock.now member.id request.idempotencyKey with
      | some _ => []
      | none =>
          match excuseHandler request.clock excuseText household definition member task
              ⟨world.db, true⟩ with
          | .error _ => []
          | .ok _ =>
              notifyNewExcuse world.db household.id member.displayName definition.title

/-- What the handler of `review_task` sends once its service call has returned. -/
def resolvedPushes (db : Database) (definition : TaskDefinition)
    (task : TaskInstance) (approve : Bool) : List Push :=
  if task.status = .excusePending then
    match db.members.find? task.assigneeId with
    | some assignee => notifyExcuseResolved assignee definition approve
    | none => []
  else []

/-- The notifications of a request to `review_task`: those of its handler, if it
gets to run. -/
def reviewPushes (request : TaskRequest) (approve : Bool) (comment : Option String)
    (world : World) : List Push :=
  match loadForRequest request requireParent anyTask world.db with
  | .error _ => []
  | .ok (parent, household, definition, task) =>
      match world.cache.get request.clock.now parent.id request.idempotencyKey with
      | some _ => []
      | none =>
          match reviewHandler request.clock approve comment household definition parent
              task ⟨world.db, true⟩ with
          | .error _ => []
          | .ok _ => resolvedPushes world.db definition task approve

/-! ## What the endpoints leave -/

theorem completeTask_db (request : TaskRequest) (note : Option String)
    (world : World) :
    (completeTask request note world).1.db = world.db ∨
      ∃ member household definition task result ledger,
        loadForRequest request anyMember
          (ownTask "You can only complete your own tasks.") world.db =
            .ok (member, household, definition, task) ∧
        world.cache.get request.clock.now member.id request.idempotencyKey = none ∧
        CallEffect request.clock household definition member task world.db.ledger
          (.complete note) result ledger ∧
        WindowCheck request.clock result (storeCall world.db result ledger)
          (completeTask request note world).1.db := by
  rcases taskMutation_db anyMember (ownTask "You can only complete your own tasks.")
      (completeHandler request.clock note) request world with
    same | ⟨member, household, definition, task, result, session, loaded, fresh, ran,
      committed⟩
  · exact Or.inl same
  · obtain ⟨ledger, effect, check⟩ := completeHandler_ok ran
    rw [← committed] at check
    exact Or.inr ⟨member, household, definition, task, result, ledger, loaded, fresh,
      effect, check⟩

theorem excuseTask_db (request : TaskRequest) (excuseText : String)
    (world : World) :
    (excuseTask request excuseText world).1.db = world.db ∨
      ∃ member household definition task result ledger,
        loadForRequest request anyMember
          (ownTask "You can only excuse your own tasks.") world.db =
            .ok (member, household, definition, task) ∧
        CallEffect request.clock household definition member task world.db.ledger
          (.submitExcuse excuseText) result ledger ∧
        (excuseTask request excuseText world).1.db =
          storeCall world.db result ledger := by
  rcases taskMutation_db anyMember (ownTask "You can only excuse your own tasks.")
      (excuseHandler request.clock excuseText) request world with
    same | ⟨member, household, definition, task, result, session, loaded, _, ran,
      committed⟩
  · exact Or.inl same
  · obtain ⟨ledger, effect, stored⟩ := excuseHandler_ok ran
    exact Or.inr ⟨member, household, definition, task, result, ledger, loaded, effect,
      committed.trans stored⟩

theorem reviewTask_db (request : TaskRequest) (approve : Bool)
    (comment : Option String) (world : World) :
    (reviewTask request approve comment world).1.db = world.db ∨
      ∃ parent household definition task call result ledger,
        loadForRequest request requireParent anyTask world.db =
          .ok (parent, household, definition, task) ∧
        world.cache.get request.clock.now parent.id request.idempotencyKey = none ∧
        IsDecision approve comment call ∧
        CallEffect request.clock household definition parent task world.db.ledger
          call result ledger ∧
        (reviewTask request approve comment world).1.db =
          storeCall world.db result ledger := by
  rcases taskMutation_db requireParent anyTask
      (reviewHandler request.clock approve comment) request world with
    same | ⟨parent, household, definition, task, result, session, loaded, fresh, ran,
      committed⟩
  · exact Or.inl same
  · obtain ⟨call, ledger, decision, effect, stored⟩ := reviewHandler_ok ran
    exact Or.inr ⟨parent, household, definition, task, call, result, ledger, loaded,
      fresh, decision, effect, committed.trans stored⟩

theorem cancelTask_db (request : TaskRequest) (reason : Option String) (world : World) :
    (cancelTask request reason world).1.db = world.db ∨
      ∃ parent household definition task result ledger,
        loadForRequest request requireParent anyTask world.db =
          .ok (parent, household, definition, task) ∧
        CallEffect request.clock household definition parent task world.db.ledger
          (.cancel reason) result ledger ∧
        (cancelTask request reason world).1.db = storeCall world.db result ledger := by
  rcases taskMutation_db requireParent anyTask (cancelHandler request.clock reason)
      request world with
    same | ⟨parent, household, definition, task, result, session, loaded, _, ran,
      committed⟩
  · exact Or.inl same
  · obtain ⟨ledger, effect, stored⟩ := cancelHandler_ok ran
    exact Or.inr ⟨parent, household, definition, task, result, ledger, loaded, effect,
      committed.trans stored⟩

end KidsChores.Routers.Tasks
