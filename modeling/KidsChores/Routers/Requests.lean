import KidsChores.Library.Results
import KidsChores.Services.Idempotency
import KidsChores.Session
import KidsChores.Workers.GenerateInstances

/-!
# Requests

What the routers share: the authenticated member and household of
`app/auth/dependencies.py`, the errors and responses, and the end of a request,
where `get_db` commits the session or rolls it back.
-/

set_option autoImplicit false

namespace KidsChores.Routers

open KidsChores.Models
open KidsChores.Library
open KidsChores.Library.PyDatetime
open KidsChores.Services.Idempotency
open KidsChores.Services.Ledger
open KidsChores.Session
open KidsChores.Workers.GenerateInstances

/-- Beside the HTTP errors, the exceptions a router does not handle: those of the
services, those of the generation code, a violated key at an insert, and a stored
response of another shape. -/
inductive RequestError where
  | http (statusCode : Nat) (detail : String)
  | raised (error : ServiceError)
  | uncaught (error : JobError)
  | integrity
  | validation
  deriving DecidableEq, Repr

theorem toOption_eq_some {Error Value : Type} {result : Except Error Value}
    {value : Value} : result.toOption = some value ↔ result = .ok value := by
  cases result with
  | error raised => simp [Except.toOption]
  | ok found => simp [Except.toOption]

theorem mapError_ok {Error Other Value : Type} {change : Error → Other}
    {result : Except Error Value} {value : Value}
    (returned : result.mapError change = .ok value) : result = .ok value := by
  cases result with
  | error raised => cases returned
  | ok found =>
      cases returned
      rfl

def ofService {α : Type} (result : Except ServiceError α) : Except RequestError α :=
  result.mapError .raised

theorem ofService_ok {α : Type} {result : Except ServiceError α} {value : α}
    (returned : ofService result = .ok value) : result = .ok value :=
  mapError_ok returned

def ofJob {α : Type} (result : Except JobError α) : Except RequestError α :=
  result.mapError .uncaught

theorem ofJob_ok {α : Type} {result : Except JobError α} {value : α}
    (returned : ofJob result = .ok value) : result = .ok value :=
  mapError_ok returned

/-! ## Responses -/

structure TaskInstanceResponse where
  id : Uuid
  definitionId : Uuid
  assigneeId : Uuid
  dueAt : Instant
  pointValue : Int
  status : TaskStatus
  completedAt : Option Instant
  completionNote : Option String
  excuseText : Option String
  reviewComment : Option String
  seriesInstanceId : Option Uuid
  deriving DecidableEq, Repr

def TaskInstanceResponse.ofTask (task : TaskInstance) : TaskInstanceResponse where
  id := task.id
  definitionId := task.definitionId
  assigneeId := task.assigneeId
  dueAt := task.dueAt
  pointValue := task.pointValue
  status := task.status
  completedAt := task.completedAt
  completionNote := task.completionNote
  excuseText := task.excuseText
  reviewComment := task.reviewComment
  seriesInstanceId := task.seriesInstanceId

structure BulkApproveResultItem where
  taskInstanceId : Uuid
  success : Bool
  status : Option TaskStatus := none
  error : Option String := none
  deriving DecidableEq, Repr

inductive Response where
  | task (response : TaskInstanceResponse)
  | bulk (results : List BulkApproveResultItem)
  deriving DecidableEq, Repr

/-- `TaskInstanceResponse.model_validate` of a stored response. -/
def asTask : Response → Except RequestError Response
  | .task response => .ok (.task response)
  | .bulk _ => .error .validation

/-- `BulkApproveResponse.model_validate` of a stored response. -/
def asBulk : Response → Except RequestError Response
  | .bulk results => .ok (.bulk results)
  | .task _ => .error .validation

/-! ## Authentication -/

/-- The member a valid token names. -/
def getCurrentMember (db : Database) (memberId : Uuid) :
    Except RequestError Member :=
  match db.members.find? memberId with
  | none => .error (.http 401 "Member not found.")
  | some member => .ok member

def getCurrentHousehold (db : Database) (member : Member) :
    Except RequestError Household :=
  match db.households.find? member.householdId with
  | none => .error (.http 404 "Household not found.")
  | some household => .ok household

def requireParent (member : Member) : Except RequestError Unit :=
  if member.role = .parent then .ok ()
  else .error (.http 403 "This action requires a parent account.")

/-- The parent and the household of a request only parents may make. -/
def loadParent (db : Database) (memberId : Uuid) :
    Except RequestError (Member × Household) := do
  let parent ← getCurrentMember db memberId
  requireParent parent
  let household ← getCurrentHousehold db parent
  return (parent, household)

/-- The check that a member id of the body belongs to the household. -/
def requireAssignee (db : Database) (household : Household) (assigneeId : Uuid) :
    Except RequestError Unit :=
  match db.members.find? assigneeId with
  | some member =>
      if member.householdId = household.id then .ok ()
      else .error (.http 422 "assignee_id is not a member of this household.")
  | none => .error (.http 422 "assignee_id is not a member of this household.")

theorem getCurrentMember_ok {db : Database} {memberId : Uuid} {member : Member}
    (returned : getCurrentMember db memberId = .ok member) :
    db.members.find? memberId = some member := by
  unfold getCurrentMember at returned
  split at returned
  · cases returned
  · rename_i found
    cases returned
    exact found

theorem getCurrentHousehold_ok {db : Database} {member : Member} {household : Household}
    (returned : getCurrentHousehold db member = .ok household) :
    db.households.find? member.householdId = some household := by
  unfold getCurrentHousehold at returned
  split at returned
  · cases returned
  · rename_i found
    cases returned
    exact found

theorem loadParent_ok {db : Database} {memberId : Uuid} {parent : Member}
    {household : Household} (returned : loadParent db memberId = .ok (parent, household)) :
    db.members.find? memberId = some parent ∧
      db.households.find? parent.householdId = some household := by
  obtain ⟨member, memberFound, returned⟩ := bind_ok returned
  obtain ⟨_, _, returned⟩ := bind_ok returned
  obtain ⟨home, homeFound, returned⟩ := bind_ok returned
  cases returned
  exact ⟨getCurrentMember_ok memberFound, getCurrentHousehold_ok homeFound⟩

theorem requireAssignee_ok {db : Database} {household : Household} {assigneeId : Uuid}
    (checked : requireAssignee db household assigneeId = .ok ()) :
    ∃ member, db.members.find? assigneeId = some member ∧
      member.householdId = household.id := by
  unfold requireAssignee at checked
  split at checked
  · rename_i member found
    split at checked
    · rename_i own
      exact ⟨member, found, own⟩
    · cases checked
  · cases checked

/-! ## The end of a request -/

theorem ledger_ext {first second : Ledger} (same : first.entries = second.entries) :
    first = second := by
  cases first
  cases second
  cases same
  rfl

/-- Posting what a writer appended to a ledger gives the ledger it left. -/
theorem appendPosted_record {ledger next : Ledger} {clock : Clock} {posting : Posting}
    (recorded : record ledger clock posting = .ok next) :
    appendPosted ledger (next.entries.drop ledger.entries.length) = next := by
  obtain ⟨appended, free⟩ := record_ok recorded
  apply ledger_ext
  rw [appended, List.drop_left]
  exact appendPosted_free free

/-- The database and Redis. -/
structure World where
  db : Database
  cache : Cache Response := []

abbrev Handler := OpenSession → Except RequestError (Response × OpenSession)

/-- `get_db` around an idempotent handler: the session is committed when the
request returns and its updates are accepted; Redis keeps what it got. -/
def runHandler (clock : Clock) (member : Member) (idempotencyKey : String)
    (deserialize : Response → Except RequestError Response) (handler : Handler)
    (world : World) : World × Except RequestError Response :=
  match runIdempotent clock.now member.id idempotencyKey deserialize handler
      world.cache ⟨world.db, true⟩ with
  | (.error raised, cache) => ({ world with cache := cache }, .error raised)
  | (.ok (response, session), cache) =>
      if session.flushable then (⟨session.db, cache⟩, .ok response)
      else ({ world with cache := cache }, .error (.raised .dataError))

/-- Under a key Redis does not know the handler runs. -/
theorem runHandler_fresh {clock : Clock} {member : Member} {idempotencyKey : String}
    {deserialize : Response → Except RequestError Response} {handler : Handler}
    {world : World}
    (fresh : world.cache.get clock.now member.id idempotencyKey = none) :
    runHandler clock member idempotencyKey deserialize handler world =
      match handler ⟨world.db, true⟩ with
      | .error raised => (world, .error raised)
      | .ok (response, session) =>
          let cache := world.cache.setNx clock.now member.id idempotencyKey response
          if session.flushable then (⟨session.db, cache⟩, .ok response)
          else ({ world with cache := cache }, .error (.raised .dataError)) := by
  unfold runHandler runIdempotent
  simp only [fresh]
  cases handler ⟨world.db, true⟩ with
  | error raised => rfl
  | ok outcome => rfl

/-- A request changes the database only by a handler that ran and returned. -/
theorem runHandler_db (clock : Clock) (member : Member) (idempotencyKey : String)
    (deserialize : Response → Except RequestError Response) (handler : Handler)
    (world : World) :
    (runHandler clock member idempotencyKey deserialize handler world).1.db =
        world.db ∨
      ∃ response session,
        world.cache.get clock.now member.id idempotencyKey = none ∧
        handler ⟨world.db, true⟩ = .ok (response, session) ∧
        (runHandler clock member idempotencyKey deserialize handler world).1.db =
          session.db := by
  unfold runHandler
  split
  · exact Or.inl rfl
  · rename_i response session cache run
    split
    · rcases runIdempotent_ok (congrArg Prod.fst run) with
        replayed | ⟨fresh, returned⟩
      · rw [replayed]
        exact Or.inl rfl
      · exact Or.inr ⟨response, session, fresh, returned, rfl⟩
    · exact Or.inl rfl

end KidsChores.Routers
