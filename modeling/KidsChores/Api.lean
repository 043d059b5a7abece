import KidsChores.Library.Runs
import KidsChores.Routers.Approvals
import KidsChores.Routers.Household
import KidsChores.Routers.Series
import KidsChores.Routers.Wallet

/-!
# The API

Every request of the definitions, series, tasks, approvals, wallet and household
routers that writes to the database, and the nightly runs, one after another.  The
requests left out write nothing here: they read, or they write to Redis or to the
savings goals.
-/

set_option autoImplicit false

namespace KidsChores.Api

open KidsChores.Models
open KidsChores.Library
open KidsChores.Library.PyDatetime
open KidsChores.Library.Runs
open KidsChores.Routers
open KidsChores.Routers.Approvals
open KidsChores.Routers.Definitions
open KidsChores.Routers.Household
open KidsChores.Routers.Series
open KidsChores.Routers.Tasks
open KidsChores.Routers.Wallet
open KidsChores.Services.Ledger
open KidsChores.Services.StateMachine
open KidsChores.Session
open KidsChores.Workers.GenerateInstances

inductive ApiEvent where
  | createDefinition (request : CreateDefinition)
  | updateDefinition (request : UpdateDefinition)
  | archiveDefinition (request : ArchiveDefinition)
  | createSeries (request : CreateSeries)
  | updateSeries (request : UpdateSeries)
  | archiveSeries (request : ArchiveSeries)
  | completeTask (request : TaskRequest) (note : Option String)
  | excuseTask (request : TaskRequest) (excuseText : String)
  | reviewTask (request : TaskRequest) (approve : Bool) (comment : Option String)
  | cancelTask (request : TaskRequest) (reason : Option String)
  | bulkApprove (request : BulkApproveRequest)
  | manualAdjust (request : ManualAdjust)
  | submitClaim (request : SubmitClaim)
  | resolveClaim (request : ResolveClaim)
  | updateHousehold (request : UpdateHousehold)
  | createTeenProfile (request : CreateTeenProfile)
  | removeMember (request : RemoveMember)
  | nightly (clock : JobClock) (householdId : Uuid)

/-- A transaction that raises is rolled back. -/
def commit {Error : Type} (world : World) (result : Except Error Database) : World :=
  match result with
  | .error _ => world
  | .ok db => { world with db := db }

def apiStep (pytz : String → Option TzInfo) (world : World) : ApiEvent → World
  | .createDefinition request => commit world (createDefinition pytz request world.db)
  | .updateDefinition request => commit world (updateDefinition request world.db)
  | .archiveDefinition request => commit world (archiveDefinition request world.db)
  | .createSeries request => commit world (createSeries pytz request world.db)
  | .updateSeries request => commit world (updateSeries request world.db)
  | .archiveSeries request => commit world (archiveSeries request world.db)
  | .completeTask request note => (completeTask request note world).1
  | .excuseTask request excuseText => (excuseTask request excuseText world).1
  | .reviewTask request approve comment => (reviewTask request approve comment world).1
  | .cancelTask request reason => (cancelTask request reason world).1
  | .bulkApprove request => (bulkApprove request world).1
  | .manualAdjust request => commit world (manualAdjust request world.db)
  | .submitClaim request => commit world (submitClaim request world.db)
  | .resolveClaim request => commit world (resolveStoredClaim request world.db)
  | .updateHousehold request => commit world (updateHousehold request world.db)
  | .createTeenProfile request => commit world (createTeenProfile request world.db)
  | .removeMember request => commit world (removeMember request world.db)
  | .nightly clock householdId =>
      commit world (generateForHousehold pytz clock householdId world.db)

/-! ## What an event can do -/

/-- The caller, and the instance of their household that a request works on. -/
structure ActsOn (db : Database) (actor : Member) (household : Household)
    (definition : TaskDefinition) (task : TaskInstance) : Prop where
  actorStored : actor ∈ db.members.rows
  householdFound : db.households.find? actor.householdId = some household
  taskStored : task ∈ db.instances.rows
  definitionStored : definition ∈ db.definitions.rows
  definitionOfTask : definition.id = task.definitionId
  own : definition.householdId = household.id

theorem ActsOn.of_loads {request : TaskRequest}
    {role : Member → Except RequestError Unit}
    {owns : Member → TaskInstance → Except RequestError Unit} {db : Database}
    {member : Member} {household : Household} {definition : TaskDefinition}
    {task : TaskInstance}
    (loads : Loads request role owns db member household definition task) :
    ActsOn db member household definition task := by
  obtain ⟨taskFound, definitionFound, own⟩ := findInstance?_ok loads.taskFound
  exact ⟨Table.mem_of_find? loads.memberFound, loads.householdFound,
    Table.mem_of_find? taskFound, Table.mem_of_find? definitionFound,
    Table.key_of_find? definitionFound, own⟩

theorem ActsOn.sameHousehold {db : Database} {actor : Member} {household : Household}
    {definition : TaskDefinition} {task : TaskInstance}
    (acts : ActsOn db actor household definition task) :
    definition.householdId = actor.householdId :=
  acts.own.trans (Table.key_of_find? acts.householdFound)

/-- The service call of a request on one task. -/
def ApiEvent.Asks : ApiEvent → ServiceCall → Prop
  | .excuseTask _ excuseText, call => call = .submitExcuse excuseText
  | .reviewTask _ approve comment, call => IsDecision approve comment call
  | .cancelTask _ reason, call => call = .cancel reason
  | _, _ => False

/-- No request takes a completion back. -/
theorem ApiEvent.Asks.forward {event : ApiEvent} {call : ServiceCall}
    (asked : event.Asks call) (reason : String) : call ≠ .reverseCompletion reason := by
  cases event with
  | excuseTask request excuseText =>
      simp only [ApiEvent.Asks] at asked
      simp [asked]
  | reviewTask request approve comment => exact IsDecision.forward asked reason
  | cancelTask request cancelReason =>
      simp only [ApiEvent.Asks] at asked
      simp [asked]
  | _ => exact asked.elim

/-- The definition as a request leaves it, under its household and its people. -/
structure SameParties (definition edited : TaskDefinition) : Prop where
  id : edited.id = definition.id
  householdId : edited.householdId = definition.householdId
  assigneeId : edited.assigneeId = definition.assigneeId
  createdBy : edited.createdBy = definition.createdBy
  seriesId : edited.seriesId = definition.seriesId

inductive ApiEffect (pytz : String → Option TzInfo) (db : Database) :
    ApiEvent → Database → Prop where
  | unchanged {event : ApiEvent} : ApiEffect pytz db event db
  | definitionCreated {request : CreateDefinition} {next : Database} {parent : Member}
      {household : Household} {tz : TzInfo} {targetDate : Date}
      {instances : Table TaskInstance.id}
      (created : Created pytz request db next parent household tz targetDate instances) :
      ApiEffect pytz db (.createDefinition request) next
  | definitionSaved {event : ApiEvent} {definition edited : TaskDefinition}
      (stored : definition ∈ db.definitions.rows)
      (same : SameParties definition edited) :
      ApiEffect pytz db event { db with definitions := db.definitions.save edited }
  | seriesCreated {request : CreateSeries} {household : Household}
      {windowStart windowEnd : Instant}
      (assignee : requireAssignee db household request.body.assigneeId = .ok ()) :
      ApiEffect pytz db (.createSeries request)
        (afterSeries request.body household windowStart windowEnd db)
  | seriesSaved {event : ApiEvent} {series edited : Series}
      (stored : series ∈ db.series.rows) (same : SameSeries series edited) :
      ApiEffect pytz db event { db with series := db.series.save edited }
  | completed {request : TaskRequest} {note : Option String} {next : Database}
      {actor : Member} {household : Household} {definition : TaskDefinition}
      {task result : TaskInstance} {ledger : Ledger}
      (acts : ActsOn db actor household definition task)
      (effect : CallEffect request.clock household definition actor task db.ledger
        (.complete note) result ledger)
      (check : WindowCheck request.clock result (storeCall db result ledger) next) :
      ApiEffect pytz db (.completeTask request note) next
  | called {event : ApiEvent} {clock : Clock} {actor : Member} {household : Household}
      {definition : TaskDefinition} {task result : TaskInstance} {ledger : Ledger}
      {call : ServiceCall} (asked : event.Asks call)
      (acts : ActsOn db actor household definition task)
      (effect : CallEffect clock household definition actor task db.ledger call result
        ledger) :
      ApiEffect pytz db event (storeCall db result ledger)
  | batched {request : BulkApproveRequest} {parent : Member} {household : Household}
      {results : List BulkApproveResultItem} {session : OpenSession}
      (loaded : loadParent db request.memberId = .ok (parent, household))
      (ran : runBatch request.clock.transaction household parent request.items
        ⟨db, true⟩ = .ok (results, session)) :
      ApiEffect pytz db (.bulkApprove request) session.db
  | adjusted {request : ManualAdjust} {parent target : Member} {household : Household}
      {ledger : Ledger} (loaded : loadParent db request.memberId = .ok (parent, household))
      (found : db.members.find? request.targetId = some target)
      (own : target.householdId = household.id)
      (recorded : record db.ledger request.clock (manualAdjustmentPosting
        request.targetId request.body.delta request.body.reason parent) = .ok ledger) :
      ApiEffect pytz db (.manualAdjust request) { db with ledger := ledger }
  | claimed {request : SubmitClaim} {member : Member}
      (found : db.members.find? request.memberId = some member) :
      ApiEffect pytz db (.submitClaim request)
        { db with claims := db.claims.append (request.body.claim member) fun _ => rfl }
  | claimResolved {request : ResolveClaim} {parent : Member} {household : Household}
      {claim resolved : Claim} {ledger : Ledger}
      (loaded : loadParent db request.memberId = .ok (parent, household))
      (found : findClaim? db household request.claimId = some claim)
      (resolution : Wallet.resolveClaim request.clock parent request.body claim db.ledger =
        .ok (resolved, ledger)) :
      ApiEffect pytz db (.resolveClaim request)
        { db with claims := db.claims.save resolved, ledger := ledger }
  | settings {event : ApiEvent} {households : Table Household.id} :
      ApiEffect pytz db event { db with households := households }
  | teenAdded {request : CreateTeenProfile} {household : Household} :
      ApiEffect pytz db (.createTeenProfile request)
        { db with
          members := db.members.append (request.body.teen request.hashPin household)
            fun _ => rfl }
  | memberRemoved {request : RemoveMember} {member : Member}
      (stored : member ∈ db.members.rows) :
      ApiEffect pytz db (.removeMember request)
        { db with
          members := db.members.save { member with archivedAt := some request.now } }
  | generated {clock : JobClock} {householdId : Uuid} {next : Database}
      {household : Household} {tz : TzInfo} {rows : Table TaskInstance.id}
      (run : GeneratedFor pytz clock householdId db next household tz rows) :
      ApiEffect pytz db (.nightly clock householdId) next

section Effects

variable {pytz : String → Option TzInfo} {world : World}

/-- A transaction changes nothing, or has committed its result. -/
theorem commit_effect {Error : Type} {event : ApiEvent} {result : Except Error Database}
    (effect : ∀ next, result = .ok next → ApiEffect pytz world.db event next) :
    ApiEffect pytz world.db event (commit world result).db := by
  cases result with
  | error raised => exact .unchanged
  | ok next => exact effect next rfl

theorem apiStep_effect (event : ApiEvent) :
    ApiEffect pytz world.db event (apiStep pytz world event).db := by
  cases event with
  | createDefinition request =>
      refine commit_effect fun next returned => ?_
      obtain ⟨parent, household, tz, targetDate, instances, created⟩ :=
        createDefinition_ok returned
      exact .definitionCreated created
  | updateDefinition request =>
      refine commit_effect fun next returned => ?_
      obtain ⟨definition, edited, found, same, rfl⟩ := updateDefinition_ok returned
      exact .definitionSaved (Table.mem_of_find? found)
        ⟨same.id, same.householdId, same.assigneeId, same.createdBy, same.seriesId⟩
  | archiveDefinition request =>
      refine commit_effect fun next returned => ?_
      obtain ⟨definition, found, rfl⟩ := archiveDefinition_ok returned
      exact .definitionSaved (Table.mem_of_find? found) ⟨rfl, rfl, rfl, rfl, rfl⟩
  | createSeries request =>
      refine commit_effect fun next returned => ?_
      obtain ⟨household, windowStart, windowEnd, assignee, rfl⟩ := createSeries_ok returned
      exact .seriesCreated assignee
  | updateSeries request =>
      refine commit_effect fun next returned => ?_
      obtain ⟨series, edited, found, same, rfl⟩ := updateSeries_ok returned
      exact .seriesSaved (Table.mem_of_find? found) same
  | archiveSeries request =>
      refine commit_effect fun next returned => ?_
      obtain ⟨series, edited, found, same, rfl⟩ := archiveSeries_ok returned
      exact .seriesSaved (Table.mem_of_find? found) same
  | completeTask request note =>
      simp only [apiStep]
      rcases completeTask_db request note world with
        same | ⟨member, household, definition, task, result, ledger, loaded, _, effect, check⟩
      · rw [same]
        exact .unchanged
      · exact .completed (.of_loads (loadForRequest_ok loaded)) effect check
  | excuseTask request excuseText =>
      simp only [apiStep]
      rcases excuseTask_db request excuseText world with
        same | ⟨member, household, definition, task, result, ledger, loaded, effect, stored⟩
      · rw [same]
        exact .unchanged
      · rw [stored]
        exact .called rfl (.of_loads (loadForRequest_ok loaded)) effect
  | reviewTask request approve comment =>
      simp only [apiStep]
      rcases reviewTask_db request approve comment world with
        same | ⟨parent, household, definition, task, call, result, ledger, loaded, _, decision,
          effect, stored⟩
      · rw [same]
        exact .unchanged
      · rw [stored]
        exact .called decision (.of_loads (loadForRequest_ok loaded)) effect
  | cancelTask request reason =>
      simp only [apiStep]
      rcases cancelTask_db request reason world with
        same | ⟨parent, household, definition, task, result, ledger, loaded, effect, stored⟩
      · rw [same]
        exact .unchanged
      · rw [stored]
        exact .called rfl (.of_loads (loadForRequest_ok loaded)) effect
  | bulkApprove request =>
      simp only [apiStep]
      rcases bulkApprove_db request world with
        same | ⟨parent, household, results, session, loaded, _, ran, stored⟩
      · rw [same]
        exact .unchanged
      · rw [stored]
        exact .batched loaded ran
  | manualAdjust request =>
      refine commit_effect fun next returned => ?_
      obtain ⟨parent, household, target, ledger, loaded, found, own, recorded, rfl⟩ :=
        manualAdjust_ok returned
      exact .adjusted loaded found own recorded
  | submitClaim request =>
      refine commit_effect fun next returned => ?_
      obtain ⟨member, found, rfl⟩ := submitClaim_ok returned
      exact .claimed found
  | resolveClaim request =>
      refine commit_effect fun next returned => ?_
      obtain ⟨parent, household, claim, resolved, ledger, loaded, found, resolution, rfl⟩ :=
        resolveStoredClaim_ok returned
      exact .claimResolved loaded found resolution
  | updateHousehold request =>
      refine commit_effect fun next returned => ?_
      obtain ⟨households, rfl⟩ := updateHousehold_ok returned
      exact .settings
  | createTeenProfile request =>
      refine commit_effect fun next returned => ?_
      obtain ⟨household, rfl⟩ := createTeenProfile_ok returned
      exact .teenAdded
  | removeMember request =>
      refine commit_effect fun next returned => ?_
      obtain ⟨member, found, rfl⟩ := removeMember_ok returned
      exact .memberRemoved (Table.mem_of_find? found)
  | nightly clock householdId =>
      refine commit_effect fun next returned => ?_
      obtain ⟨household, tz, rows, run⟩ := generateForHousehold_ok returned
      exact .generated run

end Effects

/-- What the service calls of the parent keep, a batch keeps. -/
theorem batch_keeps (invariant : Database → Prop) {db : Database} {transaction : Instant}
    {memberId : Uuid} {parent : Member} {household : Household}
    {items : List BulkApproveItem} {results : List BulkApproveResultItem}
    {session : OpenSession}
    (called : ∀ {before : Database} {clock : Clock} {definition : TaskDefinition}
      {task result : TaskInstance} {ledger : Ledger} {call : ServiceCall} {approve : Bool}
      {comment : Option String}, IsDecision approve comment call →
      ActsOn before parent household definition task →
      CallEffect clock household definition parent task before.ledger call result ledger →
      invariant before → invariant (storeCall before result ledger))
    (start : invariant db) (loaded : loadParent db memberId = .ok (parent, household))
    (ran : runBatch transaction household parent items ⟨db, true⟩ =
      .ok (results, session)) :
    invariant session.db := by
  obtain ⟨parentFound, householdFound⟩ := loadParent_ok loaded
  have free : EachMeets (itemStep transaction household parent) (fun _ _ => True)
      ⟨db, true⟩ items := eachMeets_of_forall (fun _ _ _ => trivial) _
  refine (runBatch_keeps (fun current => invariant current ∧
    current.members = db.members ∧ current.households = db.households)
    ?_ ⟨start, rfl, rfl⟩ free ran).1
  rintro before item result after ⟨holds, sameMembers, sameHouseholds⟩ _ returned
  rcases approveItem_ok returned with same | ⟨definition, task, call, decided, ledger,
    found, decision, effect, stored⟩
  · rw [same]
    exact ⟨holds, sameMembers, sameHouseholds⟩
  · obtain ⟨taskFound, definitionFound, own⟩ := findInstance?_ok found
    have acts : ActsOn before.db parent household definition task := by
      refine ⟨?_, ?_, Table.mem_of_find? taskFound, Table.mem_of_find? definitionFound,
        Table.key_of_find? definitionFound, own⟩
      · rw [sameMembers]
        exact Table.mem_of_find? parentFound
      · rw [sameHouseholds]
        exact householdFound
    rw [stored]
    exact ⟨called decision acts effect holds, sameMembers, sameHouseholds⟩

end KidsChores.Api
