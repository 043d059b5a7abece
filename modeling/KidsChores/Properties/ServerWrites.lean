import KidsChores.Library.Refinement
import KidsChores.Properties.RowRanges
import KidsChores.Properties.SettledRows
import KidsChores.Properties.TeenRequests

/-!
# The writes of the server

Every event of the server comes down to a few kinds of writes: a service call by
someone entitled to it, a new instance, a sweep, a posting of a parent, and changes of
the other tables.  An event is a path of such writes, so what each write keeps holds in
every state of every run.
-/

set_option autoImplicit false

namespace KidsChores.Properties

open KidsChores.Api
open KidsChores.Library
open KidsChores.Library.PyDatetime
open KidsChores.Library.Refinement
open KidsChores.Library.Runs
open KidsChores.Library.Tenancy
open KidsChores.Lifecycle
open KidsChores.Models
open KidsChores.Routers
open KidsChores.Routers.Approvals
open KidsChores.Routers.Auth
open KidsChores.Routers.Definitions
open KidsChores.Routers.Household
open KidsChores.Routers.Series
open KidsChores.Routers.Tasks
open KidsChores.Routers.Wallet
open KidsChores.Server
open KidsChores.Services.Ledger
open KidsChores.Services.RateLimit
open KidsChores.Services.StateMachine
open KidsChores.Session
open KidsChores.Workers.GenerateInstances
open Relation

/-! ## The writes -/

/-- Who may make a service call: a parent, or the assignee where they complete or
excuse the task.  No request takes a completion back. -/
def Entitled (actor : Member) (task : TaskInstance) : ServiceCall → Prop
  | .complete _ => actor.role = .parent ∨ task.assigneeId = actor.id
  | .submitExcuse _ => actor.role = .parent ∨ task.assigneeId = actor.id
  | .review _ _ => actor.role = .parent
  | .resolveExcuse _ _ => actor.role = .parent
  | .cancel _ => actor.role = .parent
  | .reverseCompletion _ => False

structure ParentOf (db : Database) (parent member : Member) : Prop where
  parentStored : parent ∈ db.members.rows
  role : parent.role = .parent
  memberStored : member ∈ db.members.rows
  sameHousehold : member.householdId = parent.householdId

def LiveIn (db : Database) (householdId definitionId : Uuid) : Prop :=
  ∃ definition ∈ db.definitions.rows, definition.id = definitionId ∧
    definition.archivedAt = none ∧ definition.householdId = householdId

structure SameSubject (member edited : Member) : Prop where
  authProvider : edited.authProvider = member.authProvider
  authSubject : edited.authSubject = member.authSubject

/-- A teen, or a parent beside whom there is another. -/
def Removable (db : Database) (member : Member) : Prop :=
  member.role = .parent → ∃ other, ParentOf db other member ∧ other.id ≠ member.id

/-- What nobody writes of a member once the row is there. -/
structure SamePerson (member edited : Member) : Prop where
  displayName : edited.displayName = member.displayName
  birthdate : edited.birthdate = member.birthdate
  pinHash : edited.pinHash = member.pinHash

inductive Write (db : Database) : Database → Prop where
  | called {clock : Clock} {actor : Member} {household : Household}
      {definition : TaskDefinition} {task result : TaskInstance} {ledger : Ledger}
      {call : ServiceCall} (acts : ActsOn db actor household definition task)
      (entitled : Entitled actor task call)
      (effect : CallEffect clock household definition actor task db.ledger call result
        ledger) :
      Write db (storeCall db result ledger)
  | generated {definition : TaskDefinition} {due now : Instant}
      (stored : definition ∈ db.definitions.rows) (live : definition.archivedAt = none)
      (free : ∀ old ∈ db.instances.rows,
        ¬ (old.definitionId = definition.id ∧ old.dueAt = due)) :
      Write db { db with
        instances := db.instances.append (newInstance definition due now) fun _ => rfl }
  | swept {definitionIds : List Uuid} {household : Models.Household} {clock : JobClock}
      (found : db.households.find? household.id = some household)
      (live : ∀ definitionId ∈ definitionIds, LiveIn db household.id definitionId) :
      Write db { db with
        instances := sweepMissed definitionIds household.gracePeriodHours clock.now
          (sweepOverdue definitionIds clock.dueNow db.instances) }
  | adjusted {clock : Clock} {parent target : Member} {delta : Int} {reason : String}
      {ledger : Ledger} (byParent : ParentOf db parent target)
      (recorded : record db.ledger clock
        (manualAdjustmentPosting target.id delta reason parent) = .ok ledger) :
      Write db { db with ledger := ledger }
  | claimed {body : ClaimCreate} {member : Member} (stored : member ∈ db.members.rows) :
      Write db { db with claims := db.claims.append (body.claim member) fun _ => rfl }
  | claimResolved {clock : Clock} {body : ClaimResolveRequest} {parent member : Member}
      {claim resolved : Claim} {ledger : Ledger} (byParent : ParentOf db parent member)
      (stored : claim ∈ db.claims.rows) (own : claim.memberId = member.id)
      (resolution : Wallet.resolveClaim clock parent body claim db.ledger =
        .ok (resolved, ledger)) :
      Write db { db with claims := db.claims.save resolved, ledger := ledger }
  | definitionAdded {request : CreateDefinition} {parent : Member}
      {household : Models.Household}
      (loaded : loadParent db request.memberId = .ok (parent, household))
      (assignee : requireAssignee db household request.body.assigneeId = .ok ()) :
      Write db { db with
        definitions := db.definitions.append (request.body.definition household parent)
          fun _ => rfl }
  | definitionSaved {definition edited : TaskDefinition}
      (stored : definition ∈ db.definitions.rows) (same : SameParties definition edited)
      (archived : definition.archivedAt.isSome → edited.archivedAt.isSome)
      (inRange : DefinitionInRange definition → DefinitionInRange edited) :
      Write db { db with definitions := db.definitions.save edited }
  | seriesAdded {body : SeriesCreate} {household : Models.Household}
      {windowStart windowEnd : Instant}
      (assignee : requireAssignee db household body.assigneeId = .ok ()) :
      Write db (afterSeries body household windowStart windowEnd db)
  | seriesSaved {series edited : Models.Series} (stored : series ∈ db.series.rows)
      (same : SameSeries series edited) (inRange : SeriesInRange series → SeriesInRange edited) :
      Write db { db with series := db.series.save edited }
  | householdSaved {household edited : Models.Household}
      (stored : household ∈ db.households.rows) (sameId : edited.id = household.id)
      (inRange : HouseholdInRange household → HouseholdInRange edited) :
      Write db { db with households := db.households.save edited }
  | familyFounded {next : Database} {displayName subject : String}
      {provider : AuthProvider} {passwordHash : Option String} {response : TokenResponse}
      (founded : foundFamily db displayName provider subject passwordHash =
        .ok (response, next)) (fresh : findSubject? db provider subject = none) :
      Write db next
  | teenAdded {build : Uuid → Member} {household : Models.Household}
      (keyed : ∀ id, (build id).id = id) (stored : household ∈ db.households.rows)
      (home : ∀ id, (build id).householdId = household.id)
      (free : ¬ SubjectTaken db (build db.members.freshKey))
      (teen : ∀ id, (build id).role = .teen) :
      Write db { db with members := db.members.append build keyed }
  | memberSaved {member edited : Member} (stored : member ∈ db.members.rows)
      (sameId : edited.id = member.id) (sameHousehold : edited.householdId = member.householdId)
      (sameRole : edited.role = member.role)
      (subject : SameSubject member edited ∨ ¬ SubjectTakenElsewhere db edited)
      (removal : Removable db member ∨ edited.archivedAt = member.archivedAt)
      (person : SamePerson member edited) :
      Write db { db with members := db.members.save edited }

/-! ## An event is a path of writes -/

section Events

variable {pytz : String → Option TzInfo} {world : World} {db next : Database}

theorem loadParent_role {memberId : Uuid} {parent : Member} {household : Models.Household}
    (loaded : loadParent db memberId = .ok (parent, household)) : parent.role = .parent := by
  obtain ⟨member, _, loaded⟩ := bind_ok loaded
  obtain ⟨_, role, loaded⟩ := bind_ok loaded
  obtain ⟨home, _, loaded⟩ := bind_ok loaded
  cases loaded
  unfold requireParent at role
  split at role
  · rename_i isParent
    exact isParent
  · cases role

theorem loads_parent {request : TaskRequest} {parent : Member}
    {household : Models.Household} {definition : TaskDefinition} {task : TaskInstance}
    (loads : Loads request requireParent anyTask db parent household definition task) :
    parent.role = .parent := by
  have role := loads.roleOk
  unfold requireParent at role
  split at role
  · rename_i isParent
    exact isParent
  · cases role

theorem loads_parentOrOwn {request : TaskRequest} {detail : String} {member : Member}
    {household : Models.Household} {definition : TaskDefinition} {task : TaskInstance}
    (loads : Loads request anyMember (ownTask detail) db member household definition task) :
    member.role = .parent ∨ task.assigneeId = member.id := by
  cases role : member.role with
  | parent => exact Or.inl rfl
  | teen => exact Or.inr (ownTask_teen role loads.ownsOk)

theorem edit?_id {body : HouseholdUpdate} {household edited : Models.Household}
    (applied : body.edit? household = some edited) : edited.id = household.id := by
  simp only [HouseholdUpdate.edit?, Option.bind_eq_bind, Option.bind_eq_some_iff,
    Option.pure_def, Option.some.injEq] at applied
  obtain ⟨name, _, timezone, _, pointsLabel, _, rfl⟩ := applied
  rfl

theorem updateHousehold_saved {request : UpdateHousehold}
    (returned : updateHousehold request db = .ok next) :
    ∃ household edited, household ∈ db.households.rows ∧
      request.body.edit? household = some edited ∧
      next = { db with households := db.households.save edited } := by
  unfold updateHousehold at returned
  obtain ⟨⟨parent, household⟩, loaded, returned⟩ := bind_ok returned
  dsimp only at returned
  split at returned
  · cases returned
  · rename_i edited applied
    cases returned
    exact ⟨household, edited, Table.mem_of_find? (loadParent_ok loaded).2, applied, rfl⟩

theorem createTeenProfile_added {request : CreateTeenProfile}
    (returned : createTeenProfile request db = .ok next) :
    ∃ household ∈ db.households.rows,
      ¬ SubjectTaken db (request.body.teen request.hashPin household db.members.freshKey) ∧
      next = { db with
        members := db.members.append (request.body.teen request.hashPin household)
          fun _ => rfl } := by
  unfold createTeenProfile at returned
  obtain ⟨⟨parent, household⟩, loaded, returned⟩ := bind_ok returned
  dsimp only at returned
  split at returned
  · cases returned
  split at returned
  · cases returned
  split at returned
  · cases returned
  split at returned
  · cases returned
  · rename_i free
    cases returned
    exact ⟨household, Table.mem_of_find? (loadParent_ok loaded).2, free, rfl⟩

theorem updateSeries_saved {request : UpdateSeries}
    (returned : updateSeries request db = .ok next) :
    ∃ series edited, series ∈ db.series.rows ∧ request.body.edit? series = some edited ∧
      next = { db with series := db.series.save edited } := by
  unfold updateSeries at returned
  obtain ⟨⟨parent, household⟩, _, returned⟩ := bind_ok returned
  obtain ⟨series, found, returned⟩ := bind_ok returned
  split at returned
  · cases returned
  · rename_i edited applied
    cases returned
    exact ⟨series, edited, Table.mem_of_find? (getSeriesOr404_ok found), applied, rfl⟩

theorem archiveSeries_saved {request : ArchiveSeries}
    (returned : archiveSeries request db = .ok next) :
    ∃ series ∈ db.series.rows, next = { db with
      series := db.series.save { series with archivedAt := some request.now } } := by
  unfold archiveSeries at returned
  obtain ⟨⟨parent, household⟩, _, returned⟩ := bind_ok returned
  obtain ⟨series, found, returned⟩ := bind_ok returned
  cases returned
  exact ⟨series, Table.mem_of_find? (getSeriesOr404_ok found), rfl⟩

theorem removeMember_saved {request : RemoveMember}
    (returned : removeMember request db = .ok next) :
    ∃ member ∈ db.members.rows, Removable db member ∧ next = { db with
      members := db.members.save { member with archivedAt := some request.now } } := by
  unfold removeMember at returned
  obtain ⟨⟨parent, household⟩, loaded, returned⟩ := bind_ok returned
  obtain ⟨parentFound, householdFound⟩ := loadParent_ok loaded
  dsimp only at returned
  split at returned
  · cases returned
  · rename_i member found
    split at returned
    · cases returned
    · rename_i home
      split at returned
      · cases returned
      · rename_i other
        cases returned
        refine ⟨member, Table.mem_of_find? found, fun role => ?_, rfl⟩
        have own := (not_not.mp home).trans (Table.key_of_find? householdFound)
        exact ⟨parent, ⟨Table.mem_of_find? parentFound, loadParent_role loaded,
          Table.mem_of_find? found, own⟩, fun same => other ⟨role, same.symm⟩⟩

theorem commit_writes {Error : Type} {result : Except Error Database}
    (writes : ∀ next, result = .ok next → ReflTransGen Write world.db next) :
    ReflTransGen Write world.db (commit world result).db := by
  cases result with
  | error raised => exact .refl
  | ok next => exact writes next rfl

theorem decision_entitled {actor : Member} {task : TaskInstance} {call : ServiceCall}
    {approve : Bool} {comment : Option String} (decision : IsDecision approve comment call)
    (role : actor.role = .parent) : Entitled actor task call := by
  rcases decision with rfl | rfl
  · exact role
  · exact role

/-- The rows a loop of upserts inserts, one write each. -/
theorem upsertAll_writes {tz : TzInfo} {now : Instant}
    {targets : List (TaskDefinition × Date)} {generated : Table TaskInstance.id}
    (live : ∀ target ∈ targets,
      target.1 ∈ db.definitions.rows ∧ target.1.archivedAt = none)
    (upserts : upsertAll tz now targets db.instances = .ok generated) :
    ReflTransGen Write db { db with instances := generated } := by
  refine upsertAll_invariant
    (fun table => ReflTransGen Write db { db with instances := table }) ?_ .refl upserts
  intro before after definition targetDate target path upserted
  rcases upsert_cases upserted with same | ⟨due, _, _, free, inserted⟩
  · rw [same]
    exact path
  · obtain ⟨stored, unarchived⟩ := live _ target
    have written : Write { db with instances := before }
        { db with instances := before.append (newInstance definition due now) fun _ => rfl } :=
      .generated stored unarchived free
    rw [inserted]
    exact path.tail written

theorem createDefinition_writes {request : CreateDefinition}
    (returned : createDefinition pytz request db = .ok next) :
    ReflTransGen Write db next := by
  obtain ⟨parent, household, tz, targetDate, instances, created⟩ :=
    createDefinition_ok returned
  have added : Write db { db with
      definitions := db.definitions.append (request.body.definition household parent)
        fun _ => rfl } :=
    .definitionAdded created.loaded created.assignee
  rw [created.committed]
  rcases upsert_cases created.upserted with same | ⟨due, _, _, free, inserted⟩
  · rw [same]
    exact .single added
  · rw [inserted]
    refine (ReflTransGen.single added).tail ?_
    exact .generated (List.mem_append_right _ (List.mem_singleton.mpr rfl)) rfl free

theorem generateForHousehold_writes {clock : JobClock} {householdId : Uuid}
    (success : generateForHousehold pytz clock householdId db = .ok next) :
    ReflTransGen Write db next := by
  obtain ⟨household, tz, generated, run⟩ := generateForHousehold_ok success
  have named := Table.key_of_find? run.found
  have grown : ReflTransGen Write db { db with instances := generated } := by
    refine upsertAll_writes (fun target member => ?_) run.upserts
    obtain ⟨stored, selected⟩ := List.mem_filter.mp (mem_generationTargets.mp member).1
    exact ⟨stored, (of_decide_eq_true selected).2⟩
  rw [run.committed]
  refine grown.tail (.swept ?_ ?_)
  · rw [named]
    exact run.found
  · intro definitionId member
    obtain ⟨definition, live, rfl⟩ := List.mem_map.mp member
    obtain ⟨stored, selected⟩ := List.mem_filter.mp live
    have picked := of_decide_eq_true selected
    exact ⟨definition, stored, rfl, picked.2, picked.1.trans named.symm⟩

/-- A completion is one write: no instance has a window to close. -/
theorem completion_writes {clock : Clock} {note : Option String} {actor : Member}
    {household : Models.Household} {definition : TaskDefinition} {task result : TaskInstance}
    {ledger : Ledger} (settled : SettledRows db)
    (acts : ActsOn db actor household definition task)
    (entitled : Entitled actor task (.complete note))
    (effect : CallEffect clock household definition actor task db.ledger (.complete note)
      result ledger)
    (check : WindowCheck clock result (storeCall db result ledger) next) :
    ReflTransGen Write db next := by
  have unwindowed := effect.sameTask.seriesInstanceId.trans
    (settled.unlinked _ acts.taskStored)
  cases check with
  | unlinked => exact .single (.called acts entitled effect)
  | gone linked | evaluated linked =>
      rw [unwindowed] at linked
      cases linked

theorem batch_writes {transaction : Instant} {memberId : Uuid} {parent : Member}
    {household : Models.Household} {items : List BulkApproveItem}
    {results : List BulkApproveResultItem} {session : OpenSession}
    (loaded : loadParent db memberId = .ok (parent, household))
    (ran : runBatch transaction household parent items ⟨db, true⟩ =
      .ok (results, session)) :
    ReflTransGen Write db session.db := by
  refine batch_keeps (ReflTransGen Write db) ?_ .refl loaded ran
  intro before clock definition task result ledger call approve comment decision acts effect
    path
  exact path.tail (.called acts (decision_entitled decision (loadParent_role loaded)) effect)

theorem foundFamily_writes {displayName subject : String} {provider : AuthProvider}
    {passwordHash : Option String} {response : TokenResponse}
    (founded : foundFamily db displayName provider subject passwordHash =
      .ok (response, next)) (fresh : findSubject? db provider subject = none) :
    ReflTransGen Write db next :=
  .single (.familyFounded founded fresh)

theorem apiStep_writes (settled : SettledRows world.db) (event : ApiEvent) :
    ReflTransGen Write world.db (apiStep pytz world event).db := by
  cases event with
  | createDefinition request =>
      exact commit_writes fun next returned => createDefinition_writes returned
  | updateDefinition request =>
      refine commit_writes fun next returned => ?_
      obtain ⟨_, definition, edited, _, found, applied, rfl⟩ := updateDefinition_edit returned
      have same := edit?_same applied
      refine .single (.definitionSaved (Table.mem_of_find? found)
        ⟨same.id, same.householdId, same.assigneeId, same.createdBy, same.seriesId⟩ ?_
        fun held => held.edited applied)
      rw [same.archivedAt]
      exact id
  | archiveDefinition request =>
      refine commit_writes fun next returned => ?_
      obtain ⟨definition, found, rfl⟩ := archiveDefinition_ok returned
      exact .single (.definitionSaved (Table.mem_of_find? found) ⟨rfl, rfl, rfl, rfl, rfl⟩
        (fun _ => rfl) fun held => ⟨held.title, held.points, held.start, held.ends, held.due⟩)
  | createSeries request =>
      refine commit_writes fun next returned => ?_
      obtain ⟨household, windowStart, windowEnd, assignee, rfl⟩ := createSeries_ok returned
      exact .single (.seriesAdded assignee)
  | updateSeries request =>
      refine commit_writes fun next returned => ?_
      obtain ⟨series, edited, stored, applied, rfl⟩ := updateSeries_saved returned
      exact .single (.seriesSaved stored (edit?_sameSeries applied)
        fun held => held.edited applied)
  | archiveSeries request =>
      refine commit_writes fun next returned => ?_
      obtain ⟨series, stored, rfl⟩ := archiveSeries_saved returned
      exact .single (.seriesSaved stored ⟨rfl, rfl, rfl⟩ fun held => ⟨held.name, held.bonus⟩)
  | completeTask request note =>
      simp only [apiStep]
      rcases completeTask_db request note world with
        same | ⟨member, household, definition, task, result, ledger, loaded, _, effect, check⟩
      · rw [same]
      · have loads := loadForRequest_ok loaded
        exact completion_writes settled (.of_loads loads) (loads_parentOrOwn loads) effect check
  | excuseTask request excuseText =>
      simp only [apiStep]
      rcases excuseTask_db request excuseText world with
        same | ⟨member, household, definition, task, result, ledger, loaded, effect, stored⟩
      · rw [same]
      · have loads := loadForRequest_ok loaded
        have entitled : Entitled member task (.submitExcuse excuseText) :=
          loads_parentOrOwn loads
        rw [stored]
        exact .single (.called (.of_loads loads) entitled effect)
  | reviewTask request approve comment =>
      simp only [apiStep]
      rcases reviewTask_db request approve comment world with
        same | ⟨parent, household, definition, task, call, result, ledger, loaded, _, decision,
          effect, stored⟩
      · rw [same]
      · have loads := loadForRequest_ok loaded
        rw [stored]
        exact .single (.called (.of_loads loads)
          (decision_entitled decision (loads_parent loads)) effect)
  | cancelTask request reason =>
      simp only [apiStep]
      rcases cancelTask_db request reason world with
        same | ⟨parent, household, definition, task, result, ledger, loaded, effect, stored⟩
      · rw [same]
      · have loads := loadForRequest_ok loaded
        have entitled : Entitled parent task (.cancel reason) := loads_parent loads
        rw [stored]
        exact .single (.called (.of_loads loads) entitled effect)
  | bulkApprove request =>
      simp only [apiStep]
      rcases bulkApprove_db request world with
        same | ⟨parent, household, results, session, loaded, _, ran, stored⟩
      · rw [same]
      · rw [stored]
        exact batch_writes loaded ran
  | manualAdjust request =>
      refine commit_writes fun next returned => ?_
      obtain ⟨parent, household, target, ledger, loaded, found, own, recorded, rfl⟩ :=
        manualAdjust_ok returned
      obtain ⟨parentFound, householdFound⟩ := loadParent_ok loaded
      rw [← Table.key_of_find? found] at recorded
      exact .single (.adjusted ⟨Table.mem_of_find? parentFound, loadParent_role loaded,
        Table.mem_of_find? found, own.trans (Table.key_of_find? householdFound)⟩ recorded)
  | submitClaim request =>
      refine commit_writes fun next returned => ?_
      obtain ⟨member, found, rfl⟩ := submitClaim_ok returned
      exact .single (.claimed (Table.mem_of_find? found))
  | resolveClaim request =>
      refine commit_writes fun next returned => ?_
      obtain ⟨parent, household, claim, resolved, ledger, loaded, found, resolution, rfl⟩ :=
        resolveStoredClaim_ok returned
      obtain ⟨parentFound, householdFound⟩ := loadParent_ok loaded
      obtain ⟨claimFound, member, memberFound, own⟩ := findClaim?_ok found
      exact .single (.claimResolved ⟨Table.mem_of_find? parentFound, loadParent_role loaded,
        Table.mem_of_find? memberFound, own.trans (Table.key_of_find? householdFound)⟩
        (Table.mem_of_find? claimFound) (Table.key_of_find? memberFound).symm resolution)
  | updateHousehold request =>
      refine commit_writes fun next returned => ?_
      obtain ⟨household, edited, stored, applied, rfl⟩ := updateHousehold_saved returned
      exact .single (.householdSaved stored (edit?_id applied) fun held => held.edited applied)
  | createTeenProfile request =>
      refine commit_writes fun next returned => ?_
      obtain ⟨household, stored, free, rfl⟩ := createTeenProfile_added returned
      exact .single (.teenAdded (fun _ => rfl) stored (fun _ => rfl) free fun _ => rfl)
  | removeMember request =>
      refine commit_writes fun next returned => ?_
      obtain ⟨member, stored, removable, rfl⟩ := removeMember_saved returned
      exact .single (.memberSaved stored rfl rfl rfl (Or.inl ⟨rfl, rfl⟩) (Or.inl removable)
        ⟨rfl, rfl, rfl⟩)
  | nightly clock householdId =>
      exact commit_writes fun next returned => generateForHousehold_writes returned

end Events

section Server

variable {pytz : String → Option TzInfo} {verifyPassword : String → String → Bool}
variable {server : ServerState}

theorem answer_writes {Error : Type} {redis : Redis} {result : Except Error Database}
    (writes : ∀ next, result = .ok next → ReflTransGen Write server.world.db next) :
    ReflTransGen Write server.world.db (server.answer redis result).world.db := by
  cases result with
  | error raised => exact .refl
  | ok next => exact writes next rfl

theorem signInWithApple_writes {request : AppleSignIn} {db next : Database}
    {response : TokenResponse} (returned : signInWithApple request db = .ok (response, next)) :
    ReflTransGen Write db next := by
  unfold signInWithApple at returned
  split at returned
  · cases returned
  · split at returned
    · rename_i fresh
      exact foundFamily_writes returned fresh
    · split at returned
      · cases returned
      · cases returned
        exact .refl

theorem register_writes {request : Register} {db next : Database} {counters : Counters}
    {response : TokenResponse}
    (returned : (register request db counters).1 = .ok (response, next)) :
    ReflTransGen Write db next := by
  simp only [register] at returned
  split at returned
  · cases returned
  · split at returned
    · cases returned
    · rename_i fresh
      exact foundFamily_writes returned fresh

theorem changePassword_writes {request : ChangePassword} {db next : Database}
    {counters : Counters}
    (returned : (changePassword verifyPassword request db counters).1 = .ok next) :
    ReflTransGen Write db next := by
  unfold changePassword at returned
  split at returned
  · cases returned
  · rename_i member found
    have stored := Table.mem_of_find? (getCurrentMember_ok found)
    split at returned
    · simp only at returned
      split at returned
      · cases returned
      · split at returned
        · cases returned
        · cases returned
          exact .single (.memberSaved stored rfl rfl rfl (Or.inl ⟨rfl, rfl⟩) (Or.inr rfl)
            ⟨rfl, rfl, rfl⟩)
    · cases returned

theorem updatePushToken_writes {request : UpdatePushToken} {db next : Database}
    (returned : updatePushToken request db = .ok next) : ReflTransGen Write db next := by
  unfold updatePushToken at returned
  obtain ⟨member, found, returned⟩ := bind_ok returned
  split at returned
  · cases returned
  · cases returned
    exact .single (.memberSaved (Table.mem_of_find? (getCurrentMember_ok found)) rfl rfl rfl
      (Or.inl ⟨rfl, rfl⟩) (Or.inr rfl) ⟨rfl, rfl, rfl⟩)

theorem serverStep_writes (settled : SettledRows server.world.db) (event : ServerEvent) :
    ReflTransGen Write server.world.db
      (serverStep pytz verifyPassword server event).world.db := by
  cases event with
  | api event => exact apiStep_writes settled event
  | signInWithApple request =>
      refine answer_writes fun next returned => ?_
      obtain ⟨response, signedIn⟩ := map_snd_ok returned
      exact signInWithApple_writes signedIn
  | register request =>
      refine answer_writes fun next returned => ?_
      obtain ⟨response, registered⟩ := map_snd_ok returned
      exact register_writes registered
  | linkAccount request =>
      refine answer_writes fun next returned => ?_
      obtain ⟨response, linked⟩ := map_snd_ok returned
      obtain ⟨_, memberId, _, converted⟩ := linkAccount_ok linked
      obtain ⟨member, found, _, _, _, free, _, rfl⟩ := linkMember_ok converted
      exact .single (.memberSaved (Table.mem_of_find? found) rfl rfl rfl (Or.inr free)
        (Or.inr rfl) ⟨rfl, rfl, rfl⟩)
  | changePassword request =>
      exact answer_writes fun next returned => changePassword_writes returned
  | updatePushToken request =>
      exact answer_writes fun next returned => updatePushToken_writes returned
  | generateLinkCode request => exact .refl
  | verifyMemberPin request => exact .refl
  | login request => exact .refl
  | refresh request => exact .refl

/-- The server, seen through its database, refines the writes. -/
theorem server_refines_writes (pytz : String → Option TzInfo)
    (verifyPassword : String → String → Bool) :
    Refines (serverStep pytz verifyPassword) (fun server => SettledRows server.world.db)
      (fun server => server.world.db) Write where
  kept server event settled :=
    serverEffect_settled (serverStep_effect pytz verifyPassword server event) settled
  matched _ event settled := serverStep_writes settled event

end Server

/-! ## What every write keeps -/

section Kept

variable {db next : Database}

theorem foundFamily_rows {displayName subject : String} {provider : AuthProvider}
    {passwordHash : Option String} {response : TokenResponse}
    (founded : foundFamily db displayName provider subject passwordHash =
      .ok (response, next)) :
    next = { db with households := next.households, members := next.members } ∧
      (∀ household ∈ db.households.rows, household ∈ next.households.rows) ∧
      ∀ member ∈ next.members.rows, member ∈ db.members.rows ∨
        member.role = .parent ∧
          ∃ household ∈ next.households.rows, household.id = member.householdId := by
  unfold foundFamily at founded
  split at founded
  · cases founded
  · cases founded
    refine ⟨rfl, fun household stored => List.mem_append_left _ stored, ?_⟩
    intro member stored
    rcases Table.mem_append.mp stored with old | rfl
    · exact Or.inl old
    · exact Or.inr ⟨rfl, _, List.mem_append_right _ (List.mem_singleton.mpr rfl), rfl⟩

theorem Write.membersStay (write : Write db next) : MembersStay db next := by
  cases write with
  | familyFounded founded => exact (foundFamily_ok founded).2.stay
  | teenAdded => exact .of_grown fun member stored => List.mem_append_left _ stored
  | memberSaved stored sameId sameHousehold sameRole =>
      exact .of_save stored rfl sameId sameHousehold sameRole
  | _ => exact .of_eq rfl

theorem SettledRows.instanceAdded (settled : SettledRows db) {definition : TaskDefinition}
    (stored : definition ∈ db.definitions.rows) (due now : Instant) :
    SettledRows { db with
      instances := db.instances.append (newInstance definition due now) fun _ => rfl } := by
  have assigned := (settled.definitions definition stored).owner_eq rfl List.mem_cons_self
  refine { settled with instances := ?_, unlinked := ?_, posted := ?_ }
  · refine settled.instances.append (fun _ => rfl) ?_
    refine ⟨definition.householdId, owner?_definition stored, ?_⟩
    simpa [taskReferences, newInstance] using assigned
  · intro task member
    rcases List.mem_append.mp member with old | new
    · exact settled.unlinked task old
    · rw [List.mem_singleton.mp new]
      rfl
  · intro entry member
    exact (settled.posted entry member).later fun task old =>
      ⟨task, List.mem_append_left _ old, rfl, rfl⟩

theorem SettledRows.sweptInstances (settled : SettledRows db) (definitionIds : List Uuid)
    (hours : Int) (clock : JobClock) :
    SettledRows { db with
      instances := sweepMissed definitionIds hours clock.now
        (sweepOverdue definitionIds clock.dueNow db.instances) } := by
  refine { settled with instances := ?_, unlinked := ?_, posted := ?_ }
  · intro task member
    obtain ⟨old, oldMember, effect⟩ := of_mem_sweeps member
    simp only [taskReferences, effect.sameTask.definitionId, effect.sameTask.assigneeId]
    exact settled.instances old oldMember
  · intro task member
    obtain ⟨old, oldMember, effect⟩ := of_mem_sweeps member
    exact effect.sameTask.seriesInstanceId.trans (settled.unlinked old oldMember)
  · intro entry member
    refine (settled.posted entry member).later fun task stored => ?_
    have same := (sweepRow_effect definitionIds hours clock task).sameTask
    exact ⟨_, mem_sweeps.mpr ⟨task, stored, rfl⟩, same.id, same.assigneeId⟩

theorem Write.settled (write : Write db next) (settled : SettledRows db) :
    SettledRows next := by
  have stay := membersStay_kept write.membersStay
  cases write with
  | called acts _ effect => exact settled.called acts effect
  | generated stored => exact settled.instanceAdded stored _ _
  | swept => exact settled.sweptInstances _ _ _
  | adjusted byParent recorded =>
      refine settled.recorded recorded (owner?_member byParent.memberStored) ?_
      intro taskId named
      cases named
  | claimed stored =>
      exact { settled with
        claims := settled.claims.append (fun _ => rfl) (atHome_nil (owner?_member stored)) }
  | @claimResolved clock body parent member claim resolved ledger byParent stored own
      resolution =>
      obtain ⟨_, sameMember, _, posts⟩ := resolveClaim_same resolution
      have owned := owner?_member byParent.memberStored
      rw [← own] at owned
      have posted : SettledRows { db with ledger := ledger } := by
        rcases posts with unpaid | paid
        · rw [unpaid]
          exact settled
        · refine settled.recorded paid owned ?_
          intro taskId named
          cases named
      rw [← sameMember] at owned
      exact { posted with claims := posted.claims.save (atHome_nil owned) }
  | @definitionAdded request parent household loaded assignee =>
      have keeps : OwnersKept (owner? db) (owner? { db with
          definitions := db.definitions.append (request.body.definition household parent)
            fun _ => rfl }) :=
        owner?_kept (.refl _) (ownerIn_append fun _ => rfl) (.refl _)
      have assigned := keeps _ _ (owner?_assignee assignee)
      refine ⟨(settled.definitions.later keeps).append (fun _ => rfl) ⟨_, rfl, ?_⟩,
        settled.instances.later keeps, settled.windows.later keeps,
        settled.entries.later keeps, settled.claims.later keeps, settled.unlinked,
        settled.posted⟩
      simpa [assigneeReferences, TaskDefinitionCreate.definition] using assigned
  | definitionSaved stored same => exact settled.definitionSaved stored same
  | seriesAdded => exact settled.seriesCreated
  | seriesSaved stored same => exact settled.seriesSaved stored same
  | householdSaved =>
      exact settled.of_kept (owner?_kept stay (.refl _) (.refl _)) rfl rfl rfl rfl rfl
  | familyFounded founded =>
      rw [(foundFamily_rows founded).1]
      exact settled.of_kept (owner?_kept stay (.refl _) (.refl _)) rfl rfl rfl rfl rfl
  | teenAdded =>
      exact settled.of_kept (owner?_kept stay (.refl _) (.refl _)) rfl rfl rfl rfl rfl
  | memberSaved =>
      exact settled.of_kept (owner?_kept stay (.refl _) (.refl _)) rfl rfl rfl rfl rfl

end Kept

/-! ## Runs from an empty server -/

def emptyServer : ServerState := ⟨{ db := {} }, {}⟩

def served (pytz : String → Option TzInfo) (verifyPassword : String → String → Bool)
    (events : List ServerEvent) : ServerState :=
  runFrom (serverStep pytz verifyPassword) emptyServer events

theorem served_after (pytz : String → Option TzInfo)
    (verifyPassword : String → String → Bool) (before : List ServerEvent)
    (event : ServerEvent) (after : List ServerEvent) :
    served pytz verifyPassword (before ++ event :: after) =
      runFrom (serverStep pytz verifyPassword)
        (serverStep pytz verifyPassword (served pytz verifyPassword before) event) after := by
  unfold served
  rw [runFrom_append]
  rfl

theorem served_snoc (pytz : String → Option TzInfo)
    (verifyPassword : String → String → Bool) (events : List ServerEvent)
    (event : ServerEvent) :
    served pytz verifyPassword (events ++ [event]) =
      serverStep pytz verifyPassword (served pytz verifyPassword events) event :=
  served_after pytz verifyPassword events event []

theorem emptyServer_settled : SettledRows emptyServer.world.db := by
  refine ⟨?_, ?_, ?_, ?_, ?_, ?_, ?_⟩ <;> intro row member <;> cases member

section Runs

variable {pytz : String → Option TzInfo} {verifyPassword : String → String → Bool}

/-- What every write keeps, and the empty database has, every state of every run
has. -/
theorem writes_always (good : Database → Prop) (initial : good {})
    (kept : ∀ db next, SettledRows db → good db → Write db next → good next)
    (events : List ServerEvent) :
    Always (serverStep pytz verifyPassword) (fun server => good server.world.db)
      emptyServer events := by
  have both : ∀ db next, SettledRows db ∧ good db → Write db next →
      SettledRows next ∧ good next := by
    rintro db next ⟨settled, holds⟩ write
    exact ⟨write.settled settled, kept db next settled holds write⟩
  have always := (server_refines_writes pytz verifyPassword).always both emptyServer_settled
    ⟨emptyServer_settled, initial⟩ events
  exact always.imp fun _ held => held.2

theorem served_relates {related : Database → Database → Prop}
    (reflexive : ∀ db, related db db)
    (prolonged : ∀ start db next, related start db → Write db next → related start next)
    (before after : List ServerEvent) :
    related (served pytz verifyPassword before).world.db
      (served pytz verifyPassword (before ++ after)).world.db := by
  have refines := server_refines_writes pytz verifyPassword
  have settled := refines.invariant_run emptyServer_settled before
  have path := refines.run settled after
  unfold served at path ⊢
  rw [runFrom_append]
  exact path_relates reflexive (fun start db next _ early write => prolonged start db next early write)
    (fun _ _ (_ : True) _ => trivial) trivial path

theorem settled_always (events : List ServerEvent) :
    Always (serverStep pytz verifyPassword) (fun server => SettledRows server.world.db)
      emptyServer events :=
  writes_always SettledRows emptyServer_settled
    (fun _ _ settled _ write => write.settled settled) events

end Runs

end KidsChores.Properties
