import KidsChores.Planning
import KidsChores.Properties.ServerWrites

/-!
# Retries

A request under an idempotency key is answered once.  Whatever the server has done since,
the same request under the same key is answered the same for a day, and nothing changes:
what the request loads before its key is looked up cannot have gone.
-/

set_option autoImplicit false

namespace KidsChores.Properties

open KidsChores.Library
open KidsChores.Library.PyDatetime
open KidsChores.Library.Refinement
open KidsChores.Library.Runs
open KidsChores.Lifecycle
open KidsChores.Models
open KidsChores.Planning
open KidsChores.Routers
open KidsChores.Routers.Approvals
open KidsChores.Routers.Tasks
open KidsChores.Server
open KidsChores.Services.Idempotency
open KidsChores.Services.StateMachine
open KidsChores.Session

/-! ## Keyed requests -/

/-- A key of a member, and when a request looks it up. -/
structure Lookup where
  memberId : Uuid
  idempotencyKey : String
  now : Instant

def taskLookup (request : TaskRequest) : Lookup :=
  ⟨request.memberId, request.idempotencyKey, request.clock.now⟩

def lookup? : ServerEvent → Option Lookup
  | .api (.completeTask request _) => some (taskLookup request)
  | .api (.excuseTask request _) => some (taskLookup request)
  | .api (.reviewTask request _ _) => some (taskLookup request)
  | .api (.cancelTask request _) => some (taskLookup request)
  | .api (.bulkApprove request) =>
      some ⟨request.memberId, request.idempotencyKey, request.clock.now⟩
  | _ => none

def keyedAnswer? (world : World) : ServerEvent → Option (Except RequestError Response)
  | .api (.completeTask request note) => some (completeTask request note world).2
  | .api (.excuseTask request excuseText) => some (excuseTask request excuseText world).2
  | .api (.reviewTask request approve comment) =>
      some (reviewTask request approve comment world).2
  | .api (.cancelTask request reason) => some (cancelTask request reason world).2
  | .api (.bulkApprove request) => some (bulkApprove request world).2
  | _ => none

structure SameTarget (first again : TaskRequest) : Prop where
  memberId : again.memberId = first.memberId
  instanceId : again.instanceId = first.instanceId
  idempotencyKey : again.idempotencyKey = first.idempotencyKey

/-- The same endpoint under the same key; the bodies are not compared. -/
inductive Repeats : ServerEvent → ServerEvent → Prop where
  | completeTask {first again : TaskRequest} {note noteAgain : Option String}
      (same : SameTarget first again) :
      Repeats (.api (.completeTask first note)) (.api (.completeTask again noteAgain))
  | excuseTask {first again : TaskRequest} {text textAgain : String}
      (same : SameTarget first again) :
      Repeats (.api (.excuseTask first text)) (.api (.excuseTask again textAgain))
  | reviewTask {first again : TaskRequest} {approve approveAgain : Bool}
      {comment commentAgain : Option String} (same : SameTarget first again) :
      Repeats (.api (.reviewTask first approve comment))
        (.api (.reviewTask again approveAgain commentAgain))
  | cancelTask {first again : TaskRequest} {reason reasonAgain : Option String}
      (same : SameTarget first again) :
      Repeats (.api (.cancelTask first reason)) (.api (.cancelTask again reasonAgain))
  | bulkApprove {first again : BulkApproveRequest}
      (sameMember : again.memberId = first.memberId)
      (sameKey : again.idempotencyKey = first.idempotencyKey) :
      Repeats (.api (.bulkApprove first)) (.api (.bulkApprove again))

/-- The event does not look that key up a day later, or after that. -/
def WithinADay (first : Lookup) (event : ServerEvent) : Prop :=
  ∀ later ∈ lookup? event, later.memberId = first.memberId →
    later.idempotencyKey = first.idempotencyKey →
      later.now < first.now + timedeltaSeconds ttlSeconds

/-! ## What is cached stays cached -/

/-- The response is what the key is answered with until the day is over. -/
def Cached (first : Lookup) (response : Response) (cache : Cache Response) : Prop :=
  ∀ now, now < first.now + timedeltaSeconds ttlSeconds →
    cache.get now first.memberId first.idempotencyKey = some response

section Cached

variable {first later : Lookup} {response : Response} {world : World}

theorem cached_setNx {cache : Cache Response}
    (fresh : cache.get first.now first.memberId first.idempotencyKey = none) :
    Cached first response
      (cache.setNx first.now first.memberId first.idempotencyKey response) :=
  fun _ soon => Cache.get_setNx_same fresh soon

theorem Cached.setNx {cache : Cache Response} {other : Response}
    (cached : Cached first response cache)
    (soon : later.memberId = first.memberId → later.idempotencyKey = first.idempotencyKey →
      later.now < first.now + timedeltaSeconds ttlSeconds) :
    Cached first response
      (cache.setNx later.now later.memberId later.idempotencyKey other) := by
  by_cases same : later.memberId = first.memberId ∧
      later.idempotencyKey = first.idempotencyKey
  · have known := cached later.now (soon same.1 same.2)
    rw [← same.1, ← same.2] at known
    rw [Cache.setNx_cached known]
    exact cached
  · intro now live
    rw [Cache.get_setNx_other same]
    exact cached now live

theorem runHandler_cache (clock : Clock) (member : Member) (idempotencyKey : String)
    (deserialize : Response → Except RequestError Response) (handler : Handler)
    (world : World) :
    let next := (runHandler clock member idempotencyKey deserialize handler world).1
    next.cache = world.cache ∨ ∃ response,
      next.cache = world.cache.setNx clock.now member.id idempotencyKey response := by
  unfold runHandler runIdempotent
  cases world.cache.get clock.now member.id idempotencyKey with
  | some known =>
      dsimp only
      cases deserialize known with
      | error raised => exact Or.inl rfl
      | ok response => exact Or.inl rfl
  | none =>
      dsimp only
      cases handler ⟨world.db, true⟩ with
      | error raised => exact Or.inl rfl
      | ok outcome =>
          refine Or.inr ⟨outcome.1, ?_⟩
          dsimp only
          split
          · rfl
          · rfl

theorem taskMutation_cache (role : Member → Except RequestError Unit)
    (owns : Member → TaskInstance → Except RequestError Unit) (handler : TaskHandler)
    (request : TaskRequest) (world : World) :
    let next := (taskMutation role owns handler request world).1
    next.cache = world.cache ∨ ∃ response, next.cache = world.cache.setNx
      (taskLookup request).now (taskLookup request).memberId
        (taskLookup request).idempotencyKey response := by
  unfold taskMutation
  cases loaded : loadForRequest request role owns world.db with
  | error raised => exact Or.inl rfl
  | ok found =>
      obtain ⟨member, household, definition, task⟩ := found
      have own : member.id = request.memberId :=
        Table.key_of_find? (loadForRequest_ok loaded).memberFound
      have stored := runHandler_cache request.clock member request.idempotencyKey asTask
        (fun session => (handler household definition member task session).map fun result =>
          (.task (.ofTask result.1), result.2)) world
      rw [own] at stored
      exact stored

theorem bulkApprove_cache (request : BulkApproveRequest) (world : World) :
    let next := (bulkApprove request world).1
    next.cache = world.cache ∨ ∃ response, next.cache = world.cache.setNx
      request.clock.now request.memberId request.idempotencyKey response := by
  unfold bulkApprove
  cases loaded : loadParent world.db request.memberId with
  | error raised => exact Or.inl rfl
  | ok found =>
      obtain ⟨parent, household⟩ := found
      have own : parent.id = request.memberId := Table.key_of_find? (loadParent_ok loaded).1
      have stored := runHandler_cache request.clock parent request.idempotencyKey asBulk
        (fun session => (runBatch request.clock.transaction household parent request.items
          session).map fun result => (.bulk result.1, result.2)) world
      rw [own] at stored
      exact stored

theorem commit_cache {Error : Type} (world : World) (result : Except Error Database) :
    (Api.commit world result).cache = world.cache := by
  cases result with
  | error raised => rfl
  | ok db => rfl

variable {pytz : String → Option TzInfo} {verifyPassword : String → String → Bool}

theorem Cached.step {server : ServerState} {event : ServerEvent}
    (cached : Cached first response server.world.cache) (soon : WithinADay first event) :
    Cached first response (serverStep pytz verifyPassword server event).world.cache := by
  have kept : ∀ later ∈ lookup? event, ∀ next : Cache Response,
      next = server.world.cache ∨ (∃ other, next = server.world.cache.setNx later.now
        later.memberId later.idempotencyKey other) → Cached first response next := by
    rintro later looked next (same | ⟨other, stored⟩)
    · rw [same]
      exact cached
    · rw [stored]
      exact cached.setNx (soon later looked)
  cases event with
  | api event =>
      cases event with
      | completeTask | excuseTask | reviewTask | cancelTask =>
          exact kept _ rfl _ (taskMutation_cache _ _ _ _ _)
      | bulkApprove request => exact kept _ rfl _ (bulkApprove_cache request _)
      | _ =>
          simp only [serverStep, Api.apiStep, commit_cache]
          exact cached
  | generateLinkCode | verifyMemberPin | login | refresh => exact cached
  | signInWithApple | register | linkAccount | changePassword | updatePushToken =>
      simp only [serverStep, ServerState.answer, commit_cache]
      exact cached

end Cached

/-! ## What is loaded stays -/

structure SameHousehold (household later : Models.Household) : Prop where
  id : later.id = household.id

structure SameOwner (definition later : TaskDefinition) : Prop where
  id : later.id = definition.id
  householdId : later.householdId = definition.householdId

structure RowsStay (db next : Database) : Prop where
  members : MembersStay db next
  households : db.households.Stays SameHousehold next.households
  definitions : db.definitions.Stays SameOwner next.definitions
  instances : db.instances.Stays SameTask next.instances

section Stay

variable {db middle next : Database}

theorem SameOwner.refl (definition : TaskDefinition) : SameOwner definition definition :=
  ⟨rfl, rfl⟩

theorem RowsStay.refl (db : Database) : RowsStay db db where
  members := .refl db
  households := .refl (fun _ => ⟨rfl⟩) _
  definitions := .refl SameOwner.refl _
  instances := .refl SameTask.refl _

theorem RowsStay.trans (early : RowsStay db middle) (late : RowsStay middle next) :
    RowsStay db next where
  members := early.members.trans late.members
  households := early.households.trans
    (fun _ _ _ first second => ⟨second.id.trans first.id⟩) late.households
  definitions := early.definitions.trans
    (fun _ _ _ first second =>
      ⟨second.id.trans first.id, second.householdId.trans first.householdId⟩)
    late.definitions
  instances := early.instances.trans (fun _ _ _ first second => first.trans second)
    late.instances

theorem Write.rowsStay (write : Write db next) : RowsStay db next := by
  have same := RowsStay.refl db
  have members := write.membersStay
  cases write with
  | called acts _ effect =>
      exact { same with
        instances := .save SameTask.refl acts.taskStored effect.sameTask.id effect.sameTask }
  | generated => exact { same with instances := .append (fun _ => rfl) SameTask.refl }
  | swept =>
      refine { same with instances := fun task stored => ?_ }
      exact ⟨_, mem_sweeps.mpr ⟨task, stored, rfl⟩, (sweepRow_effect _ _ _ task).sameTask⟩
  | definitionAdded => exact { same with definitions := .append (fun _ => rfl) SameOwner.refl }
  | definitionSaved stored parties =>
      exact { same with
        definitions := .save SameOwner.refl stored parties.id
          ⟨parties.id, parties.householdId⟩ }
  | seriesAdded =>
      exact { same with
        definitions := .updateWhere (Series.linkTo_id _) SameOwner.refl
          fun _ => ⟨rfl, rfl⟩ }
  | householdSaved stored sameId =>
      exact { same with households := .save (fun _ => ⟨rfl⟩) stored sameId ⟨sameId⟩ }
  | familyFounded founded =>
      obtain ⟨rest, households, _⟩ := foundFamily_rows founded
      rw [rest] at members ⊢
      exact { same with
        members := members
        households := fun household stored => ⟨household, households household stored, ⟨rfl⟩⟩ }
  | teenAdded | memberSaved => exact { same with members := members }
  | adjusted | claimed | claimResolved | seriesSaved => exact { same with }

end Stay

/-! ## The request again -/

section Again

variable {db next : Database} {world : World} {first again : TaskRequest}
variable {role : Member → Except RequestError Unit}
variable {owns : Member → TaskInstance → Except RequestError Unit}

def LooksAtRole (role : Member → Except RequestError Unit) : Prop :=
  ∀ member later, later.role = member.role → role later = role member

def LooksAtParties (owns : Member → TaskInstance → Except RequestError Unit) : Prop :=
  ∀ member laterMember task laterTask, laterMember.id = member.id →
    laterMember.role = member.role → SameTask task laterTask →
      owns laterMember laterTask = owns member task

theorem anyMember_looks : LooksAtRole anyMember := fun _ _ _ => rfl

theorem requireParent_looks : LooksAtRole requireParent := by
  intro member later same
  unfold requireParent
  rw [same]

theorem anyTask_looks : LooksAtParties anyTask := fun _ _ _ _ _ _ _ => rfl

theorem ownTask_looks (detail : String) : LooksAtParties (ownTask detail) := by
  intro member laterMember task laterTask sameId sameRole same
  unfold ownTask
  rw [sameId, sameRole, same.assigneeId]

theorem getCurrentMember_again {memberId : Uuid} {member : Member}
    (found : db.members.find? memberId = some member) (stay : RowsStay db next) :
    ∃ later, next.members.find? memberId = some later ∧
      later.householdId = member.householdId ∧ later.role = member.role := by
  obtain ⟨later, stored, sameId, sameHousehold, sameRole⟩ :=
    stay.members member (Table.mem_of_find? found)
  refine ⟨later, ?_, sameHousehold, sameRole⟩
  exact Table.find?_eq_some_iff.mpr ⟨stored, sameId.trans (Table.key_of_find? found)⟩

theorem getCurrentHousehold_again {householdId : Uuid} {household : Models.Household}
    (found : db.households.find? householdId = some household) (stay : RowsStay db next) :
    ∃ later, next.households.find? householdId = some later ∧ later.id = household.id := by
  obtain ⟨later, stored, same⟩ := stay.households household (Table.mem_of_find? found)
  refine ⟨later, ?_, same.id⟩
  exact Table.find?_eq_some_iff.mpr ⟨stored, same.id.trans (Table.key_of_find? found)⟩

theorem findInstance?_again {household laterHousehold : Models.Household} {taskId : Uuid}
    {definition : TaskDefinition} {task : TaskInstance}
    (found : findInstance? db household taskId = some (definition, task))
    (stay : RowsStay db next) (sameHousehold : laterHousehold.id = household.id) :
    ∃ laterDefinition laterTask, SameTask task laterTask ∧
      findInstance? next laterHousehold taskId = some (laterDefinition, laterTask) := by
  obtain ⟨taskFound, definitionFound, own⟩ := findInstance?_ok found
  obtain ⟨laterTask, taskStored, sameTask⟩ :=
    stay.instances task (Table.mem_of_find? taskFound)
  obtain ⟨laterDefinition, definitionStored, sameOwner⟩ :=
    stay.definitions definition (Table.mem_of_find? definitionFound)
  have taskAgain : next.instances.find? taskId = some laterTask :=
    Table.find?_eq_some_iff.mpr
      ⟨taskStored, sameTask.id.trans (Table.key_of_find? taskFound)⟩
  have definitionAgain : next.definitions.find? laterTask.definitionId =
      some laterDefinition := by
    rw [sameTask.definitionId]
    exact Table.find?_eq_some_iff.mpr
      ⟨definitionStored, sameOwner.id.trans (Table.key_of_find? definitionFound)⟩
  refine ⟨laterDefinition, laterTask, sameTask, ?_⟩
  simp only [findInstance?, taskAgain, definitionAgain, Option.bind_eq_bind, Option.bind_some]
  rw [if_pos (sameOwner.householdId.trans (own.trans sameHousehold.symm))]

theorem loadForRequest_again (same : SameTarget first again) (stay : RowsStay db next)
    (looksAtRole : LooksAtRole role) (looksAtParties : LooksAtParties owns)
    {member : Member} {household : Models.Household} {definition : TaskDefinition}
    {task : TaskInstance} (loads : Loads first role owns db member household definition task) :
    ∃ laterMember laterHousehold laterDefinition laterTask,
      loadForRequest again role owns next =
        .ok (laterMember, laterHousehold, laterDefinition, laterTask) := by
  obtain ⟨laterMember, memberFound, sameHousehold, sameRole⟩ :=
    getCurrentMember_again loads.memberFound stay
  obtain ⟨laterHousehold, householdFound, sameId⟩ :=
    getCurrentHousehold_again loads.householdFound stay
  obtain ⟨laterDefinition, laterTask, sameTask, taskFound⟩ :=
    findInstance?_again loads.taskFound stay sameId
  have sameMember : laterMember.id = member.id :=
    (Table.key_of_find? memberFound).trans (Table.key_of_find? loads.memberFound).symm
  refine ⟨laterMember, laterHousehold, laterDefinition, laterTask, ?_⟩
  have roleOk := (looksAtRole member laterMember sameRole).trans loads.roleOk
  have ownsOk := (looksAtParties member laterMember task laterTask sameMember sameRole
    sameTask).trans loads.ownsOk
  simp only [loadForRequest, getCurrentMember, getCurrentHousehold, getInstanceOr404,
    same.memberId, same.instanceId, memberFound, sameHousehold, householdFound, taskFound,
    roleOk, ownsOk, bind, Except.bind, pure, Except.pure]

theorem loadParent_again {memberId : Uuid} {parent : Member} {household : Models.Household}
    (loaded : loadParent db memberId = .ok (parent, household)) (stay : RowsStay db next) :
    ∃ laterParent laterHousehold,
      loadParent next memberId = .ok (laterParent, laterHousehold) := by
  obtain ⟨parentFound, householdFound⟩ := loadParent_ok loaded
  obtain ⟨laterParent, laterFound, sameHousehold, sameRole⟩ :=
    getCurrentMember_again parentFound stay
  obtain ⟨laterHousehold, laterHouseholdFound, _⟩ :=
    getCurrentHousehold_again householdFound stay
  have isParent : requireParent laterParent = .ok () := by
    unfold requireParent
    rw [if_pos (sameRole.trans (loadParent_role loaded))]
  refine ⟨laterParent, laterHousehold, ?_⟩
  simp only [loadParent, getCurrentMember, getCurrentHousehold, laterFound, isParent,
    sameHousehold, laterHouseholdFound, bind, Except.bind, pure, Except.pure]

end Again

/-! ## The answers -/

section Answers

variable {db : Database} {world : World} {first again : TaskRequest} {response : Response}
variable {role : Member → Except RequestError Unit}
variable {owns : Member → TaskInstance → Except RequestError Unit}

/-- The first answer under a key is what the handler returned, and it is stored. -/
theorem runHandler_stores {clock : Clock} {member : Member} {idempotencyKey : String}
    {deserialize : Response → Except RequestError Response} {handler : Handler}
    (fresh : world.cache.get clock.now member.id idempotencyKey = none)
    (answered : (runHandler clock member idempotencyKey deserialize handler world).2 =
      .ok response) :
    (∃ session, handler ⟨world.db, true⟩ = .ok (response, session)) ∧
      (runHandler clock member idempotencyKey deserialize handler world).1.cache =
        world.cache.setNx clock.now member.id idempotencyKey response := by
  rw [runHandler_fresh fresh] at answered ⊢
  cases ran : handler ⟨world.db, true⟩ with
  | error raised =>
      rw [ran] at answered
      cases answered
  | ok outcome =>
      obtain ⟨returned, session⟩ := outcome
      rw [ran] at answered
      dsimp only at answered ⊢
      split at answered
      · rename_i flushable
        cases answered
        rw [if_pos flushable]
        exact ⟨⟨session, rfl⟩, rfl⟩
      · cases answered

theorem runHandler_replays {clock : Clock} {member : Member} {idempotencyKey : String}
    {deserialize : Response → Except RequestError Response} {handler : Handler}
    (known : world.cache.get clock.now member.id idempotencyKey = some response)
    (read : deserialize response = .ok response) :
    runHandler clock member idempotencyKey deserialize handler world =
      (world, .ok response) := by
  unfold runHandler runIdempotent
  rw [known]
  dsimp only
  rw [read]
  rfl

theorem taskMutation_stores {handler : TaskHandler}
    (fresh : world.cache.get (taskLookup first).now (taskLookup first).memberId
      (taskLookup first).idempotencyKey = none)
    (answered : (taskMutation role owns handler first world).2 = .ok response) :
    Cached (taskLookup first) response (taskMutation role owns handler first world).1.cache ∧
      (∃ shown, response = .task shown) ∧
      ∃ member household definition task,
        Loads first role owns world.db member household definition task := by
  unfold taskMutation at answered ⊢
  cases loaded : loadForRequest first role owns world.db with
  | error raised =>
      rw [loaded] at answered
      cases answered
  | ok found =>
      obtain ⟨member, household, definition, task⟩ := found
      rw [loaded] at answered
      have loads := loadForRequest_ok loaded
      have own : member.id = first.memberId := Table.key_of_find? loads.memberFound
      have unused : world.cache.get first.clock.now member.id first.idempotencyKey = none := by
        rw [own]
        exact fresh
      obtain ⟨⟨session, ran⟩, stored⟩ := runHandler_stores unused answered
      refine ⟨?_, ?_, member, household, definition, task, loads⟩
      · dsimp only
        rw [stored, own]
        exact cached_setNx fresh
      · cases handled : handler household definition member task ⟨world.db, true⟩ with
        | error raised =>
            rw [handled] at ran
            cases ran
        | ok outcome =>
            rw [handled] at ran
            cases ran
            exact ⟨_, rfl⟩

theorem taskMutation_again {handler : TaskHandler} {shown : TaskInstanceResponse}
    (same : SameTarget first again) (looksAtRole : LooksAtRole role)
    (looksAtParties : LooksAtParties owns) (stay : RowsStay db world.db)
    (loaded : ∃ member household definition task,
      Loads first role owns db member household definition task)
    (cached : Cached (taskLookup first) (.task shown) world.cache)
    (soon : again.clock.now < first.clock.now + timedeltaSeconds ttlSeconds) :
    taskMutation role owns handler again world = (world, .ok (.task shown)) := by
  obtain ⟨member, household, definition, task, loads⟩ := loaded
  obtain ⟨laterMember, laterHousehold, laterDefinition, laterTask, loadedAgain⟩ :=
    loadForRequest_again same stay looksAtRole looksAtParties loads
  have own : laterMember.id = first.memberId :=
    (Table.key_of_find? (loadForRequest_ok loadedAgain).memberFound).trans same.memberId
  have known : world.cache.get again.clock.now laterMember.id again.idempotencyKey =
      some (.task shown) := by
    rw [own, same.idempotencyKey]
    exact cached _ soon
  unfold taskMutation
  rw [loadedAgain]
  exact runHandler_replays known rfl

theorem bulkApprove_stores {request : BulkApproveRequest}
    (fresh : world.cache.get request.clock.now request.memberId request.idempotencyKey = none)
    (answered : (bulkApprove request world).2 = .ok response) :
    Cached ⟨request.memberId, request.idempotencyKey, request.clock.now⟩ response
        (bulkApprove request world).1.cache ∧
      (∃ results, response = .bulk results) ∧
      ∃ parent household, loadParent world.db request.memberId = .ok (parent, household) := by
  unfold bulkApprove at answered ⊢
  cases loaded : loadParent world.db request.memberId with
  | error raised =>
      rw [loaded] at answered
      cases answered
  | ok found =>
      obtain ⟨parent, household⟩ := found
      rw [loaded] at answered
      have own : parent.id = request.memberId := Table.key_of_find? (loadParent_ok loaded).1
      have unused : world.cache.get request.clock.now parent.id request.idempotencyKey =
          none := by
        rw [own]
        exact fresh
      obtain ⟨⟨session, ran⟩, stored⟩ := runHandler_stores unused answered
      refine ⟨?_, ?_, parent, household, rfl⟩
      · dsimp only
        rw [stored, own]
        exact @cached_setNx ⟨request.memberId, request.idempotencyKey, request.clock.now⟩ _ _
          fresh
      · cases handled : runBatch request.clock.transaction household parent request.items
            ⟨world.db, true⟩ with
        | error raised =>
            rw [handled] at ran
            cases ran
        | ok outcome =>
            rw [handled] at ran
            cases ran
            exact ⟨_, rfl⟩

theorem bulkApprove_again {request later : BulkApproveRequest}
    {results : List BulkApproveResultItem} (sameMember : later.memberId = request.memberId)
    (sameKey : later.idempotencyKey = request.idempotencyKey) (stay : RowsStay db world.db)
    (loaded : ∃ parent household, loadParent db request.memberId = .ok (parent, household))
    (cached : Cached ⟨request.memberId, request.idempotencyKey, request.clock.now⟩
      (.bulk results) world.cache)
    (soon : later.clock.now < request.clock.now + timedeltaSeconds ttlSeconds) :
    bulkApprove later world = (world, .ok (.bulk results)) := by
  obtain ⟨parent, household, loaded⟩ := loaded
  obtain ⟨laterParent, laterHousehold, loadedAgain⟩ := loadParent_again loaded stay
  rw [← sameMember] at loadedAgain
  have own : laterParent.id = request.memberId :=
    (Table.key_of_find? (loadParent_ok loadedAgain).1).trans sameMember
  have known : world.cache.get later.clock.now laterParent.id later.idempotencyKey =
      some (.bulk results) := by
    rw [own, sameKey]
    exact cached _ soon
  unfold bulkApprove
  rw [loadedAgain]
  exact runHandler_replays known rfl

end Answers

/-! ## Every run -/

section Runs

variable {pytz : String → Option TzInfo} {verifyPassword : String → String → Bool}
variable {server later : ServerState} {first again : ServerEvent} {key : Lookup}
  {response : Response}

theorem answered_cached (looked : lookup? first = some key)
    (fresh : server.world.cache.get key.now key.memberId key.idempotencyKey = none)
    (answered : keyedAnswer? server.world first = some (.ok response)) :
    Cached key response (serverStep pytz verifyPassword server first).world.cache := by
  cases first with
  | api event =>
      cases event with
      | completeTask | excuseTask | reviewTask | cancelTask =>
          cases looked
          exact (taskMutation_stores fresh (Option.some.inj answered)).1
      | bulkApprove =>
          cases looked
          exact (bulkApprove_stores fresh (Option.some.inj answered)).1
      | _ => cases looked
  | _ => cases looked

/-- The request again, in a state that has the rows it loaded and its response. -/
theorem repeated_answered (repeats : Repeats first again) (looked : lookup? first = some key)
    (fresh : server.world.cache.get key.now key.memberId key.idempotencyKey = none)
    (answered : keyedAnswer? server.world first = some (.ok response))
    (stay : RowsStay server.world.db later.world.db)
    (cached : Cached key response later.world.cache) (soon : WithinADay key again) :
    keyedAnswer? later.world again = some (.ok response) ∧
      serverStep pytz verifyPassword later again = later := by
  have unchanged : ∀ {outcome : World × Except RequestError Response},
      outcome = (later.world, .ok response) →
      some outcome.2 = some (Except.ok response : Except RequestError Response) ∧
        { later with world := outcome.1 } = later := by
    rintro outcome rfl
    exact ⟨rfl, rfl⟩
  cases repeats with
  | completeTask same | excuseTask same =>
      cases looked
      obtain ⟨_, ⟨shown, rfl⟩, loaded⟩ :=
        taskMutation_stores fresh (Option.some.inj answered)
      exact unchanged (taskMutation_again same anyMember_looks (ownTask_looks _) stay loaded
        cached (soon _ rfl same.memberId same.idempotencyKey))
  | reviewTask same | cancelTask same =>
      cases looked
      obtain ⟨_, ⟨shown, rfl⟩, loaded⟩ :=
        taskMutation_stores fresh (Option.some.inj answered)
      exact unchanged (taskMutation_again same requireParent_looks anyTask_looks stay loaded
        cached (soon _ rfl same.memberId same.idempotencyKey))
  | bulkApprove sameMember sameKey =>
      cases looked
      obtain ⟨_, ⟨results, rfl⟩, loaded⟩ :=
        bulkApprove_stores fresh (Option.some.inj answered)
      exact unchanged (bulkApprove_again sameMember sameKey stay loaded cached
        (soon _ rfl sameMember sameKey))

variable (pytz verifyPassword)

theorem served_rowsStay (before after : List ServerEvent) :
    RowsStay (served pytz verifyPassword before).world.db
      (served pytz verifyPassword (before ++ after)).world.db :=
  served_relates RowsStay.refl (fun _ _ _ early write => early.trans write.rowsStay) before
    after

/-- A request that was answered under an unused key is answered the same again, and changes
nothing, as long as that key is looked up within a day of the first time. -/
theorem retries_answered (before between : List ServerEvent) (first again : ServerEvent)
    (key : Lookup) (response : Response) (looked : lookup? first = some key)
    (fresh : (served pytz verifyPassword before).world.cache.get key.now key.memberId
      key.idempotencyKey = none)
    (answered : keyedAnswer? (served pytz verifyPassword before).world first =
      some (.ok response))
    (repeats : Repeats first again)
    (soon : ∀ event ∈ between ++ [again], WithinADay key event) :
    let server := served pytz verifyPassword (before ++ first :: between)
    keyedAnswer? server.world again = some (.ok response) ∧
      serverStep pytz verifyPassword server again = server := by
  intro server
  have stay := served_rowsStay pytz verifyPassword before (first :: between)
  have start : Cached key response
      (serverStep pytz verifyPassword (served pytz verifyPassword before) first).world.cache :=
    answered_cached looked fresh answered
  have split : server = runFrom (serverStep pytz verifyPassword)
      (serverStep pytz verifyPassword (served pytz verifyPassword before) first) between :=
    served_after pytz verifyPassword before first between
  have meets : ∀ start, EachMeets (serverStep pytz verifyPassword)
      (fun _ event => WithinADay key event) start between :=
    eachMeets_of_forall fun _ event member => soon event (List.mem_append_left _ member)
  have cached : Cached key response server.world.cache := by
    rw [split]
    exact (guarded_always (fun server => Cached key response server.world.cache)
      (fun _ _ cached within => cached.step within) start (meets _)).at_end
  exact repeated_answered repeats looked fresh answered stay cached
    (soon again (List.mem_append_right _ (List.mem_singleton.mpr rfl)))

end Runs

/-! ## A completion sent twice -/

def registration : ServerEvent :=
  .register ⟨nightOf 1, "198.51.100.7", "parent@example.org", "Parent", "hash"⟩

def registeredParent : Member where
  id := 1
  householdId := 1
  role := .parent
  displayName := "Parent"
  authSubject := "parent@example.org"
  passwordHash := some "hash"

def registeredFamily : Models.Household := { id := 1, name := "Parent's Family" }

def teenRequest : Routers.Household.CreateTeenProfile where
  now := nightOf 1
  memberId := 1
  hashPin := id
  body :=
    { displayName := "Teen"
      birthdate := "2010-01-01"
      pin := some "2468"
      nameLength := by decide
      birthPattern := by decide
      pinDigits := by decide }

/-- The parent adds a teen and defines a daily chore for them. -/
def choreSetup : List ServerEvent :=
  [.api (.createTeenProfile teenRequest),
    .api (.createDefinition ⟨nightOf 1, nightOf 1, 1, dailyDishes⟩)]

def firstChore : List ServerEvent := registration :: choreSetup

def sendDone (hour : Int) : ServerEvent :=
  let now := nightOf 1 + timedeltaHours hour
  .api (.completeTask ⟨⟨now, now⟩, 2, 1, "done"⟩ none)

/-- The chore of the first day, done before it was due. -/
def doneResponse : TaskInstanceResponse where
  id := 1
  definitionId := 1
  assigneeId := 2
  dueAt := nightOf 1 + timedeltaSeconds 71700
  pointValue := 10
  status := .complete
  completedAt := some (nightOf 1 + timedeltaHours 1)
  completionNote := none
  excuseText := none
  reviewComment := none
  seriesInstanceId := none

/-- The nightly run comes in between. -/
theorem retries_answered_sample :
    let server := served utcOnly (fun _ _ => false)
      (firstChore ++ sendDone 1 :: [.api (.nightly ⟨nightOf 2, nightOf 2, nightOf 2⟩ 1)])
    keyedAnswer? server.world (sendDone 24) = some (.ok (.task doneResponse)) ∧
      serverStep utcOnly (fun _ _ => false) server (sendDone 24) = server := by
  refine retries_answered utcOnly (fun _ _ => false) firstChore _ (sendDone 1) (sendDone 24)
    ⟨2, "done", nightOf 1 + timedeltaHours 1⟩ (.task doneResponse) rfl (by decide +kernel)
    (by decide +kernel) (.completeTask ⟨rfl, rfl, rfl⟩) ?_
  intro event member
  rcases List.mem_pair.mp member with rfl | rfl
  · rintro later ⟨⟩
  · rintro later ⟨⟩ _ _
    decide

end KidsChores.Properties
