import KidsChores.Properties.HouseholdRequests

/-!
# What belongs to a household

Its rows and goals, and what Redis holds of its members.  A request is served alike in two
states when it gets the same reply and does the same to what belongs to the household,
and to nothing of another's.
-/

set_option autoImplicit false

namespace KidsChores.Properties

open KidsChores.Api
open KidsChores.Library
open KidsChores.Library.Expiring
open KidsChores.Library.PyDatetime
open KidsChores.Library.Slices
open KidsChores.Library.Tenancy
open KidsChores.Models
open KidsChores.Routers
open KidsChores.Routers.Approvals
open KidsChores.Routers.SavingsGoals
open KidsChores.Routers.Tasks
open KidsChores.Server
open KidsChores.Services.Idempotency
open KidsChores.Services.Linking
open KidsChores.Services.RateLimit
open KidsChores.Site

/-- The two counters that have a member's id in their key. -/
structure Attempts where
  verifyPin : Option (Cell Nat Instant)
  changePassword : Option (Cell Nat Instant)
  deriving DecidableEq

def attemptsOf (counters : Counters) (memberId : Uuid) : Attempts where
  verifyPin := counters ("verify-pin:member:" ++ toString memberId)
  changePassword := counters ("change-password:member:" ++ toString memberId)

/-- What Redis holds of a member: the responses stored for their requests, their counters,
their link code and the codes that lead to them. -/
@[ext] structure MemberKeys where
  responses : Instant → String → Option Response
  attempts : Attempts
  linkCode : Option (Cell String Instant)
  codes : String → Option Instant

def codesTo (codeKeys : Store String Uuid Instant) (memberId : Uuid) (code : String) :
    Option Instant :=
  ((codeKeys code).filter fun cell => cell.value = memberId).map Cell.expiresAt

def keysOf (server : ServerState) (memberId : Uuid) : MemberKeys where
  responses now idempotencyKey := server.world.cache.get now memberId idempotencyKey
  attempts := attemptsOf server.redis.counters memberId
  linkCode := server.redis.links.memberKeys memberId
  codes := codesTo server.redis.links.codeKeys memberId

section Keys

variable (server : ServerState) (memberId : Uuid)

theorem keysOf_world (world : World) :
    keysOf { server with world := world } memberId =
      { keysOf server memberId with
        responses := fun now idempotencyKey =>
          world.cache.get now memberId idempotencyKey } := rfl

theorem keysOf_counters (counters : Counters) :
    keysOf { server with redis := { server.redis with counters := counters } } memberId =
      { keysOf server memberId with attempts := attemptsOf counters memberId } := rfl

theorem keysOf_links (links : LinkKeys) :
    keysOf { server with redis := { server.redis with links := links } } memberId =
      { keysOf server memberId with
        linkCode := links.memberKeys memberId
        codes := codesTo links.codeKeys memberId } := rfl

end Keys

/-- The states agree on everything that belongs to the household. -/
structure Agree (home : Uuid) (site other : SiteState) : Prop where
  holdings : holdings home site.db = holdings home other.db
  goals : goalsOf home site.db site.goals = goalsOf home other.db other.goals
  keys : ∀ memberId, owner? site.db (.member memberId) = some home →
    keysOf site.server memberId = keysOf other.server memberId

structure Untouched (away : Uuid) (site next : SiteState) : Prop where
  holdings : Properties.holdings away next.db = Properties.holdings away site.db
  goals : goalsOf away next.db next.goals = goalsOf away site.db site.goals
  attempts : ∀ memberId, owner? site.db (.member memberId) = some away →
    attemptsOf next.server.redis.counters memberId =
      attemptsOf site.server.redis.counters memberId

/-- The request changes nothing of another household, and neither its reply nor what it
leaves of its own household tells the two states apart. -/
structure NonInterfering (pytz : String → Option TzInfo) (home : Uuid)
    (site other : SiteState) (request : HouseholdRequest) : Prop where
  untouched : ∀ away, away ≠ home → Untouched away site (respond pytz site request).1
  reply : (respond pytz site request).2 = (respond pytz other request).2
  agree : Agree home (respond pytz site request).1 (respond pytz other request).1

/-! ## Members before and after a request -/

section Members

variable {pytz : String → Option TzInfo} {db next : Database}

theorem apiEffect_sameMembers {event : ApiEvent} (effect : ApiEffect pytz db event next)
    (joins : ∀ request, event ≠ .createTeenProfile request) : MembersStay next db := by
  cases effect with
  | definitionCreated created =>
      rw [created.committed]
      exact .of_eq rfl
  | completed acts effect check =>
      cases check with
      | unlinked => exact .of_eq rfl
      | gone => exact .of_eq rfl
      | evaluated _ _ evaluation => cases evaluation <;> exact .of_eq rfl
  | batched loaded ran =>
      exact batch_keeps (fun after => MembersStay after db) (fun _ _ _ kept => kept)
        (.refl db) loaded ran
  | teenAdded => exact absurd rfl (joins _)
  | memberRemoved stored =>
      intro member later
      rcases Table.mem_save.mp later with ⟨rfl, old, oldStored, hit⟩ | ⟨old, _⟩
      · exact ⟨_, stored, rfl, rfl, rfl⟩
      · exact ⟨member, old, rfl, rfl, rfl⟩
  | generated run =>
      rw [run.committed]
      exact .of_eq rfl
  | _ => exact .of_eq rfl

variable (pytz) (site : SiteState)

theorem respond_membersStay (request : HouseholdRequest) :
    MembersStay site.db (respond pytz site request).1.db := by
  unfold SiteState.db
  rw [respond_server pytz fun _ _ => false]
  cases request.event? with
  | none => exact .refl _
  | some event =>
      rw [Option.map_some, Option.getD_some]
      exact serverStep_membersStay pytz (fun _ _ => false) site.server event

theorem serverStep_sameMembers {server : ServerState} {event : ServerEvent}
    {verifyPassword : String → String → Bool}
    (ofHousehold : ∃ request : HouseholdRequest, request.event? = some event ∧
      ∀ added, request ≠ .createTeenProfile added) :
    MembersStay (serverStep pytz verifyPassword server event).world.db server.world.db := by
  obtain ⟨request, asked, joins⟩ := ofHousehold
  cases event with
  | api event =>
      refine apiEffect_sameMembers (apiStep_effect event) fun added => ?_
      rintro rfl
      cases request <;> cases asked
      exact joins _ rfl
  | generateLinkCode request => exact .refl _
  | verifyMemberPin request => exact .refl _
  | _ => cases request <;> cases asked

theorem respond_sameMembers {request : HouseholdRequest}
    (joins : ∀ added, request ≠ .createTeenProfile added) :
    MembersStay (respond pytz site request).1.db site.db := by
  unfold SiteState.db
  rw [respond_server pytz fun _ _ => false]
  cases asked : request.event? with
  | none => exact .refl _
  | some event =>
      rw [Option.map_some, Option.getD_some]
      exact serverStep_sameMembers pytz ⟨request, asked, joins⟩

end Members

/-! ## A request in two states -/

/-- What is left of the household is the same in both, and nothing of another's moved. -/
structure Served (home : Uuid) (site other next otherNext : SiteState) : Prop where
  confined : Confined home site.db next.db otherNext.db
  keys : ∀ memberId, owner? site.db (.member memberId) = some home →
    keysOf next.server memberId = keysOf otherNext.server memberId
  attempts : ∀ away memberId, away ≠ home →
    owner? site.db (.member memberId) = some away →
      attemptsOf next.server.redis.counters memberId =
        attemptsOf site.server.redis.counters memberId
  goals : next.goals = site.goals
  otherGoals : otherNext.goals = other.goals

section Served

variable {home : Uuid} {site other next otherNext : SiteState}

theorem goals_kept {db later : Database} {goals : Goals}
    (settled : AllHome (owner? db) saverReferences goals.rows) (stay : MembersStay db later)
    (home : Uuid) : goalsOf home later goals = goalsOf home db goals := by
  refine slice_kept (fun goal member => ?_) fun goal =>
    membersStay_kept stay goal.memberId
  obtain ⟨owner, owned, _⟩ := settled goal member
  exact ⟨owner, owned⟩

theorem Served.untouched (served : Served home site other next otherNext)
    (settled : SettledSite site) (stay : MembersStay site.db next.db) {away : Uuid}
    (foreign : away ≠ home) : Untouched away site next := by
  refine ⟨served.confined.apart away foreign, ?_, fun memberId owned =>
    served.attempts away memberId foreign owned⟩
  rw [served.goals, goals_kept settled.goals stay]

theorem Served.agree (served : Served home site other next otherNext)
    (agree : Agree home site other) (settled : SettledSite site)
    (otherSettled : SettledSite other) (stay : MembersStay site.db next.db)
    (otherStay : MembersStay other.db otherNext.db)
    (joined : ∀ memberId, owner? next.db (.member memberId) = some home →
      owner? site.db (.member memberId) = some home ∨
        keysOf next.server memberId = keysOf otherNext.server memberId) :
    Agree home next otherNext := by
  refine ⟨served.confined.same, ?_, fun memberId owned => ?_⟩
  · rw [served.goals, served.otherGoals, goals_kept settled.goals stay,
      goals_kept otherSettled.goals otherStay, agree.goals]
  · exact (joined memberId owned).elim (served.keys memberId) id

theorem Served.nonInterfering {pytz : String → Option TzInfo} {request : HouseholdRequest}
    (served : Served home site other (respond pytz site request).1
      (respond pytz other request).1)
    (reply : (respond pytz site request).2 = (respond pytz other request).2)
    (agree : Agree home site other) (settled : SettledSite site)
    (otherSettled : SettledSite other)
    (joins : ∀ added, request ≠ .createTeenProfile added) :
    NonInterfering pytz home site other request := by
  have stay := respond_membersStay pytz site request
  have back := membersStay_kept (respond_sameMembers pytz site joins)
  exact ⟨fun away foreign => served.untouched settled stay foreign, reply,
    served.agree agree settled otherSettled stay (respond_membersStay pytz other request)
      fun memberId owned => Or.inl (back memberId home owned)⟩

/-! ### Reads -/

theorem served_read (agree : Agree home site other) : Served home site other site other :=
  ⟨.refl agree.holdings, agree.keys, fun _ _ _ _ => rfl, rfl, rfl⟩

/-! ### One transaction -/

/-- The transactions do the same, or their errors get the same reply. -/
def SameCommit (home : Uuid) (db : Database) (result otherResult : Except RequestError Database) :
    Prop :=
  Alike (Confined home db) (result.mapError failureOf) (otherResult.mapError failureOf)

theorem SameCommit.refused {db : Database} {raised otherRaised : RequestError}
    (same : failureOf raised = failureOf otherRaised) :
    SameCommit home db (.error raised) (.error otherRaised) := by
  have failures : Alike (Confined home db)
      (.error (failureOf raised) : Except Reply Database) (.error (failureOf otherRaised)) := by
    rw [same]
    exact .raised _
  exact failures

theorem replyOf_bind (statusCode : Nat) (result : Except RequestError Database)
    (body : Except RequestError Body) :
    replyOf statusCode (result.bind fun _ => body) =
      match result.mapError failureOf with
      | .error failure => failure
      | .ok _ => replyOf statusCode body := by
  cases result with
  | error raised => rfl
  | ok next => rfl

theorem keysOf_write (site : SiteState) (statusCode : Nat)
    (result : Except RequestError Database) (body : Except RequestError Body)
    (memberId : Uuid) :
    keysOf (site.write statusCode result body).1.server memberId =
      keysOf site.server memberId := by
  cases result <;> rfl

theorem SameCommit.reply {result otherResult : Except RequestError Database}
    {body otherBody : Except RequestError Body} {statusCode : Nat}
    (outcome : SameCommit home site.db result otherResult)
    (bodies : ∀ next, result = .ok next → body = otherBody) :
    (site.write statusCode result body).2 = (other.write statusCode otherResult otherBody).2 := by
  simp only [SiteState.write, replyOf_bind]
  unfold SameCommit at outcome
  generalize taken : result.mapError failureOf = first at outcome ⊢
  generalize otherResult.mapError failureOf = second at outcome ⊢
  cases outcome with
  | raised failure => rfl
  | returned _ =>
      dsimp only
      rw [bodies _ (mapError_ok taken)]

theorem SameCommit.served (agree : Agree home site other)
    {result otherResult : Except RequestError Database}
    (outcome : SameCommit home site.db result otherResult) (statusCode : Nat)
    (body otherBody : Except RequestError Body) :
    Served home site other (site.write statusCode result body).1
      (other.write statusCode otherResult otherBody).1 := by
  refine ⟨?_, fun memberId owned => ?_, fun _ _ _ _ => rfl, rfl, rfl⟩
  · cases result with
    | error raised =>
        cases otherResult with
        | error otherRaised => exact .refl agree.holdings
        | ok otherNext => cases outcome
    | ok next =>
        cases otherResult with
        | error otherRaised => cases outcome
        | ok otherNext =>
            cases outcome with
            | returned confined => exact confined
  · rw [keysOf_write, keysOf_write, agree.keys memberId owned]

end Served

/-! ### Under an idempotency key -/

/-- Two runs that left the same of the household and stored the same response of the
member, or none. -/
structure SameRun (home memberId : Uuid) (world other next otherNext : World) : Prop where
  confined : Confined home world.db next.db otherNext.db
  caches : (next.cache = world.cache ∧ otherNext.cache = other.cache) ∨
    ∃ now idempotencyKey response,
      next.cache = world.cache.setNx now memberId idempotencyKey response ∧
      otherNext.cache = other.cache.setNx now memberId idempotencyKey response

section Runs

variable {home : Uuid} {world other : World}

theorem SameRun.stayed (same : holdings home world.db = holdings home other.db)
    (memberId : Uuid) : SameRun home memberId world other world other :=
  ⟨.refl same, Or.inl ⟨rfl, rfl⟩⟩

theorem runHandler_alike {clock : Clock} {member : Member} {idempotencyKey : String}
    {deserialize : Response → Except RequestError Response} {handler : Handler}
    (same : holdings home world.db = holdings home other.db)
    (cached : world.cache.get clock.now member.id idempotencyKey =
      other.cache.get clock.now member.id idempotencyKey)
    (handlers : Alike (SameResult home world.db) (handler ⟨world.db, true⟩)
      (handler ⟨other.db, true⟩)) :
    (runHandler clock member idempotencyKey deserialize handler world).2 =
        (runHandler clock member idempotencyKey deserialize handler other).2 ∧
      SameRun home member.id world other
        (runHandler clock member idempotencyKey deserialize handler world).1
        (runHandler clock member idempotencyKey deserialize handler other).1 := by
  unfold runHandler runIdempotent
  rw [← cached]
  cases world.cache.get clock.now member.id idempotencyKey with
  | some stored =>
      dsimp only
      cases deserialize stored with
      | error raised => exact ⟨rfl, .stayed same _⟩
      | ok response => exact ⟨rfl, .stayed same _⟩
  | none =>
      generalize handler ⟨world.db, true⟩ = first at handlers ⊢
      generalize handler ⟨other.db, true⟩ = second at handlers ⊢
      cases handlers with
      | raised error => exact ⟨rfl, .stayed same _⟩
      | returned result =>
          rename_i outcome otherOutcome
          obtain ⟨response, session⟩ := outcome
          obtain ⟨_, otherSession⟩ := otherOutcome
          obtain ⟨rfl, sessions⟩ := result
          have flushable : otherSession.flushable = session.flushable := sessions.flushable.symm
          dsimp only
          rw [flushable]
          split
          · exact ⟨rfl, sessions.confined, Or.inr ⟨_, _, _, rfl, rfl⟩⟩
          · exact ⟨rfl, .refl same, Or.inr ⟨_, _, _, rfl, rfl⟩⟩

theorem loadForRequest_same {request : TaskRequest}
    {role : Member → Except RequestError Unit}
    {owns : Member → TaskInstance → Except RequestError Unit} {db otherDb : Database}
    (asks : AsksFrom home db request.memberId) (same : holdings home db = holdings home otherDb) :
    loadForRequest request role owns db = loadForRequest request role owns otherDb := by
  unfold loadForRequest
  rw [← getCurrentMember_same asks same]
  refine bind_same fun member found => bind_same fun _ _ => ?_
  obtain ⟨caller, callerFound, own⟩ := asks
  have one : member = caller :=
    Option.some.inj ((getCurrentMember_ok found).symm.trans callerFound)
  have own : member.householdId = home := one ▸ own
  rw [← getCurrentHousehold_same own same]
  refine bind_same fun household householdFound => ?_
  have ofHome : household.id = home :=
    (Table.key_of_find? (getCurrentHousehold_ok householdFound)).trans own
  unfold getInstanceOr404
  rw [findInstance?_same same ofHome]

/-- A handler that does the same to the household's instances. -/
def SameHandler (home : Uuid) (db other : Database) (handler : TaskHandler) : Prop :=
  ∀ household definition member task, OwnTask home db other task →
    Alike (SameResult home db) (handler household definition member task ⟨db, true⟩)
      (handler household definition member task ⟨other, true⟩)

section Handlers

variable {db other : Database} (same : holdings home db = holdings home other) (clock : Clock)
include same

theorem completeHandler_same (settled : SettledRows db) (otherSettled : SettledRows other)
    (note : Option String) : SameHandler home db other (completeHandler clock note) :=
  fun _ _ _ _ mine => @completeHandler_alike home ⟨db, true⟩ ⟨other, true⟩ _ _ _ _ _ same rfl
    settled otherSettled mine note

theorem excuseHandler_same (excuseText : String) :
    SameHandler home db other (excuseHandler clock excuseText) :=
  fun _ _ _ _ mine => @excuseHandler_alike home ⟨db, true⟩ ⟨other, true⟩ _ _ _ _ _ same rfl
    mine excuseText

theorem reviewHandler_same (settled : SettledRows db) (otherSettled : SettledRows other)
    (approve : Bool) (comment : Option String) :
    SameHandler home db other (reviewHandler clock approve comment) :=
  fun _ _ _ _ mine => @reviewHandler_alike home ⟨db, true⟩ ⟨other, true⟩ _ _ _ _ _ same rfl
    settled otherSettled mine approve comment

theorem cancelHandler_same (reason : Option String) :
    SameHandler home db other (cancelHandler clock reason) :=
  fun _ _ _ _ mine => @cancelHandler_alike home ⟨db, true⟩ ⟨other, true⟩ _ _ _ _ _ same rfl
    mine reason

end Handlers

theorem taskMutation_alike {role : Member → Except RequestError Unit}
    {owns : Member → TaskInstance → Except RequestError Unit} {handler : TaskHandler}
    {request : TaskRequest} (same : holdings home world.db = holdings home other.db)
    (settled : SettledRows world.db) (asks : AsksFrom home world.db request.memberId)
    (cached : world.cache.get request.clock.now request.memberId request.idempotencyKey =
      other.cache.get request.clock.now request.memberId request.idempotencyKey)
    (handlers : SameHandler home world.db other.db handler) :
    (taskMutation role owns handler request world).2 =
        (taskMutation role owns handler request other).2 ∧
      SameRun home request.memberId world other
        (taskMutation role owns handler request world).1
        (taskMutation role owns handler request other).1 := by
  unfold taskMutation
  rw [← loadForRequest_same asks same]
  cases loaded : loadForRequest request role owns world.db with
  | error raised => exact ⟨rfl, .stayed same _⟩
  | ok rows =>
      obtain ⟨member, household, definition, task⟩ := rows
      have loads := loadForRequest_ok loaded
      obtain ⟨caller, callerFound, own⟩ := asks
      have one : member = caller := Option.some.inj (loads.memberFound.symm.trans callerFound)
      have ofHome : household.id = home :=
        (Table.key_of_find? loads.householdFound).trans (one ▸ own)
      have mine : OwnTask home world.db other.db task :=
        ownTask_of_found same settled ofHome loads.taskFound
      have id : member.id = request.memberId := Table.key_of_find? loads.memberFound
      rw [← id] at cached ⊢
      refine runHandler_alike same cached ?_
      refine Alike.map (handlers household definition member task mine) ?_
      rintro ⟨result, session⟩ ⟨_, otherSession⟩ ⟨rfl, sessions⟩
      exact ⟨rfl, sessions⟩

theorem bulkApprove_alike {request : BulkApproveRequest}
    (same : holdings home world.db = holdings home other.db)
    (settled : SettledRows world.db) (otherSettled : SettledRows other.db)
    (asks : AsksFrom home world.db request.memberId)
    (cached : world.cache.get request.clock.now request.memberId request.idempotencyKey =
      other.cache.get request.clock.now request.memberId request.idempotencyKey) :
    (bulkApprove request world).2 = (bulkApprove request other).2 ∧
      SameRun home request.memberId world other (bulkApprove request world).1
        (bulkApprove request other).1 := by
  unfold bulkApprove
  rw [← loadParent_same asks same]
  cases loaded : loadParent world.db request.memberId with
  | error raised => exact ⟨rfl, .stayed same _⟩
  | ok caller =>
      obtain ⟨parent, household⟩ := caller
      have own := loadParent_from asks loaded
      have id : parent.id = request.memberId := Table.key_of_find? own.found
      rw [← id] at cached ⊢
      refine runHandler_alike same cached ?_
      refine Alike.map (@runBatch_alike _ _ _ own.ofHousehold request.clock.transaction
        request.items ⟨world.db, true⟩ ⟨other.db, true⟩ same rfl settled otherSettled) ?_
      rintro ⟨results, session⟩ ⟨_, otherSession⟩ ⟨rfl, sessions⟩
      exact ⟨rfl, sessions⟩

end Runs

theorem SameRun.served {home memberId : Uuid} {site other : SiteState}
    {outcome otherOutcome : World × Except RequestError Response}
    (run : SameRun home memberId site.server.world other.server.world outcome.1
      otherOutcome.1)
    (agree : Agree home site other)
    (own : owner? site.db (.member memberId) = some home) :
    Served home site other (site.idempotent outcome).1 (other.idempotent otherOutcome).1 := by
  refine ⟨run.confined, fun asked owned => ?_, fun _ _ _ _ => rfl, rfl, rfl⟩
  have held : ∀ id, owner? site.db (.member id) = some home → ∀ now idempotencyKey,
      site.server.world.cache.get now id idempotencyKey =
        other.server.world.cache.get now id idempotencyKey := fun id ofHome now idempotencyKey =>
    congrFun (congrFun (congrArg MemberKeys.responses (agree.keys id ofHome)) now) idempotencyKey
  have responses : ∀ later wanted, outcome.1.cache.get later asked wanted =
      otherOutcome.1.cache.get later asked wanted := by
    intro later wanted
    rcases run.caches with ⟨kept, otherKept⟩ | ⟨now, idempotencyKey, response, stored,
      otherStored⟩
    · rw [kept, otherKept, held asked owned]
    · rw [stored, otherStored]
      exact Cache.setNx_same (held memberId own now idempotencyKey)
        (held asked owned later wanted)
  simp only [SiteState.idempotent, keysOf_world, responses, agree.keys asked owned]

end KidsChores.Properties
