import KidsChores.Api
import KidsChores.Routers.Auth

/-!
# The server

The requests of the API and of the auth router, and the nightly runs, one after
another on the database and Redis.  A request is made with a valid token of its
caller, or needs none.
-/

set_option autoImplicit false

namespace KidsChores.Server

open KidsChores.Api
open KidsChores.Models
open KidsChores.Library
open KidsChores.Library.PyDatetime
open KidsChores.Routers
open KidsChores.Routers.Approvals
open KidsChores.Routers.Auth
open KidsChores.Routers.Household
open KidsChores.Services.Linking
open KidsChores.Services.RateLimit

structure ServerState where
  world : World
  redis : Redis := {}

inductive ServerEvent where
  | api (event : ApiEvent)
  | generateLinkCode (request : GenerateLinkCode)
  | verifyMemberPin (request : VerifyMemberPin)
  | signInWithApple (request : AppleSignIn)
  | register (request : Register)
  | linkAccount (request : LinkAccount)
  | login (request : Login)
  | refresh (request : Refresh)
  | changePassword (request : ChangePassword)
  | updatePushToken (request : UpdatePushToken)

/-- Redis keeps what it got; the session is committed or rolled back. -/
def ServerState.answer {Error : Type} (server : ServerState) (redis : Redis)
    (result : Except Error Database) : ServerState :=
  ⟨commit server.world result, redis⟩

section Requests

variable (pytz : String → Option TzInfo) (verifyPassword : String → String → Bool)

def serverStep (server : ServerState) : ServerEvent → ServerState
  | .api event => { server with world := apiStep pytz server.world event }
  | .generateLinkCode request =>
      let (_, links) := generateLinkCode request server.world.db server.redis.links
      { server with redis := { server.redis with links := links } }
  | .verifyMemberPin request =>
      let (_, counted) := verifyMemberPin request server.world.db server.redis.counters
      { server with redis := { server.redis with counters := counted } }
  | .signInWithApple request =>
      server.answer server.redis ((signInWithApple request server.world.db).map Prod.snd)
  | .register request =>
      let (result, counted) := register request server.world.db server.redis.counters
      server.answer { server.redis with counters := counted } (result.map Prod.snd)
  | .linkAccount request =>
      let (result, redis) := linkAccount request server.world.db server.redis
      server.answer redis (result.map Prod.snd)
  | .login request =>
      let (_, counted) := login verifyPassword request server.world.db server.redis.counters
      { server with redis := { server.redis with counters := counted } }
  | .refresh request =>
      let (_, used) := refresh request server.world.db server.redis.used
      { server with redis := { server.redis with used := used } }
  | .changePassword request =>
      let (result, counted) :=
        changePassword verifyPassword request server.world.db server.redis.counters
      server.answer { server.redis with counters := counted } result
  | .updatePushToken request =>
      server.answer server.redis (updatePushToken request server.world.db)

/-- The tokens of the response. -/
def tokens? (server : ServerState) : ServerEvent → Option TokenResponse
  | .signInWithApple request =>
      ((signInWithApple request server.world.db).map Prod.fst).toOption
  | .register request =>
      ((register request server.world.db server.redis.counters).1.map Prod.fst).toOption
  | .linkAccount request =>
      ((linkAccount request server.world.db server.redis).1.map Prod.fst).toOption
  | .login request =>
      (login verifyPassword request server.world.db server.redis.counters).1.toOption
  | .refresh request => (refresh request server.world.db server.redis.used).1.toOption
  | _ => none

end Requests

/-! ## Who asks -/

/-- The `sub` of the request's token. -/
def apiCaller : ApiEvent → Option Uuid
  | .createDefinition request => some request.memberId
  | .updateDefinition request => some request.memberId
  | .archiveDefinition request => some request.memberId
  | .createSeries request => some request.memberId
  | .updateSeries request => some request.memberId
  | .archiveSeries request => some request.memberId
  | .completeTask request _ => some request.memberId
  | .excuseTask request _ => some request.memberId
  | .reviewTask request _ _ => some request.memberId
  | .cancelTask request _ => some request.memberId
  | .bulkApprove request => some request.memberId
  | .manualAdjust request => some request.memberId
  | .submitClaim request => some request.memberId
  | .resolveClaim request => some request.memberId
  | .updateHousehold request => some request.memberId
  | .createTeenProfile request => some request.memberId
  | .removeMember request => some request.memberId
  | .nightly _ _ => none

def ServerEvent.caller : ServerEvent → Option Uuid
  | .api event => apiCaller event
  | .generateLinkCode request => some request.memberId
  | .verifyMemberPin request => some request.memberId
  | .changePassword request => some request.memberId
  | .updatePushToken request => some request.memberId
  | .signInWithApple _ => none
  | .register _ => none
  | .linkAccount _ => none
  | .login _ => none
  | .refresh _ => none

/-- Whom `get_current_member` takes the caller for. -/
def authenticated? (server : ServerState) (event : ServerEvent) : Option Member :=
  event.caller.bind fun memberId => (getCurrentMember server.world.db memberId).toOption

/-! ## Members stay -/

/-- Every member is still there, in their household and their role. -/
def MembersStay (db next : Database) : Prop :=
  ∀ member ∈ db.members.rows, ∃ later ∈ next.members.rows, later.id = member.id ∧
    later.householdId = member.householdId ∧ later.role = member.role

section Stay

variable {db next : Database}

theorem MembersStay.of_eq (same : next.members = db.members) : MembersStay db next := by
  intro member stored
  exact ⟨member, by rw [same]; exact stored, rfl, rfl, rfl⟩

theorem MembersStay.of_save {member edited : Member} (stored : member ∈ db.members.rows)
    (saved : next.members = db.members.save edited) (sameId : edited.id = member.id)
    (sameHousehold : edited.householdId = member.householdId)
    (sameRole : edited.role = member.role) : MembersStay db next := by
  intro other otherStored
  rw [saved]
  by_cases hit : other.id = edited.id
  · have same : other = member := db.members.row_unique otherStored stored (hit.trans sameId)
    refine ⟨edited, Table.mem_save.mpr (Or.inl ⟨rfl, other, otherStored, hit⟩), hit.symm, ?_⟩
    rw [same]
    exact ⟨sameHousehold, sameRole⟩
  · exact ⟨other, Table.mem_save.mpr (Or.inr ⟨otherStored, hit⟩), rfl, rfl, rfl⟩

theorem MembersStay.of_grown
    (grown : ∀ member ∈ db.members.rows, member ∈ next.members.rows) :
    MembersStay db next :=
  fun member stored => ⟨member, grown member stored, rfl, rfl, rfl⟩

theorem MembersStay.refl (db : Database) : MembersStay db db := .of_eq rfl

theorem MembersStay.trans {later : Database} (early : MembersStay db next)
    (late : MembersStay next later) : MembersStay db later := by
  intro member stored
  obtain ⟨middle, middleStored, sameId, sameHousehold, sameRole⟩ := early member stored
  obtain ⟨last, lastStored, lastId, lastHousehold, lastRole⟩ := late middle middleStored
  exact ⟨last, lastStored, lastId.trans sameId, lastHousehold.trans sameHousehold,
    lastRole.trans sameRole⟩

/-- What a request of the auth router leaves: of all tables it writes members and
households. -/
structure AuthEffect (db next : Database) : Prop where
  stay : MembersStay db next
  rest : next = { db with members := next.members, households := next.households }

theorem AuthEffect.refl (db : Database) : AuthEffect db db := ⟨.refl db, rfl⟩

theorem AuthEffect.saved {member edited : Member} (stored : member ∈ db.members.rows)
    (saved : next = { db with members := db.members.save edited })
    (sameId : edited.id = member.id) (sameHousehold : edited.householdId = member.householdId)
    (sameRole : edited.role = member.role) : AuthEffect db next := by
  refine ⟨MembersStay.of_save stored ?_ sameId sameHousehold sameRole, ?_⟩
  · rw [saved]
  · rw [saved]

theorem foundFamily_ok {displayName subject : String} {provider : AuthProvider}
    {passwordHash : Option String} {response : TokenResponse}
    (returned : foundFamily db displayName provider subject passwordHash =
      .ok (response, next)) :
    response.memberId = db.members.freshKey ∧ AuthEffect db next := by
  unfold foundFamily at returned
  split at returned
  · cases returned
  · cases returned
    refine ⟨rfl, ⟨.of_grown fun member stored => ?_, rfl⟩⟩
    exact Table.mem_append.mpr (Or.inl stored)

theorem signInWithApple_ok {request : AppleSignIn} {response : TokenResponse}
    (returned : signInWithApple request db = .ok (response, next)) :
    AuthEffect db next := by
  unfold signInWithApple at returned
  split at returned
  · cases returned
  · split at returned
    · exact (foundFamily_ok returned).2
    · split at returned
      · cases returned
      · cases returned
        exact .refl _

theorem register_ok {request : Register} {counters : Counters} {response : TokenResponse}
    (returned : (register request db counters).1 = .ok (response, next)) :
    AuthEffect db next := by
  simp only [register] at returned
  split at returned
  · cases returned
  · split at returned
    · cases returned
    · exact (foundFamily_ok returned).2

theorem linkMember_ok {memberId : Uuid} {email passwordHash : String}
    {response : TokenResponse}
    (returned : linkMember db memberId email passwordHash = .ok (response, next)) :
    ∃ member, db.members.find? memberId = some member ∧ member.role = .teen ∧
      Pending member.householdId member ∧ findSubject? db .email email = none ∧
      ¬ SubjectTakenElsewhere db (withCredentials member email passwordHash) ∧
      response = TokenResponse.issue member member.householdId ∧
      next = { db with
        members := db.members.save (withCredentials member email passwordHash) } := by
  unfold linkMember at returned
  split at returned
  · cases returned
  · rename_i member found
    split at returned
    · cases returned
    · rename_i teen
      split at returned
      · cases returned
      · rename_i pending
        split at returned
        · cases returned
        · rename_i unused
          split at returned
          · cases returned
          · rename_i free
            cases returned
            exact ⟨member, found, not_not.mp teen, not_not.mp pending,
              Option.not_isSome_iff_eq_none.mp unused, free, rfl, rfl⟩

theorem linkAccount_ok {request : LinkAccount} {redis : Redis} {response : TokenResponse}
    (returned : (linkAccount request db redis).1 = .ok (response, next)) :
    (checkBoth redis.counters request.now ("link:ip:" ++ request.ip) linkIpLimit
        ("link:code:" ++ request.code) linkCodeLimit).1 = true ∧
      ∃ memberId,
        (redeemLinkCode redis.links request.now request.code).1 = some memberId ∧
        linkMember db memberId request.email request.passwordHash =
          .ok (response, next) := by
  simp only [linkAccount] at returned
  split at returned
  · cases returned
  · rename_i within
    simp only at returned
    split at returned
    · cases returned
    · rename_i memberId redeemed
      exact ⟨not_not.mp within, memberId, redeemed, returned⟩

theorem changePassword_ok {verifyPassword : String → String → Bool}
    {request : ChangePassword} {counters : Counters}
    (returned : (changePassword verifyPassword request db counters).1 = .ok next) :
    AuthEffect db next := by
  unfold changePassword at returned
  split at returned
  · cases returned
  · rename_i member found
    have stored := Table.mem_of_find? (getCurrentMember_ok found)
    split at returned
    · simp only at returned
      split at returned
      · cases returned
      · split at returned
        · cases returned
        · cases returned
          exact AuthEffect.saved stored rfl rfl rfl rfl
    · cases returned

theorem updatePushToken_ok {request : UpdatePushToken}
    (returned : updatePushToken request db = .ok next) : AuthEffect db next := by
  unfold updatePushToken at returned
  obtain ⟨member, found, returned⟩ := bind_ok returned
  split at returned
  · cases returned
  · cases returned
    exact AuthEffect.saved (Table.mem_of_find? (getCurrentMember_ok found)) rfl rfl rfl rfl

theorem apiEffect_membersStay {pytz : String → Option TzInfo} {event : ApiEvent}
    (effect : ApiEffect pytz db event next) : MembersStay db next := by
  cases effect with
  | definitionCreated created =>
      rw [created.committed]
      exact .of_eq rfl
  | completed acts effect check =>
      cases check with
      | unlinked => exact .of_eq rfl
      | gone => exact .of_eq rfl
      | evaluated _ _ evaluation => cases evaluation <;> exact .of_eq rfl
  | batched loaded ran =>
      exact batch_keeps (MembersStay db) (fun _ _ _ kept => kept) (.refl db) loaded ran
  | teenAdded =>
      exact .of_grown fun member stored => List.mem_append_left _ stored
  | memberRemoved stored => exact MembersStay.of_save stored rfl rfl rfl rfl
  | generated run =>
      rw [run.committed]
      exact .of_eq rfl
  | _ => exact .of_eq rfl

end Stay

/-! ## What a request can do -/

inductive ServerEffect (pytz : String → Option TzInfo) (db next : Database) :
    ServerEvent → Prop where
  | api {event : ApiEvent} (effect : ApiEffect pytz db event next) :
      ServerEffect pytz db next (.api event)
  | auth {event : ServerEvent} (effect : AuthEffect db next) :
      ServerEffect pytz db next event

theorem answer_effect {pytz : String → Option TzInfo} {event : ServerEvent} {Error : Type}
    {server : ServerState} {redis : Redis} {result : Except Error Database}
    (effect : ∀ next, result = .ok next → AuthEffect server.world.db next) :
    ServerEffect pytz server.world.db (server.answer redis result).world.db event := by
  cases result with
  | error raised => exact .auth (.refl _)
  | ok next => exact .auth (effect next rfl)

theorem map_snd_ok {Error Answer Value : Type} {result : Except Error (Answer × Value)}
    {value : Value} (returned : result.map Prod.snd = .ok value) :
    ∃ answer, result = .ok (answer, value) := by
  cases result with
  | error raised => cases returned
  | ok pair =>
      cases returned
      exact ⟨pair.1, rfl⟩

theorem serverStep_effect (pytz : String → Option TzInfo)
    (verifyPassword : String → String → Bool) (server : ServerState) (event : ServerEvent) :
    ServerEffect pytz server.world.db
      (serverStep pytz verifyPassword server event).world.db event := by
  cases event with
  | api event => exact .api (apiStep_effect event)
  | signInWithApple request =>
      refine answer_effect fun next returned => ?_
      obtain ⟨response, signedIn⟩ := map_snd_ok returned
      exact signInWithApple_ok signedIn
  | register request =>
      refine answer_effect fun next returned => ?_
      obtain ⟨response, registered⟩ := map_snd_ok returned
      exact register_ok registered
  | linkAccount request =>
      refine answer_effect fun next returned => ?_
      obtain ⟨response, linked⟩ := map_snd_ok returned
      obtain ⟨_, memberId, _, converted⟩ := linkAccount_ok linked
      obtain ⟨member, found, _, _, _, _, _, stored⟩ := linkMember_ok converted
      exact AuthEffect.saved (Table.mem_of_find? found) stored rfl rfl rfl
  | changePassword request =>
      exact answer_effect fun next returned => changePassword_ok returned
  | updatePushToken request =>
      exact answer_effect fun next returned => updatePushToken_ok returned
  | generateLinkCode request => exact .auth (.refl _)
  | verifyMemberPin request => exact .auth (.refl _)
  | login request => exact .auth (.refl _)
  | refresh request => exact .auth (.refl _)

theorem serverStep_membersStay (pytz : String → Option TzInfo)
    (verifyPassword : String → String → Bool) (server : ServerState) (event : ServerEvent) :
    MembersStay server.world.db (serverStep pytz verifyPassword server event).world.db := by
  cases serverStep_effect pytz verifyPassword server event with
  | api effect => exact apiEffect_membersStay effect
  | auth effect => exact effect.stay

end KidsChores.Server
