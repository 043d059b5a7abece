import KidsChores.Server

/-!
# Removed members

Removing a member stamps the row, and of all paths that authenticate a member or issue
tokens only the one that makes link codes looks at the stamp.  A removed member is
locked out exactly as long as nobody presents credentials that were good before.
-/

set_option autoImplicit false

namespace KidsChores.Properties

open KidsChores.Api
open KidsChores.Library
open KidsChores.Library.Expiring
open KidsChores.Library.PyDatetime
open KidsChores.Library.Runs
open KidsChores.Models
open KidsChores.Routers
open KidsChores.Routers.Auth
open KidsChores.Routers.Household
open KidsChores.Server
open KidsChores.Services.Linking
open KidsChores.Services.RateLimit
open KidsChores.Services.RefreshTokens
open KidsChores.Session

/-- The request is not taken for the member's, and brings no tokens of theirs. -/
def LockedOut (verifyPassword : String → String → Bool) (memberId : Uuid)
    (server : ServerState) (event : ServerEvent) : Prop :=
  (∀ member ∈ authenticated? server event, member.id ≠ memberId) ∧
    ∀ response ∈ tokens? verifyPassword server event, response.memberId ≠ memberId

instance (verifyPassword : String → String → Bool) (memberId : Uuid)
    (server : ServerState) (event : ServerEvent) :
    Decidable (LockedOut verifyPassword memberId server event) :=
  inferInstanceAs (Decidable (_ ∧ _))

section Credentials

variable (verifyPassword : String → String → Bool) (memberId : Uuid) (db : Database)

def OwnIdentity (request : AppleSignIn) : Prop :=
  ∃ appleSub, request.identity = .ok appleSub ∧
    ∃ member, findSubject? db .apple appleSub = some member ∧ member.id = memberId ∧
      (db.households.find? member.householdId).isSome

def OwnPassword (request : Login) (counters : Counters) : Prop :=
  (checkBoth counters request.now ("login:ip:" ++ request.ip) loginIpLimit
      ("login:email:" ++ request.email) loginEmailLimit).1 = true ∧
    ∃ member, findSubject? db .email request.email = some member ∧ member.id = memberId ∧
      (∃ passwordHash, member.passwordHash = some passwordHash ∧
        verifyPassword request.password passwordHash = true) ∧
      (db.households.find? member.householdId).isSome

/-- A refresh token of the member that has not been redeemed. -/
def OwnRefreshToken (request : Refresh) (used : UsedKeys ℚ) : Prop :=
  ∃ payload jti exp, request.payload = some payload ∧ payload.sub = memberId ∧
    payload.jti = some jti ∧ payload.exp = some exp ∧ jti ≠ "" ∧ exp ≠ 0 ∧
      used.get request.now jti = none

/-- A live code for the profile while it has no login, with an email that is free. -/
def OwnLinkCode (request : LinkAccount) (redis : Redis) : Prop :=
  (checkBoth redis.counters request.now ("link:ip:" ++ request.ip) linkIpLimit
      ("link:code:" ++ request.code) linkCodeLimit).1 = true ∧
    redis.links.codeKeys.get request.now request.code = some memberId ∧
    ∃ member, db.members.find? memberId = some member ∧ member.role = .teen ∧
      Pending member.householdId member ∧ findSubject? db .email request.email = none ∧
      ¬ SubjectTakenElsewhere db (withCredentials member request.email request.passwordHash)

end Credentials

/-- The request comes with credentials of the member that were good before the removal:
a bearer token of either kind, the Apple account, the password, a refresh token or a link
code. -/
def Presents (verifyPassword : String → String → Bool) (memberId : Uuid)
    (server : ServerState) : ServerEvent → Prop
  | .signInWithApple request => OwnIdentity memberId server.world.db request
  | .register _ => False
  | .linkAccount request => OwnLinkCode memberId server.world.db request server.redis
  | .login request =>
      OwnPassword verifyPassword memberId server.world.db request server.redis.counters
  | .refresh request => OwnRefreshToken memberId request server.redis.used
  | event => event.caller = some memberId

def OnFile (memberId : Uuid) (db : Database) : Prop :=
  ∃ member, db.members.find? memberId = some member

theorem OnFile.stay {memberId : Uuid} {db next : Database} (onFile : OnFile memberId db)
    (stay : MembersStay db next) : OnFile memberId next := by
  obtain ⟨member, found⟩ := onFile
  obtain ⟨stored, rfl⟩ := Table.find?_eq_some_iff.mp found
  obtain ⟨later, laterStored, sameId, _⟩ := stay member stored
  exact ⟨later, Table.find?_eq_some_iff.mpr ⟨laterStored, sameId⟩⟩

section Paths

variable {verifyPassword : String → String → Bool} {memberId : Uuid} {db : Database}

theorem foundFamily_other (onFile : OnFile memberId db) {displayName subject : String}
    {provider : AuthProvider} {passwordHash : Option String} {response : TokenResponse}
    {next : Database}
    (returned : foundFamily db displayName provider subject passwordHash =
      .ok (response, next)) :
    response.memberId ≠ memberId := by
  obtain ⟨member, found⟩ := onFile
  obtain ⟨stored, rfl⟩ := Table.find?_eq_some_iff.mp found
  rw [(foundFamily_ok returned).1]
  exact (Nat.ne_of_lt (Table.key_lt_freshKey stored)).symm

theorem signInWithApple_issues_iff (onFile : OnFile memberId db) {request : AppleSignIn} :
    (∃ response next, signInWithApple request db = .ok (response, next) ∧
      response.memberId = memberId) ↔ OwnIdentity memberId db request := by
  constructor
  · rintro ⟨response, next, returned, rfl⟩
    unfold signInWithApple at returned
    split at returned
    · cases returned
    · rename_i appleSub valid
      split at returned
      · exact absurd rfl (foundFamily_other onFile returned)
      · rename_i member found
        split at returned
        · cases returned
        · rename_i household householdFound
          cases returned
          exact ⟨appleSub, valid, member, found, rfl, by rw [householdFound]; rfl⟩
  · rintro ⟨appleSub, valid, member, found, rfl, home⟩
    obtain ⟨household, householdFound⟩ := Option.isSome_iff_exists.mp home
    refine ⟨TokenResponse.issue member household.id, db, ?_, rfl⟩
    simp only [signInWithApple, valid, found, householdFound]

theorem login_issues_iff {request : Login} {counters : Counters} :
    (∃ response, (login verifyPassword request db counters).1 = .ok response ∧
      response.memberId = memberId) ↔
        OwnPassword verifyPassword memberId db request counters := by
  constructor
  · rintro ⟨response, returned, rfl⟩
    simp only [login] at returned
    split at returned
    · cases returned
    · rename_i within
      split at returned
      · cases returned
      · rename_i member found
        split at returned
        · cases returned
        · rename_i passwordHash stored
          split at returned
          · cases returned
          · rename_i verified
            split at returned
            · cases returned
            · rename_i household householdFound
              cases returned
              exact ⟨not_not.mp within, member, found, rfl,
                ⟨passwordHash, stored, not_not.mp verified⟩, by rw [householdFound]; rfl⟩
  · rintro ⟨within, member, found, rfl, ⟨passwordHash, stored, verified⟩, home⟩
    obtain ⟨household, householdFound⟩ := Option.isSome_iff_exists.mp home
    refine ⟨TokenResponse.issue member household.id, ?_, rfl⟩
    simp [login, within, found, stored, verified, householdFound]

theorem refresh_issues_iff (onFile : OnFile memberId db) {request : Refresh}
    {used : UsedKeys ℚ} :
    (∃ response, (refresh request db used).1 = .ok response ∧
      response.memberId = memberId) ↔ OwnRefreshToken memberId request used := by
  constructor
  · rintro ⟨response, returned, rfl⟩
    unfold refresh at returned
    split at returned
    · cases returned
    · rename_i payload presented
      split at returned
      · rename_i jti exp named expires
        split at returned
        · cases returned
        · rename_i present
          simp only at returned
          split at returned
          · cases returned
          · rename_i firstUse
            split at returned
            · cases returned
            · rename_i member found
              cases returned
              refine ⟨payload, jti, exp, presented, (Table.key_of_find? found).symm, named,
                expires, fun empty => present (Or.inl empty),
                fun zero => present (Or.inr zero), ?_⟩
              cases stored : used.get request.now jti with
              | none => rfl
              | some mark =>
                  simp [redeemRefreshToken, Store.setNx_refused stored] at firstUse
      · cases returned
  · rintro ⟨payload, jti, exp, presented, rfl, named, expires, present, nonzero, unused⟩
    obtain ⟨member, found⟩ := onFile
    have own : member.id = payload.sub := Table.key_of_find? found
    refine ⟨TokenResponse.issue member member.householdId, ?_, own⟩
    simp [refresh, presented, named, expires, present, nonzero, redeemRefreshToken,
      Store.setNx_granted unused, found]

theorem linkAccount_issues_iff {request : LinkAccount} {redis : Redis} :
    (∃ response next, (linkAccount request db redis).1 = .ok (response, next) ∧
      response.memberId = memberId) ↔ OwnLinkCode memberId db request redis := by
  constructor
  · rintro ⟨response, next, returned, rfl⟩
    obtain ⟨within, linkedId, redeemed, converted⟩ := linkAccount_ok returned
    obtain ⟨member, found, teen, pending, unused, free, rfl, _⟩ := linkMember_ok converted
    obtain rfl : member.id = linkedId := Table.key_of_find? found
    rw [redeemLinkCode_fst] at redeemed
    exact ⟨within, redeemed, member, found, teen, pending, unused, free⟩
  · rintro ⟨within, redeemed, member, found, teen, pending, unused, free⟩
    have own : member.id = memberId := Table.key_of_find? found
    refine ⟨TokenResponse.issue member member.householdId, { db with
      members := db.members.save (withCredentials member request.email
        request.passwordHash) }, ?_, own⟩
    rw [← redeemLinkCode_fst] at redeemed
    simp [linkAccount, within, redeemed, linkMember, found, teen, pending, unused, free]

end Paths

/-! ## One request -/

theorem mem_map_fst {Error Answer Value : Type} {result : Except Error (Answer × Value)}
    {answer : Answer} : answer ∈ (result.map Prod.fst).toOption ↔
      ∃ value, result = .ok (answer, value) := by
  cases result with
  | error raised => simp [Except.map, Except.toOption]
  | ok pair =>
      obtain ⟨first, second⟩ := pair
      simp [Except.map, Except.toOption, eq_comm]

theorem mem_toOption {Error Answer : Type} {result : Except Error Answer}
    {answer : Answer} : answer ∈ result.toOption ↔ result = .ok answer :=
  toOption_eq_some

theorem tokens_iff {verifyPassword : String → String → Bool} {memberId : Uuid}
    {server : ServerState} (onFile : OnFile memberId server.world.db) {event : ServerEvent}
    (unauthenticated : event.caller = none) :
    (∃ response ∈ tokens? verifyPassword server event, response.memberId = memberId) ↔
      Presents verifyPassword memberId server event := by
  cases event with
  | signInWithApple request =>
      simp only [tokens?, mem_map_fst, Presents, ← signInWithApple_issues_iff onFile]
      constructor
      · rintro ⟨response, ⟨next, returned⟩, own⟩
        exact ⟨response, next, returned, own⟩
      · rintro ⟨response, next, returned, own⟩
        exact ⟨response, ⟨next, returned⟩, own⟩
  | register request =>
      refine iff_of_false ?_ id
      rintro ⟨response, issued, rfl⟩
      obtain ⟨next, returned⟩ := mem_map_fst.mp issued
      simp only [register] at returned
      split at returned
      · cases returned
      · split at returned
        · cases returned
        · exact foundFamily_other onFile returned rfl
  | linkAccount request =>
      simp only [tokens?, mem_map_fst, Presents, ← linkAccount_issues_iff]
      constructor
      · rintro ⟨response, ⟨next, returned⟩, own⟩
        exact ⟨response, next, returned, own⟩
      · rintro ⟨response, next, returned, own⟩
        exact ⟨response, ⟨next, returned⟩, own⟩
  | login request =>
      simp only [tokens?, mem_toOption, Presents, ← login_issues_iff]
  | refresh request =>
      simp only [tokens?, mem_toOption, Presents, ← refresh_issues_iff onFile]
  | api event =>
      refine iff_of_false (by rintro ⟨_, issued, _⟩; cases issued) ?_
      exact fun presented => by simp [Presents, unauthenticated] at presented
  | _ => cases unauthenticated

theorem authenticated_iff {memberId : Uuid} {server : ServerState}
    (onFile : OnFile memberId server.world.db) {event : ServerEvent} :
    (∃ member ∈ authenticated? server event, member.id = memberId) ↔
      event.caller = some memberId := by
  constructor
  · rintro ⟨member, taken, rfl⟩
    obtain ⟨caller, asks, found⟩ := Option.bind_eq_some_iff.mp taken
    rw [asks, ← Table.key_of_find? (getCurrentMember_ok (toOption_eq_some.mp found))]
  · intro asks
    obtain ⟨member, found⟩ := onFile
    refine ⟨member, ?_, Table.key_of_find? found⟩
    simp [authenticated?, asks, getCurrentMember, found, Except.toOption]

theorem lockedOut_iff {verifyPassword : String → String → Bool} {memberId : Uuid}
    {server : ServerState} (onFile : OnFile memberId server.world.db) {event : ServerEvent} :
    LockedOut verifyPassword memberId server event ↔
      ¬ Presents verifyPassword memberId server event := by
  have byToken : (∀ member ∈ authenticated? server event, member.id ≠ memberId) ↔
      event.caller ≠ some memberId := by
    rw [Ne, ← authenticated_iff onFile]
    push Not
    rfl
  rw [LockedOut, byToken]
  cases unauthenticated : event.caller with
  | none =>
      rw [← tokens_iff onFile unauthenticated]
      push Not
      simp
  | some caller =>
      have silent : tokens? verifyPassword server event = none := by
        cases event <;> first | rfl | cases unauthenticated
      have presents : Presents verifyPassword memberId server event ↔
          caller = memberId := by
        cases event with
        | signInWithApple | register | linkAccount | login | refresh =>
            cases unauthenticated
        | _ =>
            exact (iff_of_eq (congrArg (· = some memberId) unauthenticated)).trans
              Option.some_inj
      rw [presents, silent]
      simp

/-- A removed member is locked out of every later request exactly as long as no request
presents credentials of theirs that were good before. -/
theorem removed_member_locked_out_iff (pytz : String → Option TzInfo)
    (verifyPassword : String → String → Bool) {server : ServerState}
    {request : RemoveMember} {next : Database}
    (removed : removeMember request server.world.db = .ok next)
    (later : List ServerEvent) :
    let start := serverStep pytz verifyPassword server (.api (.removeMember request))
    EachMeets (serverStep pytz verifyPassword)
        (LockedOut verifyPassword request.targetId) start later ↔
      EachMeets (serverStep pytz verifyPassword)
        (fun current event => ¬ Presents verifyPassword request.targetId current event)
        start later := by
  intro start
  obtain ⟨member, found, _⟩ := removeMember_ok removed
  have onFile : OnFile request.targetId start.world.db :=
    OnFile.stay ⟨member, found⟩ (serverStep_membersStay pytz verifyPassword server _)
  have stays : ∀ (current : ServerState) (event : ServerEvent),
      OnFile request.targetId current.world.db →
        OnFile request.targetId (serverStep pytz verifyPassword current event).world.db :=
    fun current event before =>
      before.stay (serverStep_membersStay pytz verifyPassword current event)
  exact ⟨guarded_eachMeets (fun current => OnFile request.targetId current.world.db)
      (fun current event before _ => stays current event before)
      (fun current event before locked => (lockedOut_iff before).mp locked) onFile,
    guarded_eachMeets (fun current => OnFile request.targetId current.world.db)
      (fun current event before _ => stays current event before)
      (fun current event before absent => (lockedOut_iff before).mpr absent) onFile⟩

/-- A household that has removed its teen. -/
def removal : RemoveMember := ⟨0, sampleParent.id, sampleTeen.id⟩

def sampleServer : ServerState where
  world := ⟨sampleDatabase sampleDefinition sampleTask, []⟩

/-- Another member goes on as before. -/
theorem removed_member_locked_out_siblings :
    EachMeets (serverStep (fun _ => none) fun _ _ => false)
      (LockedOut (fun _ _ => false) sampleTeen.id)
      (serverStep (fun _ => none) (fun _ _ => false) sampleServer
        (.api (.removeMember removal)))
      [.updatePushToken ⟨sampleParent.id, none⟩] := by
  refine (@removed_member_locked_out_iff (fun _ => none) (fun _ _ => false) sampleServer
    removal _ rfl _).mpr ⟨fun presented => ?_, trivial⟩
  cases presented

/-- The removed teen's unexpired token still works, and so does a refresh token that
was not redeemed. -/
theorem removed_teen_comes_back :
    ¬ EachMeets (serverStep (fun _ => none) fun _ _ => false)
        (LockedOut (fun _ _ => false) sampleTeen.id)
        (serverStep (fun _ => none) (fun _ _ => false) sampleServer
          (.api (.removeMember removal)))
        [.updatePushToken ⟨sampleTeen.id, none⟩] ∧
      ¬ EachMeets (serverStep (fun _ => none) fun _ _ => false)
        (LockedOut (fun _ _ => false) sampleTeen.id)
        (serverStep (fun _ => none) (fun _ _ => false) sampleServer
          (.api (.removeMember removal)))
        [.refresh ⟨0, 0, some ⟨sampleTeen.id, some "a", some 10⟩⟩] := by
  decide +kernel

end KidsChores.Properties
