import KidsChores.Properties.Logins
import KidsChores.Properties.SafeRetries
import KidsChores.Properties.TokenRuns

/-!
# Members who come back

Whoever got tokens once gets the same ones again: the Apple account, the password that was
set and the refresh token lead to the same member at any later time, whatever the server
has done since, and coming back writes no row.
-/

set_option autoImplicit false

namespace KidsChores.Properties

open KidsChores.Library
open KidsChores.Library.Expiring
open KidsChores.Library.PyDatetime
open KidsChores.Library.Runs
open KidsChores.Models
open KidsChores.Planning
open KidsChores.Routers
open KidsChores.Routers.Auth
open KidsChores.Server
open KidsChores.Services.RateLimit
open KidsChores.Services.RefreshTokens

/-! ## Signing in again -/

/-- The later event is a sign-in with what the first one signed in with, or set. -/
inductive SignsInAgain (verifyPassword : String → String → Bool) :
    ServerEvent → ServerEvent → Prop where
  | identity {first again : AppleSignIn} {appleSub : String}
      (valid : first.identity = .ok appleSub) (validAgain : again.identity = .ok appleSub) :
      SignsInAgain verifyPassword (.signInWithApple first) (.signInWithApple again)
  | login {first again : Login} (email : again.email = first.email)
      (password : again.password = first.password) :
      SignsInAgain verifyPassword (.login first) (.login again)
  | registered {first : Register} {again : Login} (email : again.email = first.email)
      (verified : verifyPassword again.password first.passwordHash = true) :
      SignsInAgain verifyPassword (.register first) (.login again)
  | linked {first : LinkAccount} {again : Login} (email : again.email = first.email)
      (verified : verifyPassword again.password first.passwordHash = true) :
      SignsInAgain verifyPassword (.linkAccount first) (.login again)

def Admitted (server : ServerState) : ServerEvent → Prop
  | .login request =>
      (checkBoth server.redis.counters request.now ("login:ip:" ++ request.ip) loginIpLimit
        ("login:email:" ++ request.email) loginEmailLimit).1 = true
  | _ => True

inductive Unlocks (verifyPassword : String → String → Bool) (member : Member) :
    ServerEvent → Prop where
  | identity {request : AppleSignIn} (provider : member.authProvider = .apple)
      (valid : request.identity = .ok member.authSubject) :
      Unlocks verifyPassword member (.signInWithApple request)
  | password {request : Login} {passwordHash : String}
      (provider : member.authProvider = .email) (email : request.email = member.authSubject)
      (hashed : member.passwordHash = some passwordHash)
      (verified : verifyPassword request.password passwordHash = true) :
      Unlocks verifyPassword member (.login request)

section Unlocks

variable {verifyPassword : String → String → Bool} {db next : Database} {member : Member}
  {response : TokenResponse} {server : ServerState} {first again : ServerEvent}

theorem Unlocks.later {later : Member} (unlocks : Unlocks verifyPassword member again)
    (same : SameCredentials member later) : Unlocks verifyPassword later again := by
  obtain ⟨⟨provider, subject⟩, hash, _⟩ := same
  cases unlocks with
  | identity isApple valid =>
      exact .identity (provider.trans isApple) (by rw [subject]; exact valid)
  | password isEmail email hashed verified =>
      exact .password (provider.trans isEmail) (by rw [subject]; exact email)
        (hash.trans hashed) verified

theorem findSubject?_ok {provider : AuthProvider} {subject : String}
    (found : findSubject? db provider subject = some member) :
    member ∈ db.members.rows ∧ member.authProvider = provider ∧
      member.authSubject = subject := by
  have matched := List.find?_some found
  exact ⟨List.mem_of_find?_eq_some found, of_decide_eq_true matched⟩

theorem findSubject?_own (distinct : LoginsDistinct db) (stored : member ∈ db.members.rows) :
    findSubject? db member.authProvider member.authSubject = some member := by
  cases found : findSubject? db member.authProvider member.authSubject with
  | none =>
      have missed := List.find?_eq_none.mp found member stored
      exact absurd (decide_eq_true ⟨rfl, rfl⟩) missed
  | some other =>
      obtain ⟨otherStored, provider, subject⟩ := findSubject?_ok found
      rw [distinct other otherStored member stored subject (Or.inr provider)]

/-- One login, one member: it is presented as theirs. -/
theorem Unlocks.presents (unlocks : Unlocks verifyPassword member again)
    (families : Families server.world.db) (distinct : LoginsDistinct server.world.db)
    (stored : member ∈ server.world.db.members.rows) (admitted : Admitted server again) :
    Presents verifyPassword member.id server again := by
  have own := findSubject?_own distinct stored
  have home : (server.world.db.households.find? member.householdId).isSome := by
    obtain ⟨household, householdStored, named⟩ := families.homes member stored
    rw [← named, Table.find?_self _ householdStored]
    rfl
  cases unlocks with
  | identity provider valid =>
      rw [provider] at own
      exact ⟨_, valid, member, own, rfl, home⟩
  | password provider email hashed verified =>
      rw [provider, ← email] at own
      exact ⟨admitted, member, own, rfl, ⟨_, hashed, verified⟩, home⟩

theorem Unlocks.world_same {pytz : String → Option TzInfo}
    (unlocks : Unlocks verifyPassword member again) (families : Families server.world.db)
    (distinct : LoginsDistinct server.world.db)
    (stored : member ∈ server.world.db.members.rows) :
    (serverStep pytz verifyPassword server again).world = server.world := by
  cases unlocks with
  | identity provider valid =>
      have own := findSubject?_own distinct stored
      rw [provider] at own
      obtain ⟨household, householdStored, named⟩ := families.homes member stored
      have home := Table.find?_self _ householdStored
      rw [named] at home
      simp only [serverStep, ServerState.answer, signInWithApple, valid, own, home, Except.map,
        Api.commit]
  | password => rfl

theorem foundFamily_login {displayName subject : String} {provider : AuthProvider}
    {passwordHash : Option String}
    (founded : foundFamily db displayName provider subject passwordHash =
      .ok (response, next)) :
    ∃ parent ∈ next.members.rows, parent.id = response.memberId ∧
      parent.authProvider = provider ∧ parent.authSubject = subject ∧
        parent.passwordHash = passwordHash := by
  unfold foundFamily at founded
  split at founded
  · cases founded
  · cases founded
    exact ⟨_, List.mem_append_right _ (List.mem_singleton.mpr rfl), rfl, rfl, rfl, rfl⟩

theorem signInWithApple_login {request : AppleSignIn} {appleSub : String}
    (valid : request.identity = .ok appleSub)
    (returned : signInWithApple request db = .ok (response, next)) :
    ∃ member ∈ next.members.rows, member.id = response.memberId ∧
      member.authProvider = .apple ∧ member.authSubject = appleSub := by
  unfold signInWithApple at returned
  rw [valid] at returned
  dsimp only at returned
  split at returned
  · obtain ⟨parent, stored, named, provider, subject, _⟩ := foundFamily_login returned
    exact ⟨parent, stored, named, provider, subject⟩
  · rename_i member known
    split at returned
    · cases returned
    · cases returned
      obtain ⟨stored, provider, subject⟩ := findSubject?_ok known
      exact ⟨member, stored, rfl, provider, subject⟩

theorem register_login {request : Register} {counters : Counters}
    (returned : (register request db counters).1 = .ok (response, next)) :
    ∃ parent ∈ next.members.rows, parent.id = response.memberId ∧
      parent.authProvider = .email ∧ parent.authSubject = request.email ∧
        parent.passwordHash = some request.passwordHash := by
  simp only [register] at returned
  split at returned
  · cases returned
  · split at returned
    · cases returned
    · exact foundFamily_login returned

theorem linkAccount_login {request : LinkAccount} {redis : Redis}
    (returned : (linkAccount request db redis).1 = .ok (response, next)) :
    ∃ member ∈ next.members.rows, member.id = response.memberId ∧
      member.authProvider = .email ∧ member.authSubject = request.email ∧
        member.passwordHash = some request.passwordHash := by
  obtain ⟨_, memberId, _, converted⟩ := linkAccount_ok returned
  obtain ⟨member, found, _, _, _, _, rfl, rfl⟩ := linkMember_ok converted
  exact ⟨_, Table.mem_save.mpr (Or.inl ⟨rfl, member, Table.mem_of_find? found, rfl⟩), rfl,
    rfl, rfl, rfl⟩

/-- The tokens of the first event are for a member whom the later one unlocks. -/
theorem SignsInAgain.unlocks {pytz : String → Option TzInfo}
    (signsIn : SignsInAgain verifyPassword first again)
    (issued : response ∈ tokens? verifyPassword server first) :
    ∃ member ∈ (serverStep pytz verifyPassword server first).world.db.members.rows,
      member.id = response.memberId ∧ Unlocks verifyPassword member again := by
  cases signsIn with
  | identity valid validAgain =>
      obtain ⟨next, returned⟩ := mem_map_fst.mp issued
      obtain ⟨member, stored, named, provider, subject⟩ := signInWithApple_login valid returned
      refine ⟨member, ?_, named, .identity provider (by rw [subject]; exact validAgain)⟩
      simp only [serverStep, ServerState.answer, returned, Except.map, Api.commit]
      exact stored
  | login email password =>
      obtain ⟨_, member, found, own, ⟨passwordHash, hashed, verified⟩, _⟩ :=
        login_issues_iff.mp ⟨response, mem_toOption.mp issued, rfl⟩
      obtain ⟨stored, provider, subject⟩ := findSubject?_ok found
      exact ⟨member, stored, own, .password provider (email.trans subject.symm) hashed
        (by rw [password]; exact verified)⟩
  | registered email verified =>
      obtain ⟨next, returned⟩ := mem_map_fst.mp issued
      obtain ⟨member, stored, named, provider, subject, hashed⟩ := register_login returned
      refine ⟨member, ?_, named, .password provider (email.trans subject.symm) hashed verified⟩
      simp only [serverStep, ServerState.answer, returned, Except.map, Api.commit]
      exact stored
  | linked email verified =>
      obtain ⟨next, returned⟩ := mem_map_fst.mp issued
      obtain ⟨member, stored, named, provider, subject, hashed⟩ := linkAccount_login returned
      refine ⟨member, ?_, named, .password provider (email.trans subject.symm) hashed verified⟩
      simp only [serverStep, ServerState.answer, returned, Except.map, Api.commit]
      exact stored

end Unlocks

/-! ## The same tokens -/

section Same

variable {db next : Database} {first later : TokenResponse}

theorem Names.unique (firstNames : Names db first) (laterNames : Names db later)
    (sameMember : later.memberId = first.memberId) : later = first := by
  obtain ⟨firstMember, firstStored, firstNamed, firstHome, firstRole⟩ := firstNames.member
  obtain ⟨laterMember, laterStored, laterNamed, laterHome, laterRole⟩ := laterNames.member
  have one : laterMember = firstMember := db.members.row_unique laterStored firstStored
    (laterNamed.trans (sameMember.trans firstNamed.symm))
  subst one
  have household := laterHome.symm.trans firstHome
  have role := laterRole.symm.trans firstRole
  have firstAccess := firstNames.access
  have laterAccess := laterNames.access
  have firstRefresh := firstNames.refresh
  have laterRefresh := laterNames.refresh
  cases first
  cases later
  simp_all

end Same

/-! ## The refresh token -/

def redeemedJti? : ServerEvent → Option String
  | .refresh request => request.payload.bind fun payload => payload.jti
  | _ => none

section Unspent

variable {pytz : String → Option TzInfo} {verifyPassword : String → String → Bool}
  {server : ServerState} {jti : String}

theorem unspent_step (event : ServerEvent) (unspent : server.redis.used jti = none)
    (other : jti ∉ redeemedJti? event) :
    (serverStep pytz verifyPassword server event).redis.used jti = none := by
  cases event with
  | refresh request =>
      simp only [serverStep, refresh]
      cases presented : request.payload with
      | none => exact unspent
      | some payload =>
          simp only
          split
          · rename_i named exp carries expires
            split
            · exact unspent
            · have different : jti ≠ named := by
                rintro rfl
                exact other (by simp [redeemedJti?, presented, carries])
              simp only [redeemRefreshToken, Store.setNx]
              split
              · exact (Function.update_of_ne different _ _).trans unspent
              · exact unspent
          · exact unspent
  | linkAccount request =>
      simp only [serverStep, ServerState.answer, linkAccount]
      split <;> exact unspent
  | _ => exact unspent

theorem unspent_run {events : List ServerEvent}
    (unspent : ∀ event ∈ events, jti ∉ redeemedJti? event) :
    (served pytz verifyPassword events).redis.used jti = none := by
  have meets : EachMeets (serverStep pytz verifyPassword)
      (fun _ event => jti ∉ redeemedJti? event) emptyServer events :=
    eachMeets_of_forall (fun _ event member => unspent event member) emptyServer
  exact (guarded_always (fun server => server.redis.used jti = none)
    (fun _ event free other => unspent_step event free other) rfl meets).at_end

end Unspent

/-! ## Every run -/

section Runs

variable (pytz : String → Option TzInfo) (verifyPassword : String → String → Bool)

/-- Presented again, the credentials of the first answer's member bring the same answer. -/
theorem presented_again {before between : List ServerEvent} {first again : ServerEvent}
    {response : TokenResponse}
    (issued : response ∈ tokens? verifyPassword (served pytz verifyPassword before) first)
    (unauthenticated : again.caller = none)
    (presents : Presents verifyPassword response.memberId
      (served pytz verifyPassword (before ++ first :: between)) again) :
    response ∈ tokens? verifyPassword
      (served pytz verifyPassword (before ++ first :: between)) again := by
  obtain ⟨member, stored, named, _⟩ := (tokens_still_name pytz verifyPassword issued).member
  have onFile : OnFile response.memberId
      (served pytz verifyPassword (before ++ first :: between)).world.db :=
    ⟨member, Table.find?_eq_some_iff.mpr ⟨stored, named⟩⟩
  obtain ⟨later, laterIssued, own⟩ := (tokens_iff onFile unauthenticated).mpr presents
  -- Both answers name the member as they are stored after the second one.
  have names := @tokens_still_name pytz verifyPassword before (between ++ [again]) first _ issued
  have laterNames := @tokens_name _ verifyPassword pytz _ again laterIssued
  rw [← served_snoc, List.append_assoc] at laterNames
  rw [← names.unique laterNames own]
  exact laterIssued

/-- Tokens once given are given again: at any later time the sign-in of the same Apple
account, or a login with the password that was sent or set, is answered as the first time
and changes nothing, as long as nobody has set other credentials for that member. -/
theorem members_return (before between : List ServerEvent) (first again : ServerEvent)
    (response : TokenResponse)
    (issued : response ∈ tokens? verifyPassword (served pytz verifyPassword before) first)
    (signsIn : SignsInAgain verifyPassword first again)
    (kept : EachMeets (serverStep pytz verifyPassword)
      (fun server event => ¬ SetsCredentials verifyPassword server response.memberId event)
      (served pytz verifyPassword (before ++ [first])) between)
    (admitted : Admitted (served pytz verifyPassword (before ++ first :: between)) again) :
    let server := served pytz verifyPassword (before ++ first :: between)
    response ∈ tokens? verifyPassword server again ∧
      (serverStep pytz verifyPassword server again).world = server.world := by
  intro server
  obtain ⟨families, distinct⟩ :=
    (accounts_always pytz verifyPassword (before ++ first :: between)).at_end
  rw [served_snoc] at kept
  have held : ∃ member ∈ server.world.db.members.rows,
      member.id = response.memberId ∧ Unlocks verifyPassword member again := by
    unfold server
    rw [served_after]
    refine (guarded_always (fun server => ∃ member ∈ server.world.db.members.rows,
      member.id = response.memberId ∧ Unlocks verifyPassword member again) ?_
      (signsIn.unlocks issued) kept).at_end
    rintro state event ⟨member, stored, named, unlocks⟩ unset
    rcases serverStep_credentials pytz event stored with ⟨later, laterStored, sameId, same⟩ | sets
    · exact ⟨later, laterStored, sameId.trans named, unlocks.later same⟩
    · rw [named] at sets
      exact absurd sets unset
  obtain ⟨member, stored, named, unlocks⟩ := held
  have unauthenticated : again.caller = none := by cases unlocks <;> rfl
  have presents := unlocks.presents families distinct stored admitted
  rw [named] at presents
  exact ⟨presented_again pytz verifyPassword issued unauthenticated presents,
    unlocks.world_same families distinct stored⟩

/-- At any later time a refresh token of the answer that has not been redeemed brings the
same answer, and no row changes; then it brings none while the record of it lasts. -/
theorem sessions_continue (before between : List ServerEvent) (first : ServerEvent)
    (response : TokenResponse) (again : Refresh) (jti : String) (exp : Int)
    (issued : response ∈ tokens? verifyPassword (served pytz verifyPassword before) first)
    (payload : again.payload = some ⟨response.refreshToken.sub, some jti, some exp⟩)
    (named : jti ≠ "") (expires : exp ≠ 0)
    (unspent : ∀ event ∈ before ++ first :: between, jti ∉ redeemedJti? event) :
    let server := served pytz verifyPassword (before ++ first :: between)
    let next := serverStep pytz verifyPassword server (.refresh again)
    response ∈ tokens? verifyPassword server (.refresh again) ∧ next.world = server.world ∧
      ∀ later : Refresh, later.payload = again.payload →
        later.now < again.now + recordTtl exp again.read →
          tokens? verifyPassword next (.refresh later) = none := by
  intro server next
  have own : response.refreshToken.sub = response.memberId := by
    rw [(@tokens_name _ verifyPassword pytz _ first issued).refresh]
  have free : server.redis.used.get again.now jti = none := by
    simp only [Store.get, server, unspent_run unspent]
  refine ⟨presented_again pytz verifyPassword issued rfl
    ⟨_, jti, exp, payload, own, rfl, rfl, named, expires, free⟩, rfl, ?_⟩
  intro later samePayload soon
  have spent : next.redis.used.get later.now jti = some "1" := by
    simp only [next, serverStep, refresh, payload, named, expires, or_self, if_false,
      redeemRefreshToken, Store.setNx_granted free]
    rw [Store.get_set_self, if_pos soon]
  rw [payload] at samePayload
  simp only [tokens?, refresh, samePayload, named, expires, or_self, if_false,
    redeemRefreshToken, Store.setNx_refused spent]
  rfl

end Runs

/-! ## A parent who comes back -/

def sameAsStored (password passwordHash : String) : Bool := passwordHash == password

def parentTokens : TokenResponse := ⟨⟨1, 1⟩, ⟨1⟩, 1, 1, .parent⟩

theorem members_return_sample :
    let again : ServerEvent := .login ⟨nightOf 3, "203.0.113.9", "parent@example.org", "hash"⟩
    let server := served utcOnly sameAsStored ([] ++ registration :: choreSetup)
    parentTokens ∈ tokens? sameAsStored server again ∧
      (serverStep utcOnly sameAsStored server again).world = server.world := by
  refine members_return utcOnly sameAsStored [] choreSetup registration _ parentTokens
    (by decide +kernel) (.registered rfl (by decide +kernel)) ⟨nofun, nofun, trivial⟩ ?_
  show (checkBoth _ _ _ _ _ _).1 = true
  decide +kernel

def parentRefresh (day : Int) : Refresh where
  read := day * 86400
  now := day * 86400
  payload := some ⟨1, some "first", some (30 * 86400)⟩

theorem sessions_continue_sample :
    let server := served utcOnly sameAsStored ([] ++ registration :: choreSetup)
    let next := serverStep utcOnly sameAsStored server (.refresh (parentRefresh 3))
    parentTokens ∈ tokens? sameAsStored server (.refresh (parentRefresh 3)) ∧
      next.world = server.world ∧
        ∀ later : Refresh, later.payload = (parentRefresh 3).payload →
          later.now < (parentRefresh 3).now + recordTtl (30 * 86400) (parentRefresh 3).read →
            tokens? sameAsStored next (.refresh later) = none := by
  refine sessions_continue utcOnly sameAsStored [] choreSetup registration parentTokens
    (parentRefresh 3) "first" (30 * 86400) (by decide +kernel) rfl (by decide) (by decide) ?_
  intro event member
  rcases List.mem_cons.mp member with rfl | member
  · exact Option.not_mem_none _
  · rcases List.mem_pair.mp member with rfl | rfl <;> exact Option.not_mem_none _

end KidsChores.Properties
