import KidsChores.Properties.NoDeadEnds

/-!
# Logins

No two members share a login: the lookups of the auth router alone see to it, one request
after another, and the unique indexes behind them have nothing to refuse.  And a login is
its member's own: it changes by their password or by the link of a pending profile.
-/

set_option autoImplicit false

namespace KidsChores.Properties

open KidsChores.Api
open KidsChores.Library
open KidsChores.Library.PyDatetime
open KidsChores.Library.Runs
open KidsChores.Models
open KidsChores.Routers
open KidsChores.Routers.Approvals
open KidsChores.Routers.Auth
open KidsChores.Routers.Household
open KidsChores.Server
open KidsChores.Services.Linking
open KidsChores.Services.RateLimit
open KidsChores.Session

/-! ## One login, one member -/

/-- `uq_member_auth` and `uq_member_auth_provider_subject_global`. -/
def LoginsDistinct (db : Database) : Prop :=
  ∀ first ∈ db.members.rows, ∀ second ∈ db.members.rows,
    first.authSubject = second.authSubject →
    first.householdId = second.householdId ∨ first.authProvider = second.authProvider →
      first = second

section Distinct

variable {db next : Database}

theorem logins_append (distinct : LoginsDistinct db) {build : Uuid → Member}
    (keyed : ∀ id, (build id).id = id)
    (free : ∀ member ∈ db.members.rows,
      member.authSubject = (build db.members.freshKey).authSubject →
        ¬ (member.householdId = (build db.members.freshKey).householdId ∨
          member.authProvider = (build db.members.freshKey).authProvider)) :
    LoginsDistinct { db with members := db.members.append build keyed } := by
  intro first firstStored second secondStored sameSubject shared
  rcases List.mem_append.mp firstStored with firstOld | firstNew
  · rcases List.mem_append.mp secondStored with secondOld | secondNew
    · exact distinct first firstOld second secondOld sameSubject shared
    · rw [List.mem_singleton.mp secondNew] at sameSubject shared
      exact absurd shared (free first firstOld sameSubject)
  · rcases List.mem_append.mp secondStored with secondOld | secondNew
    · rw [List.mem_singleton.mp firstNew] at sameSubject shared
      refine absurd ?_ (free second secondOld sameSubject.symm)
      exact shared.imp Eq.symm Eq.symm
    · rw [List.mem_singleton.mp firstNew, List.mem_singleton.mp secondNew]

theorem logins_founded (distinct : LoginsDistinct db) (families : Families db)
    {displayName subject : String} {provider : AuthProvider} {passwordHash : Option String}
    {response : TokenResponse}
    (founded : foundFamily db displayName provider subject passwordHash =
      .ok (response, next)) (fresh : findSubject? db provider subject = none) :
    LoginsDistinct next := by
  unfold foundFamily at founded
  split at founded
  · cases founded
  · cases founded
    refine logins_append distinct (fun _ => rfl) ?_
    rintro member stored sameSubject (sameHousehold | sameProvider)
    · obtain ⟨household, householdStored, named⟩ := families.homes member stored
      have older : household.id < db.households.freshKey := Table.key_lt_freshKey householdStored
      rw [named, sameHousehold] at older
      exact absurd older (Nat.lt_irrefl _)
    · have unused := List.find?_eq_none.mp fresh member stored
      exact unused (decide_eq_true ⟨sameProvider, sameSubject⟩)

theorem logins_saved (distinct : LoginsDistinct db) {member edited : Member}
    (stored : member ∈ db.members.rows) (sameId : edited.id = member.id)
    (sameHousehold : edited.householdId = member.householdId)
    (subject : SameSubject member edited ∨ ¬ SubjectTakenElsewhere db edited) :
    LoginsDistinct { db with members := db.members.save edited } := by
  have free : ∀ other ∈ db.members.rows, other.id ≠ edited.id →
      other.authSubject = edited.authSubject →
        ¬ (other.householdId = edited.householdId ∨
          other.authProvider = edited.authProvider) := by
    intro other otherStored different sameSubject shared
    rcases subject with same | untaken
    · rw [same.authSubject] at sameSubject
      rw [sameHousehold, same.authProvider] at shared
      have one := distinct other otherStored member stored sameSubject shared
      exact different ((congrArg Member.id one).trans sameId.symm)
    · exact untaken ⟨other, otherStored, different, sameSubject, shared⟩
  intro first firstStored second secondStored sameSubject shared
  rcases Table.mem_save.mp firstStored with ⟨rfl, _⟩ | ⟨firstOld, firstOther⟩
  · rcases Table.mem_save.mp secondStored with ⟨rfl, _⟩ | ⟨secondOld, secondOther⟩
    · rfl
    · refine absurd ?_ (free second secondOld secondOther sameSubject.symm)
      exact shared.imp Eq.symm Eq.symm
  · rcases Table.mem_save.mp secondStored with ⟨rfl, _⟩ | ⟨secondOld, _⟩
    · exact absurd shared (free first firstOld firstOther sameSubject)
    · exact distinct first firstOld second secondOld sameSubject shared

theorem write_logins (families : Families db) (distinct : LoginsDistinct db)
    (write : Write db next) : LoginsDistinct next := by
  cases write with
  | familyFounded founded fresh => exact logins_founded distinct families founded fresh
  | teenAdded keyed _ _ free =>
      exact logins_append distinct keyed fun member stored same shared =>
        free ⟨member, stored, same, shared⟩
  | memberSaved stored sameId sameHousehold _ subject =>
      exact logins_saved distinct stored sameId sameHousehold subject
  | called | generated | swept | adjusted | claimed | claimResolved | definitionAdded
  | definitionSaved | seriesAdded | seriesSaved | householdSaved => exact distinct

theorem accounts_always (pytz : String → Option TzInfo)
    (verifyPassword : String → String → Bool) (events : List ServerEvent) :
    Always (serverStep pytz verifyPassword)
      (fun server => Families server.world.db ∧ LoginsDistinct server.world.db)
      emptyServer events := by
  refine writes_always (fun db => Families db ∧ LoginsDistinct db)
    ⟨families_empty, List.forall_mem_nil _⟩ ?_ events
  rintro db next _ ⟨families, distinct⟩ write
  exact ⟨⟨write_homes families write, write_parents families write⟩,
    write_logins families distinct write⟩

/-- In every state of a run no two members have the same provider and subject, and no two
of a household the same subject. -/
theorem logins_distinct (pytz : String → Option TzInfo)
    (verifyPassword : String → String → Bool) (events : List ServerEvent) :
    Always (serverStep pytz verifyPassword) (fun server => LoginsDistinct server.world.db)
      emptyServer events :=
  (accounts_always pytz verifyPassword events).imp fun _ held => held.2

end Distinct

/-! ## Whose login changes -/

structure SameCredentials (member later : Member) : Prop where
  subject : SameSubject member later
  passwordHash : later.passwordHash = member.passwordHash
  pinHash : later.pinHash = member.pinHash

def CredentialsStay (next : Database) (member : Member) : Prop :=
  ∃ later ∈ next.members.rows, later.id = member.id ∧ SameCredentials member later

/-- The two requests that write the credentials of a member: theirs to change the password,
with the one they have, and a link under the code made for their pending profile. -/
inductive SetsCredentials (verifyPassword : String → String → Bool) (server : ServerState)
    (memberId : Uuid) : ServerEvent → Prop where
  | password {request : ChangePassword} {member : Member} {passwordHash : String}
      (own : request.memberId = memberId)
      (found : server.world.db.members.find? memberId = some member)
      (stored : member.passwordHash = some passwordHash)
      (verified : verifyPassword request.currentPassword passwordHash = true) :
      SetsCredentials verifyPassword server memberId (.changePassword request)
  | link {request : LinkAccount} {member : Member}
      (redeemed : (redeemLinkCode server.redis.links request.now request.code).1 =
        some memberId)
      (found : server.world.db.members.find? memberId = some member)
      (teen : member.role = .teen) (pending : Pending member.householdId member) :
      SetsCredentials verifyPassword server memberId (.linkAccount request)

section Step

variable {db next : Database} {member : Member}

theorem SameCredentials.refl (member : Member) : SameCredentials member member :=
  ⟨⟨rfl, rfl⟩, rfl, rfl⟩

theorem SameCredentials.trans {second third : Member} (early : SameCredentials member second)
    (late : SameCredentials second third) : SameCredentials member third :=
  ⟨⟨late.subject.authProvider.trans early.subject.authProvider,
      late.subject.authSubject.trans early.subject.authSubject⟩,
    late.passwordHash.trans early.passwordHash, late.pinHash.trans early.pinHash⟩

theorem credentials_of_mem (stored : member ∈ next.members.rows) :
    CredentialsStay next member :=
  ⟨member, stored, rfl, .refl member⟩

theorem credentials_of_save {saved edited : Member} (stored : member ∈ db.members.rows)
    (savedStored : saved ∈ db.members.rows) (sameId : edited.id = saved.id)
    (same : member.id = saved.id → SameCredentials saved edited) :
    CredentialsStay { db with members := db.members.save edited } member := by
  by_cases hit : member.id = edited.id
  · have named := hit.trans sameId
    have one := db.members.row_unique stored savedStored named
    refine ⟨edited, Table.mem_save.mpr (Or.inl ⟨rfl, member, stored, hit⟩), hit.symm, ?_⟩
    rw [one]
    exact same named
  · exact credentials_of_mem (Table.mem_save.mpr (Or.inr ⟨stored, hit⟩))

theorem apiEffect_credentials {pytz : String → Option TzInfo} {event : ApiEvent}
    (stored : member ∈ db.members.rows) (effect : ApiEffect pytz db event next) :
    CredentialsStay next member := by
  cases effect with
  | definitionCreated created =>
      rw [created.committed]
      exact credentials_of_mem stored
  | completed acts effect check =>
      cases check with
      | unlinked => exact credentials_of_mem stored
      | gone => exact credentials_of_mem stored
      | evaluated _ _ evaluation => cases evaluation <;> exact credentials_of_mem stored
  | batched loaded ran =>
      exact batch_keeps (fun later => CredentialsStay later member) (fun _ _ _ kept => kept)
        (credentials_of_mem stored) loaded ran
  | teenAdded => exact credentials_of_mem (List.mem_append_left _ stored)
  | memberRemoved savedStored =>
      exact credentials_of_save stored savedStored rfl fun _ => ⟨⟨rfl, rfl⟩, rfl, rfl⟩
  | generated run =>
      rw [run.committed]
      exact credentials_of_mem stored
  | _ => exact credentials_of_mem stored

theorem foundFamily_credentials {displayName subject : String} {provider : AuthProvider}
    {passwordHash : Option String} {response : TokenResponse}
    (founded : foundFamily db displayName provider subject passwordHash =
      .ok (response, next)) (stored : member ∈ db.members.rows) :
    CredentialsStay next member := by
  unfold foundFamily at founded
  split at founded
  · cases founded
  · cases founded
    exact credentials_of_mem (List.mem_append_left _ stored)

theorem signInWithApple_credentials {request : AppleSignIn} {response : TokenResponse}
    (returned : signInWithApple request db = .ok (response, next))
    (stored : member ∈ db.members.rows) : CredentialsStay next member := by
  unfold signInWithApple at returned
  split at returned
  · cases returned
  · split at returned
    · exact foundFamily_credentials returned stored
    · split at returned
      · cases returned
      · cases returned
        exact credentials_of_mem stored

theorem register_credentials {request : Register} {counters : Counters}
    {response : TokenResponse}
    (returned : (register request db counters).1 = .ok (response, next))
    (stored : member ∈ db.members.rows) : CredentialsStay next member := by
  simp only [register] at returned
  split at returned
  · cases returned
  · split at returned
    · cases returned
    · exact foundFamily_credentials returned stored

variable {verifyPassword : String → String → Bool} {server : ServerState}

/-- A changed password is the caller's, who knew the one before. -/
theorem changePassword_credentials {request : ChangePassword} {counters : Counters}
    (returned : (changePassword verifyPassword request server.world.db counters).1 = .ok next)
    (stored : member ∈ server.world.db.members.rows) :
    CredentialsStay next member ∨
      SetsCredentials verifyPassword server member.id (.changePassword request) := by
  unfold changePassword at returned
  split at returned
  · cases returned
  · rename_i caller found
    have callerFound := getCurrentMember_ok found
    split at returned
    · rename_i passwordHash _ hashed
      simp only at returned
      split at returned
      · cases returned
      · split at returned
        · cases returned
        · rename_i verified
          cases returned
          by_cases own : member.id = caller.id
          · have named := Table.key_of_find? callerFound
            rw [own]
            rw [← named] at callerFound
            exact Or.inr (.password named.symm callerFound hashed (not_not.mp verified))
          · exact Or.inl (credentials_of_save stored (Table.mem_of_find? callerFound) rfl
              fun same => absurd same own)
    · cases returned

theorem linkAccount_credentials {request : LinkAccount} {response : TokenResponse}
    (returned : (linkAccount request server.world.db server.redis).1 = .ok (response, next))
    (stored : member ∈ server.world.db.members.rows) :
    CredentialsStay next member ∨
      SetsCredentials verifyPassword server member.id (.linkAccount request) := by
  obtain ⟨_, memberId, redeemed, converted⟩ := linkAccount_ok returned
  obtain ⟨linked, found, teen, pending, _, _, _, rfl⟩ := linkMember_ok converted
  by_cases own : member.id = linked.id
  · have named := Table.key_of_find? found
    rw [own]
    rw [← named] at found redeemed
    exact Or.inr (.link redeemed found teen pending)
  · exact Or.inl (credentials_of_save stored (Table.mem_of_find? found) rfl
      fun same => absurd same own)

theorem updatePushToken_credentials {request : UpdatePushToken}
    (returned : updatePushToken request db = .ok next) (stored : member ∈ db.members.rows) :
    CredentialsStay next member := by
  unfold updatePushToken at returned
  obtain ⟨caller, found, returned⟩ := bind_ok returned
  split at returned
  · cases returned
  · cases returned
    exact credentials_of_save stored (Table.mem_of_find? (getCurrentMember_ok found)) rfl
      fun _ => ⟨⟨rfl, rfl⟩, rfl, rfl⟩

/-- What a transaction that changes credentials does, if it commits. -/
theorem answer_credentials {Error : Type} {event : ServerEvent} {redis : Redis}
    {result : Except Error Database} (stored : member ∈ server.world.db.members.rows)
    (kept : ∀ next, result = .ok next → CredentialsStay next member ∨
      SetsCredentials verifyPassword server member.id event) :
    CredentialsStay (server.answer redis result).world.db member ∨
      SetsCredentials verifyPassword server member.id event := by
  cases result with
  | error raised => exact Or.inl (credentials_of_mem stored)
  | ok next => exact kept next rfl

theorem serverStep_credentials (pytz : String → Option TzInfo) (event : ServerEvent)
    (stored : member ∈ server.world.db.members.rows) :
    CredentialsStay (serverStep pytz verifyPassword server event).world.db member ∨
      SetsCredentials verifyPassword server member.id event := by
  cases event with
  | api event => exact Or.inl (apiEffect_credentials stored (apiStep_effect event))
  | signInWithApple request =>
      refine answer_credentials stored fun next returned => ?_
      obtain ⟨response, signedIn⟩ := map_snd_ok returned
      exact Or.inl (signInWithApple_credentials signedIn stored)
  | register request =>
      refine answer_credentials stored fun next returned => ?_
      obtain ⟨response, registered⟩ := map_snd_ok returned
      exact Or.inl (register_credentials registered stored)
  | linkAccount request =>
      refine answer_credentials stored fun next returned => ?_
      obtain ⟨response, linked⟩ := map_snd_ok returned
      exact linkAccount_credentials linked stored
  | changePassword request =>
      exact answer_credentials stored fun next returned =>
        changePassword_credentials returned stored
  | updatePushToken request =>
      exact answer_credentials stored fun next returned =>
        Or.inl (updatePushToken_credentials returned stored)
  | generateLinkCode request => exact Or.inl (credentials_of_mem stored)
  | verifyMemberPin request => exact Or.inl (credentials_of_mem stored)
  | login request => exact Or.inl (credentials_of_mem stored)
  | refresh request => exact Or.inl (credentials_of_mem stored)

end Step

/-! ## Over a run -/

section Runs

variable (pytz : String → Option TzInfo) (verifyPassword : String → String → Bool)

/-- The member still has the credentials they had, or somewhere in the run a request set
them. -/
def CredentialsTrail (server : ServerState) (events : List ServerEvent) (member : Member) :
    Prop :=
  CredentialsStay (runFrom (serverStep pytz verifyPassword) server events).world.db member ∨
    ∃ before event after, events = before ++ event :: after ∧
      SetsCredentials verifyPassword (runFrom (serverStep pytz verifyPassword) server before)
        member.id event

def CredentialsOwn (server : ServerState) (events : List ServerEvent) : Prop :=
  ∀ member ∈ server.world.db.members.rows,
    CredentialsTrail pytz verifyPassword server events member

theorem credentials_run (server : ServerState) (events : List ServerEvent)
    {member : Member} (stored : member ∈ server.world.db.members.rows) :
    CredentialsTrail pytz verifyPassword server events member := by
  induction events generalizing server member with
  | nil => exact Or.inl (credentials_of_mem stored)
  | cons event rest ih =>
      rcases @serverStep_credentials member verifyPassword server pytz event stored with
        ⟨later, laterStored, sameId, same⟩ | sets
      · rcases ih (serverStep pytz verifyPassword server event) laterStored with
          ⟨last, lastStored, lastId, lastSame⟩ | ⟨before, setter, after, split, sets⟩
        · exact Or.inl ⟨last, lastStored, lastId.trans sameId, same.trans lastSame⟩
        · rw [sameId] at sets
          exact Or.inr ⟨event :: before, setter, after, congrArg (event :: ·) split, sets⟩
      · exact Or.inr ⟨[], event, rest, rfl, sets⟩

/-- However a run goes on, the provider, the subject, the password and the PIN of a member
are what they were, unless the member changed the password, giving the one before, or
someone redeemed the code for their pending profile. -/
theorem credentials_own (server : ServerState) (events : List ServerEvent) :
    CredentialsOwn pytz verifyPassword server events :=
  fun _ stored => credentials_run pytz verifyPassword server events stored

end Runs

end KidsChores.Properties
