import KidsChores.Properties.HouseholdReplies

/-!
# Where households meet

A PIN is counted before its member is looked up, the series of a new definition is looked
up whosever it is, and the placeholder of a new profile is unique among all households.
Each of the three requests interferes with other households exactly where it meets theirs.
-/

set_option autoImplicit false

namespace KidsChores.Properties

open KidsChores.Api
open KidsChores.Library
open KidsChores.Library.Expiring
open KidsChores.Library.PyDatetime
open KidsChores.Library.Slices
open KidsChores.Models
open KidsChores.Routers
open KidsChores.Routers.Definitions
open KidsChores.Routers.Household
open KidsChores.Routers.SavingsGoals
open KidsChores.Services.RateLimit
open KidsChores.Session
open KidsChores.Site
open KidsChores.Workers.GenerateInstances

/-! ## Attempts at a PIN -/

def pinKey (memberId : Uuid) : String := "verify-pin:member:" ++ toString memberId

def pinAnswer (request : VerifyMemberPin) (db : Database) (household : Models.Household) :
    Except RequestError VerifyPinResponse :=
  match findOwn? db.members Member.householdId household.id request.targetId with
  | none => .error (.http 404 "Member not found.")
  | some target =>
      match target.pinHash with
      | none => .ok ⟨false, false⟩
      | some pinHash => .ok ⟨request.hashPin request.pin = pinHash, true⟩

theorem verifyMemberPin_eq (request : VerifyMemberPin) (db : Database) (counters : Counters) :
    verifyMemberPin request db counters =
      match loadCaller db request.memberId with
      | .error raised => (.error raised, counters)
      | .ok (_, household) =>
          let (within, counted) :=
            checkRateLimit counters request.now (pinKey request.targetId) verifyPinLimit
          (if ¬ within then .error tooManyAttempts else pinAnswer request db household,
            counted) := by
  unfold verifyMemberPin loadCaller pinAnswer findOwn?
  cases getCurrentMember db request.memberId with
  | error raised => rfl
  | ok member =>
      simp only [bind, Except.bind, pure, Except.pure]
      cases getCurrentHousehold db member with
      | error raised => rfl
      | ok household =>
          cases db.members.find? request.targetId with
          | none =>
              simp only [Option.filter_none]
              rfl
          | some target =>
              by_cases own : target.householdId = household.id
              · simp only [own, ne_eq, not_true, if_false, Option.filter_some, decide_true,
                  if_true]
                rfl
              · simp only [own, ne_eq, not_false_eq_true, if_true, Option.filter_some,
                  decide_false, Bool.false_eq_true, if_false]
                rfl

section Attempts

variable {counters others : Counters} {now : Instant} {memberId targetId : Uuid} {limit : Limit}

theorem attemptsOf_other (different : memberId ≠ targetId) :
    attemptsOf (checkRateLimit counters now (pinKey targetId) limit).2 memberId =
      attemptsOf counters memberId := by
  have pin : (checkRateLimit counters now (pinKey targetId) limit).2
      ("verify-pin:member:" ++ toString memberId) = counters _ :=
    Store.incr_other (mt pinKey_inj different)
  have password : (checkRateLimit counters now (pinKey targetId) limit).2
      ("change-password:member:" ++ toString memberId) = counters _ :=
    Store.incr_other (passwordKey_ne _ _)
  simp only [attemptsOf, pin, password]

theorem attemptsOf_same (same : attemptsOf counters memberId = attemptsOf others memberId)
    (now : Instant) (targetId : Uuid) (limit : Limit) :
    attemptsOf (checkRateLimit counters now (pinKey targetId) limit).2 memberId =
      attemptsOf (checkRateLimit others now (pinKey targetId) limit).2 memberId := by
  by_cases hit : memberId = targetId
  · rw [← hit]
    have pin := congrArg Attempts.verifyPin same
    have password := congrArg Attempts.changePassword same
    have counted : (checkRateLimit counters now (pinKey memberId) limit).2
        ("verify-pin:member:" ++ toString memberId) =
          (checkRateLimit others now (pinKey memberId) limit).2 _ := Store.incr_same pin pin
    have kept : (checkRateLimit counters now (pinKey memberId) limit).2
        ("change-password:member:" ++ toString memberId) =
          (checkRateLimit others now (pinKey memberId) limit).2 _ := Store.incr_same pin password
    simp only [attemptsOf, counted, kept]
  · rw [attemptsOf_other hit, attemptsOf_other hit, same]

theorem attemptsOf_counted (lasts : 0 < limit.windowSeconds) :
    attemptsOf (checkRateLimit counters now (pinKey memberId) limit).2 memberId ≠
      attemptsOf counters memberId := by
  intro same
  have positive : (0 : Int) < timedeltaSeconds limit.windowSeconds :=
    Int.mul_pos lasts (by decide)
  have later : now < now + timedeltaSeconds limit.windowSeconds := lt_add_of_pos_right now positive
  exact Store.incr_self_ne later (congrArg Attempts.verifyPin same)

end Attempts

def PinSpent (site : SiteState) (now : Instant) (memberId : Uuid) : Prop :=
  verifyPinLimit.maxAttempts ≤
    (site.server.redis.counters.get now (pinKey memberId)).getD 0

theorem pinSpent_iff {site : SiteState} {now : Instant} {memberId : Uuid} :
    PinSpent site now memberId ↔ (checkRateLimit site.server.redis.counters now
      (pinKey memberId) verifyPinLimit).1 = false := by
  rw [← Bool.not_eq_true, checkRateLimit_within, not_lt]
  rfl

theorem pinAnswer_ne (request : VerifyMemberPin) (db : Database)
    (household : Models.Household) :
    replyOf 200 ((pinAnswer request db household).map .pin) ≠ failureOf tooManyAttempts := by
  unfold pinAnswer
  split
  · simp [Except.map, replyOf, failureOf, tooManyAttempts]
  · split <;> simp [Except.map, replyOf, failureOf, tooManyAttempts]

/-- The attempt counts against nobody else's member, and is within the limit in both
states or in neither. -/
structure PinConfined (home : Uuid) (site other : SiteState) (request : VerifyMemberPin) :
    Prop where
  own : ∀ target, site.db.members.find? request.targetId = some target →
    target.householdId = home
  limit : PinSpent site request.now request.targetId ↔
    PinSpent other request.now request.targetId

section Pin

variable {pytz : String → Option TzInfo} {home : Uuid} {site other : SiteState}

theorem pinAnswer_same (agree : Agree home site other) {request : VerifyMemberPin}
    {household : Models.Household} (own : household.id = home) :
    pinAnswer request site.db household = pinAnswer request other.db household := by
  unfold pinAnswer
  rw [own, findOwnMember_same agree.holdings]

theorem respond_verifyMemberPin {request : VerifyMemberPin} {caller : Member}
    {household : Models.Household}
    (loaded : loadCaller site.db request.memberId = .ok (caller, household)) :
    (respond pytz site (.verifyMemberPin request)).2 =
        replyOf 200 ((if ¬ (checkRateLimit site.server.redis.counters request.now
          (pinKey request.targetId) verifyPinLimit).1 then .error tooManyAttempts
          else pinAnswer request site.db household).map .pin) ∧
      (respond pytz site (.verifyMemberPin request)).1 =
        { site with server := { site.server with
            redis := { site.server.redis with
              counters := (checkRateLimit site.server.redis.counters request.now
                (pinKey request.targetId) verifyPinLimit).2 } } } := by
  simp only [respond, verifyMemberPin_eq]
  rw [loaded]
  exact ⟨rfl, rfl⟩

variable (agree : Agree home site other) (settled : SettledSite site)
  (otherSettled : SettledSite other) {request : VerifyMemberPin}
  (asks : AsksFrom home site.db request.memberId)
include agree settled otherSettled asks

theorem verifyMemberPin_confined
    (confined : ∀ caller, loadCaller site.db request.memberId = .ok caller →
      PinConfined home site other request) :
    NonInterfering pytz home site other (.verifyMemberPin request) := by
  have loads := loadCaller_same asks agree.holdings
  cases loaded : loadCaller site.db request.memberId with
  | error raised =>
      have refused : ∀ {site : SiteState}, loadCaller site.db request.memberId = .error raised →
          respond pytz site (.verifyMemberPin request) = (site, failureOf raised) := by
        intro site loaded
        simp only [respond, verifyMemberPin_eq]
        rw [loaded]
        rfl
      refine Served.nonInterfering ?_ ?_ agree settled otherSettled (by simp)
      · rw [refused loaded, refused (loads.symm.trans loaded)]
        exact served_read agree
      · rw [refused loaded, refused (loads.symm.trans loaded)]
  | ok caller =>
      obtain ⟨own, limit⟩ := confined caller loaded
      obtain ⟨member, household⟩ := caller
      obtain ⟨reply, next⟩ := @respond_verifyMemberPin pytz site _ _ _ loaded
      obtain ⟨otherReply, otherNext⟩ :=
        @respond_verifyMemberPin pytz other _ _ _ (loads.symm.trans loaded)
      refine Served.nonInterfering ?_ ?_ agree settled otherSettled (by simp)
      · rw [next, otherNext]
        refine ⟨.refl agree.holdings, fun memberId owned => ?_,
          fun away memberId foreign owned => ?_, rfl, rfl⟩
        · have held := agree.keys memberId owned
          rw [keysOf_counters site.server, keysOf_counters other.server, held,
            attemptsOf_same (congrArg MemberKeys.attempts held)]
        · refine attemptsOf_other ?_
          rintro rfl
          obtain ⟨target, found, ofAway⟩ := found_of_owner? owned
          exact foreign (ofAway.symm.trans (own target found))
      · rw [pinSpent_iff, pinSpent_iff] at limit
        have verdicts : (checkRateLimit site.server.redis.counters request.now
            (pinKey request.targetId) verifyPinLimit).1 =
              (checkRateLimit other.server.redis.counters request.now
                (pinKey request.targetId) verifyPinLimit).1 := by
          rw [Bool.eq_iff_iff, ← not_iff_not]
          simpa using limit
        rw [reply, otherReply, verdicts,
          pinAnswer_same agree (loadCaller_from asks loaded).ofHousehold]

theorem verifyMemberPin_iff :
    NonInterfering pytz home site other (.verifyMemberPin request) ↔
      ∀ caller, loadCaller site.db request.memberId = .ok caller →
        PinConfined home site other request := by
  refine ⟨fun apart => ?_, verifyMemberPin_confined agree settled otherSettled asks⟩
  rintro ⟨caller, household⟩ loaded
  have otherLoaded := (loadCaller_same asks agree.holdings).symm.trans loaded
  obtain ⟨reply, next⟩ := @respond_verifyMemberPin pytz site _ _ _ loaded
  obtain ⟨otherReply, _⟩ := @respond_verifyMemberPin pytz other _ _ _ otherLoaded
  constructor
  · intro target found
    by_contra foreign
    have counted := (apart.untouched target.householdId foreign).attempts request.targetId
      (owner?_of_find? found)
    rw [next] at counted
    exact attemptsOf_counted (by decide) counted
  · have same := apart.reply
    rw [reply, otherReply] at same
    rw [pinSpent_iff, pinSpent_iff]
    cases within : (checkRateLimit site.server.redis.counters request.now
        (pinKey request.targetId) verifyPinLimit).1 <;>
      cases otherWithin : (checkRateLimit other.server.redis.counters request.now
        (pinKey request.targetId) verifyPinLimit).1
    · exact iff_of_true rfl rfl
    · rw [within, otherWithin] at same
      exact absurd same.symm (pinAnswer_ne request other.db household)
    · rw [within, otherWithin] at same
      exact absurd same (pinAnswer_ne request site.db household)
    · simp

end Pin

/-! ## Transactions -/

section Writes

variable {pytz : String → Option TzInfo} {home : Uuid} {site other : SiteState}
variable (agree : Agree home site other) (settled : SettledSite site)
  (otherSettled : SettledSite other)
include agree settled otherSettled

theorem write_nonInterfering {request : HouseholdRequest} {statusCode : Nat}
    {result otherResult : Except RequestError Database}
    {body otherBody : Except RequestError Body}
    (write : respond pytz site request = site.write statusCode result body)
    (otherWrite : respond pytz other request = other.write statusCode otherResult otherBody)
    (outcome : SameCommit home site.db result otherResult)
    (bodies : ∀ next, result = .ok next → body = otherBody)
    (joins : ∀ added, request ≠ .createTeenProfile added) :
    NonInterfering pytz home site other request := by
  refine Served.nonInterfering ?_ ?_ agree settled otherSettled joins
  · rw [write, otherWrite]
    exact outcome.served agree statusCode body otherBody
  · rw [write, otherWrite]
    exact outcome.reply bodies

end Writes

/-! ### A new profile -/

/-- The request passes its checks, the one on the placeholder aside. -/
structure TeenAccepted (request : CreateTeenProfile) : Prop where
  age : ∃ birthDate ∈ strptimeDate? request.body.birthdate,
    13 ≤ ageYears birthDate (naiveDate request.now)
  name : storableText (some request.body.displayName) = true

/-- The placeholder is taken in both states or in neither, where it matters. -/
def TeenConfined (site other : SiteState) (request : CreateTeenProfile) : Prop :=
  ∀ parent household, loadParent site.db request.memberId = .ok (parent, household) →
    TeenAccepted request →
      (SubjectTaken site.db
          (request.body.teen request.hashPin household site.db.members.freshKey) ↔
        SubjectTaken other.db
          (request.body.teen request.hashPin household site.db.members.freshKey))

section Profiles

variable {request : CreateTeenProfile} {db other : Database} {parent : Member}
  {household : Models.Household}

theorem createTeenProfile_accepted
    (loaded : loadParent db request.memberId = .ok (parent, household))
    (accepted : TeenAccepted request) :
    createTeenProfile request db =
      if SubjectTaken db (request.body.teen request.hashPin household db.members.freshKey) then
        .error .integrity
      else .ok { db with
        members := db.members.append (request.body.teen request.hashPin household)
          fun _ => rfl } := by
  obtain ⟨⟨birthDate, parsed, old⟩, name⟩ := accepted
  simp only [createTeenProfile, loaded, bind, Except.bind, pure, Except.pure]
  rw [Option.mem_def.mp parsed]
  simp only [if_neg (not_lt.mpr old), name, not_true, if_false]

/-- A request with a bad date, age or name is refused before the members are looked at. -/
theorem createTeenProfile_refused
    (loads : loadParent db request.memberId = loadParent other request.memberId)
    (refused : ¬ TeenAccepted request) :
    ∃ raised, createTeenProfile request db = .error raised ∧
      createTeenProfile request other = .error raised := by
  unfold createTeenProfile
  rw [← loads]
  cases loadParent db request.memberId with
  | error raised => exact ⟨raised, rfl, rfl⟩
  | ok caller =>
      simp only [bind, Except.bind]
      cases parsed : strptimeDate? request.body.birthdate with
      | none => exact ⟨_, rfl, rfl⟩
      | some birthDate =>
          dsimp only
          by_cases young : ageYears birthDate (naiveDate request.now) < 13
          · rw [if_pos young, if_pos young]
            exact ⟨_, rfl, rfl⟩
          · have unstorable : ¬ storableText (some request.body.displayName) = true :=
              fun name => refused ⟨⟨birthDate, parsed, not_lt.mp young⟩, name⟩
            rw [if_neg young, if_neg young, if_pos unstorable, if_pos unstorable]
            exact ⟨_, rfl, rfl⟩

theorem createTeenProfile_joined {next : Database} {home memberId : Uuid}
    (returned : createTeenProfile request db = .ok next)
    (owned : owner? next (.member memberId) = some home) :
    owner? db (.member memberId) = some home ∨ memberId = db.members.freshKey := by
  obtain ⟨household, rfl⟩ := createTeenProfile_ok returned
  obtain ⟨member, stored, hit, ofHome⟩ := Tenancy.ownerIn_eq_some.mp owned
  rcases List.mem_append.mp stored with old | new
  · exact Or.inl (Tenancy.ownerIn_eq_some.mpr ⟨member, old, hit, ofHome⟩)
  · rw [List.mem_singleton.mp new] at hit
    exact Or.inr hit.symm

end Profiles

section Profile

variable {pytz : String → Option TzInfo} {home : Uuid} {site other : SiteState}
variable (agree : Agree home site other) (settled : SettledSite site)
  (otherSettled : SettledSite other) {request : CreateTeenProfile}
  (asks : AsksFrom home site.db request.memberId)
  (draws : site.db.members.freshKey = other.db.members.freshKey)
include agree asks

include settled otherSettled draws in
theorem createTeenProfile_outcome (confined : TeenConfined site other request) :
    SameCommit home site.db (createTeenProfile request site.db)
      (createTeenProfile request other.db) := by
  by_cases accepted : TeenAccepted request
  · exact (createTeenProfile_alike agree.holdings settled.rows otherSettled.rows asks draws
      fun parent household loaded => confined parent household loaded accepted).mapError _
  · obtain ⟨raised, returned, otherReturned⟩ :=
      createTeenProfile_refused (loadParent_same asks agree.holdings) accepted
    rw [returned, otherReturned]
    exact .refused rfl

include settled otherSettled draws in
theorem createTeenProfile_confined
    (unknown : keysOf site.server site.db.members.freshKey =
      keysOf other.server site.db.members.freshKey)
    (confined : TeenConfined site other request) :
    NonInterfering pytz home site other (.createTeenProfile request) := by
  have outcome := createTeenProfile_outcome agree settled otherSettled asks draws confined
  have served := outcome.served agree 201 (createdTeen request site.db)
    (createdTeen request other.db)
  have stay := respond_membersStay pytz site (.createTeenProfile request)
  refine ⟨fun away foreign => served.untouched settled stay foreign,
    outcome.reply fun _ _ => createdTeen_same agree.holdings asks draws,
    served.agree agree settled otherSettled stay
      (respond_membersStay pytz other (.createTeenProfile request)) fun memberId owned => ?_⟩
  rw [keysOf_write, keysOf_write]
  generalize returned : createTeenProfile request site.db = result at owned
  cases result with
  | error raised => exact Or.inl owned
  | ok next =>
      refine (createTeenProfile_joined returned owned).imp_right fun drawn => ?_
      rw [drawn]
      exact unknown

omit agree asks in
theorem createTeenProfile_reply {site : SiteState} {parent : Member}
    {household : Models.Household}
    (loaded : loadParent site.db request.memberId = .ok (parent, household))
    (accepted : TeenAccepted request) :
    SubjectTaken site.db
        (request.body.teen request.hashPin household site.db.members.freshKey) ↔
      (respond pytz site (.createTeenProfile request)).2 = failureOf .integrity := by
  have body : createdTeen request site.db = .ok (.member
      (.of (request.body.teen request.hashPin household site.db.members.freshKey))) := by
    simp only [createdTeen, loaded, bind, Except.bind, pure, Except.pure]
  simp only [respond, SiteState.write, createTeenProfile_accepted loaded accepted, body]
  by_cases taken : SubjectTaken site.db
      (request.body.teen request.hashPin household site.db.members.freshKey)
  · rw [if_pos taken]
    exact iff_of_true taken rfl
  · rw [if_neg taken]
    exact iff_of_false taken (by simp [Except.bind, replyOf, failureOf])

include settled otherSettled draws in
theorem createTeenProfile_iff
    (unknown : keysOf site.server site.db.members.freshKey =
      keysOf other.server site.db.members.freshKey) :
    NonInterfering pytz home site other (.createTeenProfile request) ↔
      TeenConfined site other request := by
  refine ⟨fun apart parent household loaded accepted => ?_,
    createTeenProfile_confined agree settled otherSettled asks draws unknown⟩
  have otherLoaded := (loadParent_same asks agree.holdings).symm.trans loaded
  have taken := @createTeenProfile_reply pytz _ _ _ _ loaded accepted
  have otherTaken := @createTeenProfile_reply pytz _ _ _ _ otherLoaded accepted
  rw [← draws] at otherTaken
  rw [taken, otherTaken, apart.reply]

end Profile

/-! ### A new definition -/

/-- The series the body names is there in both states or in neither, where it matters. -/
def DefinitionConfined (pytz : String → Option TzInfo) (site other : SiteState)
    (request : CreateDefinition) : Prop :=
  ∀ parent household tz, loadParent site.db request.memberId = .ok (parent, household) →
    pytz household.timezone = some tz → request.Accepted site.db parent household tz →
      ∀ seriesId ∈ request.body.seriesId,
        ((∃ series, site.db.series.find? seriesId = some series) ↔
          ∃ series, other.db.series.find? seriesId = some series)

section Definitions

variable {pytz : String → Option TzInfo} {request : CreateDefinition} {db other : Database}
  {parent : Member} {household : Models.Household}

theorem createDefinition_unhandled {raised : RequestError}
    (loaded : loadParent db request.memberId = .ok (parent, household))
    (assigned : requireAssignee db household request.body.assigneeId = .ok ())
    (returned : createDefinition pytz request db = .error raised) :
    failureOf raised = .failure 500 "Internal Server Error" := by
  simp only [createDefinition, loaded, assigned, bind, Except.bind, pure, Except.pure]
    at returned
  have columns : ∀ {raised : RequestError}, checkColumns request.body db = .error raised →
      failureOf raised = .failure 500 "Internal Server Error" := by
    intro raised refused
    unfold checkColumns at refused
    split at refused
    · split at refused
      · cases refused
      · split at refused
        · cases refused
          rfl
        · cases refused
    · cases refused
      rfl
  have jobs : ∀ {Result : Type} {result : Except JobError Result} {raised : RequestError},
      ofJob result = .error raised → failureOf raised = .failure 500 "Internal Server Error" := by
    intro Result result raised failed
    cases result with
    | error error =>
        cases failed
        rfl
    | ok value => cases failed
  split at returned
  · rename_i refused
    cases returned
    exact columns refused
  · split at returned
    · rename_i failed
      cases returned
      exact jobs failed
    · split at returned
      · rename_i failed
        cases returned
        exact jobs failed
      · split at returned
        · rename_i failed
          cases returned
          exact jobs failed
        · cases returned

/-- The two runs fail alike on the caller or on the assignee, or pass both checks. -/
theorem createDefinition_opening {home : Uuid} (same : holdings home db = holdings home other)
    (asks : AsksFrom home db request.memberId) :
    (∃ raised, createDefinition pytz request db = .error raised ∧
        createDefinition pytz request other = .error raised) ∨
      ∃ parent household, household.id = home ∧
        loadParent db request.memberId = .ok (parent, household) ∧
        loadParent other request.memberId = .ok (parent, household) ∧
        requireAssignee db household request.body.assigneeId = .ok () ∧
        requireAssignee other household request.body.assigneeId = .ok () := by
  have loads := loadParent_same asks same
  cases loaded : loadParent db request.memberId with
  | error raised =>
      refine Or.inl ⟨raised, ?_, ?_⟩
      · simp only [createDefinition, loaded, bind, Except.bind]
      · simp only [createDefinition, loads.symm.trans loaded, bind, Except.bind]
  | ok caller =>
      obtain ⟨parent, household⟩ := caller
      have own := (loadParent_from asks loaded).ofHousehold
      have otherLoaded := loads.symm.trans loaded
      have assignees := requireAssignee_same same own request.body.assigneeId
      cases assigned : requireAssignee db household request.body.assigneeId with
      | error raised =>
          refine Or.inl ⟨raised, ?_, ?_⟩
          · simp only [createDefinition, loaded, assigned, bind, Except.bind]
          · simp only [createDefinition, otherLoaded, assignees.symm.trans assigned, bind,
              Except.bind]
      | ok checked =>
          exact Or.inr ⟨parent, household, own, rfl, otherLoaded, assigned,
            assignees.symm.trans assigned⟩

theorem accepted_same {home : Uuid} (same : holdings home db = holdings home other)
    (own : household.id = home)
    (draws : db.definitions.freshKey = other.definitions.freshKey) {tz : TzInfo} :
    request.Accepted db parent household tz ↔ request.Accepted other parent household tz := by
  rw [CreateDefinition.accepted_iff, CreateDefinition.accepted_iff,
    requireAssignee_same same own, draws]

end Definitions

section Definition

variable {pytz : String → Option TzInfo} {home : Uuid} {site other : SiteState}
variable (agree : Agree home site other) (settled : SettledSite site)
  (otherSettled : SettledSite other) {request : CreateDefinition}
  (asks : AsksFrom home site.db request.memberId)
  (draws : site.db.definitions.freshKey = other.db.definitions.freshKey)
include agree settled otherSettled asks draws

theorem createDefinition_outcome
    (instanceDraws : site.db.instances.freshKey = other.db.instances.freshKey)
    (confined : DefinitionConfined pytz site other request) :
    SameCommit home site.db (createDefinition pytz request site.db)
      (createDefinition pytz request other.db) := by
  by_cases accepted : ∃ parent household tz,
      loadParent site.db request.memberId = .ok (parent, household) ∧
        pytz household.timezone = some tz ∧ request.Accepted site.db parent household tz
  · obtain ⟨parent, household, tz, loaded, zone, passed⟩ := accepted
    exact (createDefinition_alike agree.holdings settled.rows otherSettled.rows asks draws
      instanceDraws (confined parent household tz loaded zone passed)).mapError _
  · -- Both are refused, whatever the series.
    rcases @createDefinition_opening pytz _ _ _ _ agree.holdings asks with
      ⟨raised, returned, otherReturned⟩ | ⟨parent, household, own, loaded, otherLoaded,
        assigned, otherAssigned⟩
    · rw [returned, otherReturned]
      exact .refused rfl
    · have unaccepted : ∀ tz, pytz household.timezone = some tz →
          ¬ request.Accepted site.db parent household tz :=
        fun tz zone passed => accepted ⟨parent, household, tz, loaded, zone, passed⟩
      cases returned : createDefinition pytz request site.db with
      | ok next =>
          obtain ⟨_, _, tz, _, _, created⟩ := createDefinition_ok returned
          cases loaded.symm.trans created.loaded
          exact absurd created.accepted (unaccepted tz created.zone)
      | error raised =>
          cases otherReturned : createDefinition pytz request other.db with
          | ok next =>
              obtain ⟨_, _, tz, _, _, created⟩ := createDefinition_ok otherReturned
              cases otherLoaded.symm.trans created.loaded
              exact absurd ((accepted_same agree.holdings own draws).mpr created.accepted)
                (unaccepted tz created.zone)
          | error otherRaised =>
              exact .refused ((createDefinition_unhandled loaded assigned returned).trans
                (createDefinition_unhandled otherLoaded otherAssigned otherReturned).symm)

theorem createDefinition_confined
    (instanceDraws : site.db.instances.freshKey = other.db.instances.freshKey)
    (confined : DefinitionConfined pytz site other request) :
    NonInterfering pytz home site other (.createDefinition request) :=
  write_nonInterfering agree settled otherSettled rfl rfl
    (createDefinition_outcome agree settled otherSettled asks draws instanceDraws confined)
    (fun _ _ => createdDefinition_same agree.holdings asks draws) (by simp)

omit agree settled otherSettled asks draws in
/-- An accepted definition is created if the series it names is there. -/
theorem createDefinition_reply {parent : Member} {household : Models.Household} {tz : TzInfo}
    (loaded : loadParent site.db request.memberId = .ok (parent, household))
    (zone : pytz household.timezone = some tz)
    (accepted : request.Accepted site.db parent household tz) :
    (∀ seriesId ∈ request.body.seriesId,
        ∃ series, site.db.series.find? seriesId = some series) ↔
      ∃ body, (respond pytz site (.createDefinition request)).2 = .success 201 body := by
  have body : createdDefinition request site.db = .ok (.definition (.of
      (request.body.definition household parent site.db.definitions.freshKey))) := by
    simp only [createdDefinition, loaded, bind, Except.bind, pure, Except.pure]
  simp only [respond, SiteState.write, body]
  constructor
  · intro named
    obtain ⟨next, returned⟩ := createDefinition_returns loaded zone accepted named
    rw [returned]
    exact ⟨_, rfl⟩
  · rintro ⟨shown, replied⟩
    cases returned : createDefinition pytz request site.db with
    | error raised =>
        rw [returned] at replied
        exact absurd replied (by cases raised <;> simp [Except.bind, replyOf, failureOf])
    | ok next =>
        obtain ⟨_, _, _, _, _, created⟩ := createDefinition_ok returned
        exact created.seriesFound

theorem createDefinition_iff
    (instanceDraws : site.db.instances.freshKey = other.db.instances.freshKey) :
    NonInterfering pytz home site other (.createDefinition request) ↔
      DefinitionConfined pytz site other request := by
  refine ⟨?_, createDefinition_confined agree settled otherSettled asks draws instanceDraws⟩
  intro apart parent household tz loaded zone accepted seriesId named
  have own := (loadParent_from asks loaded).ofHousehold
  have otherLoaded := (loadParent_same asks agree.holdings).symm.trans loaded
  have created := createDefinition_reply loaded zone accepted
  have otherCreated := createDefinition_reply otherLoaded zone
    ((accepted_same agree.holdings own draws).mp accepted)
  rw [← apart.reply, ← created] at otherCreated
  simpa [Option.mem_def.mp named] using otherCreated.symm

end Definition

end KidsChores.Properties
