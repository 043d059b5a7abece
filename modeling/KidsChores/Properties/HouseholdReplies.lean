import KidsChores.Properties.HouseholdSites

/-!
# Replies to a household

The bodies of the replies, and the requests that write to Redis or to the savings goals.
-/

set_option autoImplicit false

namespace KidsChores.Properties

open KidsChores.Library
open KidsChores.Library.Expiring
open KidsChores.Library.PyDatetime
open KidsChores.Library.Slices
open KidsChores.Models
open KidsChores.Routers
open KidsChores.Routers.Definitions
open KidsChores.Routers.Household
open KidsChores.Routers.SavingsGoals
open KidsChores.Routers.Series
open KidsChores.Routers.Wallet
open KidsChores.Services.Linking
open KidsChores.Services.RateLimit
open KidsChores.Site

/-! ## Bodies -/

section Bodies

variable {home : Uuid} {db other : Database}
variable (same : holdings home db = holdings home other)
include same

theorem updatedHousehold_same {request : UpdateHousehold}
    (asks : AsksFrom home db request.memberId) :
    updatedHousehold request db = updatedHousehold request other := by
  unfold updatedHousehold
  rw [loadParent_same asks same]

theorem createdTeen_same {request : CreateTeenProfile}
    (asks : AsksFrom home db request.memberId)
    (draws : db.members.freshKey = other.members.freshKey) :
    createdTeen request db = createdTeen request other := by
  unfold createdTeen
  rw [loadParent_same asks same, draws]

theorem createdDefinition_same {request : CreateDefinition}
    (asks : AsksFrom home db request.memberId)
    (draws : db.definitions.freshKey = other.definitions.freshKey) :
    createdDefinition request db = createdDefinition request other := by
  unfold createdDefinition
  rw [loadParent_same asks same, draws]

theorem updatedDefinition_same {request : UpdateDefinition}
    (asks : AsksFrom home db request.memberId) :
    updatedDefinition request db = updatedDefinition request other := by
  unfold updatedDefinition
  rw [← loadParent_same asks same]
  refine bind_same ?_
  rintro ⟨parent, household⟩ loaded
  dsimp only
  rw [getOr404_same same (loadParent_from asks loaded).ofHousehold]

theorem createdSeries_same {request : CreateSeries}
    (asks : AsksFrom home db request.memberId)
    (draws : db.series.freshKey = other.series.freshKey) :
    createdSeries request db = createdSeries request other := by
  unfold createdSeries
  rw [loadParent_same asks same, draws]

theorem updatedSeries_same {request : UpdateSeries}
    (asks : AsksFrom home db request.memberId) :
    updatedSeries request db = updatedSeries request other := by
  unfold updatedSeries
  rw [← loadParent_same asks same]
  refine bind_same ?_
  rintro ⟨parent, household⟩ loaded
  dsimp only
  rw [getSeriesOr404_same same (loadParent_from asks loaded).ofHousehold]

theorem adjustment_same {request : ManualAdjust} {next : Database}
    (asks : AsksFrom home db request.memberId)
    (returned : manualAdjust request db = .ok next) :
    adjustment request db = adjustment request other := by
  obtain ⟨parent, household, target, ledger, loaded, found, ofHousehold, _, _⟩ :=
    manualAdjust_ok returned
  have own := (loadParent_from asks loaded).ofHousehold
  have owned : owner? db (.member request.targetId) = some home := by
    rw [owner?_of_find? found, ofHousehold, own]
  unfold adjustment
  rw [loadParent_same asks same, currentBalance_same same owned]

theorem submittedClaim_same {request : SubmitClaim}
    (asks : AsksFrom home db request.memberId)
    (draws : db.claims.freshKey = other.claims.freshKey) :
    submittedClaim request db = submittedClaim request other := by
  unfold submittedClaim
  rw [getCurrentMember_same asks same, draws]

theorem resolvedClaim_same (settled : SettledRows db) (otherSettled : SettledRows other)
    {request : ResolveClaim} (asks : AsksFrom home db request.memberId) :
    resolvedClaim request db = resolvedClaim request other := by
  unfold resolvedClaim
  rw [← loadParent_same asks same]
  refine bind_same ?_
  rintro ⟨parent, household⟩ loaded
  have own := (loadParent_from asks loaded).ofHousehold
  dsimp only
  rw [← findClaim?_same same own]
  cases found : findClaim? db household request.claimId with
  | none => rfl
  | some claim =>
      obtain ⟨_, member, memberFound, ofHousehold⟩ := findClaim?_ok found
      have otherFound := member_found same memberFound (ofHousehold.trans own)
      have owned : owner? db (.member claim.memberId) = some home := by
        rw [owner?_of_find? memberFound, ofHousehold, own]
      have resolutions := @resolveClaim_alike _ _ _ same settled otherSettled request.clock
        parent request.body claim owned
      simp only [Option.bind_some, memberFound, otherFound]
      generalize Wallet.resolveClaim request.clock parent request.body claim db.ledger =
        first at resolutions ⊢
      generalize Wallet.resolveClaim request.clock parent request.body claim other.ledger =
        second at resolutions ⊢
      cases resolutions with
      | raised error => rfl
      | returned resolved =>
          simp only [ofService, Except.mapError, bind, Except.bind, resolved.1]

end Bodies

/-! ## Savings goals -/

theorem createSavingsGoal_alike {home : Uuid} {db other : Database}
    {goals otherGoals : Goals} (same : holdings home db = holdings home other)
    (draws : goals.freshKey = otherGoals.freshKey) {request : CreateSavingsGoal}
    (asks : AsksFrom home db request.memberId) :
    Alike (fun first second => first.1 = second.1 ∧
        first.2.rows = goals.rows ++ [first.1] ∧
        second.2.rows = otherGoals.rows ++ [first.1] ∧
        owner? db (.member first.1.memberId) = some home)
      (createSavingsGoal request db goals) (createSavingsGoal request other otherGoals) := by
  unfold createSavingsGoal
  rw [← loadCaller_same asks same]
  refine Alike.bind_same ?_
  rintro ⟨member, household⟩ loaded
  have own := (loadCaller_from asks loaded).ofHousehold
  dsimp only
  rw [← assertWalletAccess_same same own, ← draws]
  refine Alike.bind_same fun _ granted => ?_
  split
  · refine .returned ⟨rfl, rfl, ?_, assertWalletAccess_owner own granted⟩
    rw [draws]
    rfl
  · exact .raised _

theorem createSavingsGoal_nonInterfering {pytz : String → Option TzInfo} {home : Uuid}
    {site other : SiteState} (agree : Agree home site other)
    {request : CreateSavingsGoal} (asks : AsksFrom home site.db request.memberId)
    (draws : site.goals.freshKey = other.goals.freshKey) :
    NonInterfering pytz home site other (.createSavingsGoal request) := by
  have saved := createSavingsGoal_alike agree.holdings draws asks
  generalize returned : createSavingsGoal request site.db site.goals = first at saved
  generalize otherReturned : createSavingsGoal request other.db other.goals = second at saved
  cases saved with
  | raised error =>
      refine ⟨fun away foreign => ?_, ?_, ?_⟩
      · simp only [respond, returned]
        exact ⟨rfl, rfl, fun _ _ => rfl⟩
      · simp only [respond, returned, otherReturned, Except.map]
      · simp only [respond, returned, otherReturned]
        exact agree
  | returned both =>
      rename_i outcome otherOutcome
      obtain ⟨sameGoal, grown, otherGrown, owned⟩ := both
      have otherOwned := (memberOwner_same agree.holdings).mp owned
      have added : ∀ home', goalsOf home' site.db outcome.2 =
          goalsOf home' site.db site.goals ++ if home = home' then [outcome.1] else [] := by
        intro home'
        unfold goalsOf
        rw [grown]
        exact slice_grown (goalOwner? site.db) site.goals.rows owned home'
      have otherAdded : goalsOf home other.db otherOutcome.2 =
          goalsOf home other.db other.goals ++ if home = home then [outcome.1] else [] := by
        unfold goalsOf
        rw [otherGrown]
        exact slice_grown (goalOwner? other.db) other.goals.rows otherOwned home
      refine ⟨fun away foreign => ?_, ?_, ?_⟩
      · simp only [respond, returned]
        refine ⟨rfl, ?_, fun _ _ => rfl⟩
        have unmoved := added away
        rw [if_neg foreign.symm, List.append_nil] at unmoved
        exact unmoved
      · simp only [respond, returned, otherReturned, Except.map, sameGoal]
      · simp only [respond, returned, otherReturned]
        refine ⟨agree.holdings, ?_, agree.keys⟩
        have grew := added home
        rw [agree.goals] at grew
        exact grew.trans otherAdded.symm

/-! ## Link codes -/

theorem linkTarget_eq (db : Database) (household : Models.Household) (id : Uuid) :
    linkTarget db household id =
      match findOwn? db.members Member.householdId household.id id with
      | none => .error (.http 404 "Member not found.")
      | some target =>
          if ¬ target.archivedAt = none then .error (.http 404 "Member not found.")
          else if target.role ≠ .teen then
            .error (.http 422 "Only teen profiles can be linked.")
          else if ¬ Pending household.id target then
            .error (.http 409 "This profile already has its own login.")
          else .ok target := by
  unfold linkTarget findOwn?
  cases db.members.find? id with
  | none => rfl
  | some member => by_cases own : member.householdId = household.id <;> simp [own, Option.filter]

theorem codesTo_update {first second : Store String Uuid Instant} {memberId : Uuid}
    (same : codesTo first memberId = codesTo second memberId) (code : String)
    (cell? : Option (Cell Uuid Instant)) :
    codesTo (Function.update first code cell?) memberId =
      codesTo (Function.update second code cell?) memberId := by
  funext wanted
  have held := congrFun same wanted
  unfold codesTo at held ⊢
  by_cases hit : wanted = code
  · rw [hit, Function.update_self, Function.update_self]
  · rw [Function.update_of_ne hit, Function.update_of_ne hit, held]

structure SameLinks (memberId : Uuid) (keys other : LinkKeys) : Prop where
  linkCode : keys.memberKeys memberId = other.memberKeys memberId
  codes : codesTo keys.codeKeys memberId = codesTo other.codeKeys memberId

section Links

variable {asked : Uuid} {keys otherKeys : LinkKeys}

theorem SameLinks.deleteCode (same : SameLinks asked keys otherKeys) (code : String) :
    SameLinks asked (keys.deleteCode code) (otherKeys.deleteCode code) :=
  ⟨same.linkCode, codesTo_update same.codes code none⟩

theorem SameLinks.setCode (same : SameLinks asked keys otherKeys) (now : Instant)
    (code : String) (memberId : Uuid) :
    SameLinks asked (keys.setCode now code memberId) (otherKeys.setCode now code memberId) :=
  ⟨same.linkCode, codesTo_update same.codes code _⟩

theorem SameLinks.setMember (same : SameLinks asked keys otherKeys) (now : Instant)
    (memberId : Uuid) (code : String) :
    SameLinks asked (keys.setMember now memberId code)
      (otherKeys.setMember now memberId code) := by
  refine ⟨?_, same.codes⟩
  simp only [LinkKeys.setMember, Store.set]
  by_cases hit : asked = memberId
  · rw [hit, Function.update_self, Function.update_self]
  · rw [Function.update_of_ne hit, Function.update_of_ne hit, same.linkCode]

theorem createLinkCode_same {memberId : Uuid} (mine : SameLinks memberId keys otherKeys)
    (same : SameLinks asked keys otherKeys) (times : CreateTimes) (drawn : Fin 1000000) :
    SameLinks asked (createLinkCode keys times memberId drawn).1
      (createLinkCode otherKeys times memberId drawn).1 := by
  have seen : otherKeys.memberKeys.get times.read memberId =
      keys.memberKeys.get times.read memberId := by
    unfold Store.get
    rw [mine.linkCode]
  unfold createLinkCode
  simp only [seen]
  apply SameLinks.setMember
  apply SameLinks.setCode
  cases keys.memberKeys.get times.read memberId with
  | none => exact same
  | some previousCode => exact same.deleteCode previousCode

variable {home : Uuid}

theorem generateLinkCode_same {db other : Database}
    (same : holdings home db = holdings home other) {request : GenerateLinkCode}
    (asks : AsksFrom home db request.memberId)
    (held : ∀ memberId, owner? db (.member memberId) = some home →
      SameLinks memberId keys otherKeys) :
    (generateLinkCode request db keys).1 = (generateLinkCode request other otherKeys).1 ∧
      ∀ memberId, owner? db (.member memberId) = some home →
        SameLinks memberId (generateLinkCode request db keys).2
          (generateLinkCode request other otherKeys).2 := by
  unfold generateLinkCode
  rw [← loadParent_same asks same]
  cases loaded : loadParent db request.memberId with
  | error raised => exact ⟨rfl, held⟩
  | ok caller =>
      obtain ⟨parent, household⟩ := caller
      have own := (loadParent_from asks loaded).ofHousehold
      have targets : linkTarget db household request.targetId =
          linkTarget other household request.targetId := by
        rw [linkTarget_eq, linkTarget_eq, own, findOwnMember_same same]
      dsimp only
      rw [← targets]
      cases found : linkTarget db household request.targetId with
      | error raised => exact ⟨rfl, held⟩
      | ok target =>
          obtain ⟨targetFound, ofHousehold, _⟩ := linkTarget_ok found
          have owned : owner? db (.member target.id) = some home := by
            rw [owner?_member (Table.mem_of_find? targetFound), ofHousehold, own]
          exact ⟨rfl, fun memberId ofHome => createLinkCode_same (held target.id owned)
            (held memberId ofHome) request.times request.drawn⟩

variable {site other : SiteState}

theorem generateLinkCode_served {pytz : String → Option TzInfo} (agree : Agree home site other)
    {request : GenerateLinkCode} (asks : AsksFrom home site.db request.memberId) :
    (respond pytz site (.generateLinkCode request)).2 =
        (respond pytz other (.generateLinkCode request)).2 ∧
      Served home site other (respond pytz site (.generateLinkCode request)).1
        (respond pytz other (.generateLinkCode request)).1 := by
  have generated := @generateLinkCode_same site.server.redis.links
    other.server.redis.links _ _ _ agree.holdings _ asks fun memberId owned =>
      ⟨congrArg MemberKeys.linkCode (agree.keys memberId owned),
        congrArg MemberKeys.codes (agree.keys memberId owned)⟩
  refine ⟨?_, .refl agree.holdings, fun memberId owned => ?_, fun _ _ _ _ => rfl, rfl, rfl⟩
  · simp only [respond]
    rw [generated.1]
  · have links := generated.2 memberId owned
    simp only [respond]
    rw [keysOf_links site.server, keysOf_links other.server, agree.keys memberId owned,
      links.linkCode, links.codes]

end Links

/-! ## Attempts at a PIN -/

theorem checkRateLimit_within {counters : Counters} {now : Instant} {key : String}
    {limit : Limit} :
    (checkRateLimit counters now key limit).1 = true ↔
      (counters.get now key).getD 0 < limit.maxAttempts := by
  simp only [checkRateLimit, decide_eq_true_eq, Store.incr_count, Nat.succ_le_iff]

theorem pinKey_inj {first second : Uuid}
    (same : "verify-pin:member:" ++ toString first = "verify-pin:member:" ++ toString second) :
    first = second := by
  have digits := congrArg String.toList ((String.append_right_inj _).mp same)
  have read := congrArg (Nat.ofDigitChars 10 · 0) digits
  simpa [toString, Nat.toList_repr, Nat.ofDigitChars_ten_toDigits] using read

theorem passwordKey_ne (first second : Uuid) :
    "change-password:member:" ++ toString first ≠ "verify-pin:member:" ++ toString second := by
  intro same
  have letters := congrArg (fun text => text.toList.head?) same
  simp at letters

end KidsChores.Properties
