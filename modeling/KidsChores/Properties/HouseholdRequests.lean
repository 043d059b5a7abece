import KidsChores.Properties.HouseholdCalls
import KidsChores.Properties.HouseholdListings

/-!
# Requests that write

Each request of a household that writes in one transaction does the same to two databases
that hold the same rows of the household.  A new row also has to get the same id in both.
-/

set_option autoImplicit false

namespace KidsChores.Properties

open KidsChores.Library
open KidsChores.Library.PyDatetime
open KidsChores.Library.Slices
open KidsChores.Models
open KidsChores.Routers
open KidsChores.Routers.Definitions
open KidsChores.Routers.Household
open KidsChores.Routers.Listings
open KidsChores.Routers.Series
open KidsChores.Routers.Wallet
open KidsChores.Services.Ledger

section Requests

variable {home : Uuid} {db other : Database} {pytz : String → Option TzInfo}
variable (same : holdings home db = holdings home other)
include same

theorem asParent_alike {Result Other : Type} {after : Result → Other → Prop}
    {memberId : Uuid} (asks : AsksFrom home db memberId)
    {next : Member × Models.Household → Except RequestError Result}
    {otherNext : Member × Models.Household → Except RequestError Other}
    (rest : ∀ parent household, loadParent db memberId = .ok (parent, household) →
      household.id = home → Alike after (next (parent, household))
        (otherNext (parent, household))) :
    Alike after ((loadParent db memberId).bind next)
      ((loadParent other memberId).bind otherNext) := by
  rw [← loadParent_same asks same]
  refine Alike.bind_same ?_
  rintro ⟨parent, household⟩ loaded
  exact rest parent household loaded (loadParent_from asks loaded).ofHousehold

/-! ## Settings and members -/

omit same in
theorem edit?_householdId {body : HouseholdUpdate} {household edited : Models.Household}
    (applied : body.edit? household = some edited) : edited.id = household.id := by
  simp only [HouseholdUpdate.edit?, Option.bind_eq_bind, Option.bind_eq_some_iff] at applied
  obtain ⟨name, _, timezone, _, pointsLabel, _, stored⟩ := applied
  cases stored
  rfl

theorem updateHousehold_alike {request : UpdateHousehold}
    (asks : AsksFrom home db request.memberId) :
    Alike (Confined home db) (updateHousehold request db) (updateHousehold request other) := by
  have loads := loadParent_same asks same
  unfold updateHousehold
  rw [← loads]
  refine Alike.bind_same ?_
  rintro ⟨parent, household⟩ loaded
  have caller := loadParent_from asks loaded
  have stored := Table.mem_of_find? (loadParent_ok loaded).2
  have otherStored := Table.mem_of_find? (loadParent_ok (loads.symm.trans loaded)).2
  dsimp only
  cases applied : request.body.edit? household with
  | none => exact .raised _
  | some edited =>
      exact .returned (.householdSaved same stored otherStored (edit?_householdId applied)
        caller.ofHousehold)

omit same in
/-- Its check on the id is the one of the reads. -/
theorem removeMember_eq (request : RemoveMember) (db : Database) :
    removeMember request db = (do
      let (parent, household) ← loadParent db request.memberId
      let member ← getMemberOr404 db household request.targetId
      if member.role = .parent ∧ member.id = parent.id then
        .error (.http 422 "You cannot remove yourself as a parent.")
      else return { db with
        members := db.members.save { member with archivedAt := some request.now } }) := by
  unfold removeMember
  refine bind_same ?_
  rintro ⟨parent, household⟩ _
  dsimp only
  unfold getMemberOr404
  cases db.members.find? request.targetId with
  | none => rfl
  | some member =>
      by_cases own : member.householdId = household.id <;> simp [own, bind, Except.bind]

theorem removeMember_alike (settled : SettledRows db) (otherSettled : SettledRows other)
    {request : RemoveMember} (asks : AsksFrom home db request.memberId) :
    Alike (Confined home db) (removeMember request db) (removeMember request other) := by
  rw [removeMember_eq, removeMember_eq]
  refine asParent_alike same asks ?_
  intro parent household loaded own
  have members := getMemberOr404_same same own request.targetId
  dsimp only
  rw [← members]
  refine Alike.bind_same fun member returned => .guard fun _ => ?_
  obtain ⟨found, ofHousehold⟩ := getMemberOr404_ok returned
  have otherFound := (getMemberOr404_ok (members.symm.trans returned)).1
  exact .returned (.memberSaved same settled otherSettled (Table.mem_of_find? found)
    (Table.mem_of_find? otherFound) rfl rfl (ofHousehold.trans own))

/-! ## Definitions -/

theorem updateDefinition_alike (settled : SettledRows db) (otherSettled : SettledRows other)
    {request : UpdateDefinition} (asks : AsksFrom home db request.memberId) :
    Alike (Confined home db) (updateDefinition request db)
      (updateDefinition request other) := by
  unfold updateDefinition
  refine asParent_alike same asks ?_
  intro parent household loaded own
  have definitions := getOr404_same same own request.definitionId
  dsimp only
  rw [← definitions]
  refine Alike.bind_same fun definition returned => ?_
  obtain ⟨found, ofHousehold⟩ := getOr404_ok returned
  have otherFound := (getOr404_ok (definitions.symm.trans returned)).1
  cases applied : request.body.edit? definition with
  | none => exact .raised _
  | some edited =>
      have kept := edit?_same applied
      exact .returned (.definitionSaved same settled otherSettled (Table.mem_of_find? found)
        (Table.mem_of_find? otherFound)
        ⟨kept.id, kept.householdId, kept.assigneeId, kept.createdBy, kept.seriesId⟩
        (ofHousehold.trans own))

theorem archiveDefinition_alike (settled : SettledRows db)
    (otherSettled : SettledRows other) {request : ArchiveDefinition}
    (asks : AsksFrom home db request.memberId) :
    Alike (Confined home db) (archiveDefinition request db)
      (archiveDefinition request other) := by
  unfold archiveDefinition
  refine asParent_alike same asks ?_
  intro parent household loaded own
  have definitions := getOr404_same same own request.definitionId
  dsimp only
  rw [← definitions]
  refine Alike.bind_same fun definition returned => ?_
  obtain ⟨found, ofHousehold⟩ := getOr404_ok returned
  have otherFound := (getOr404_ok (definitions.symm.trans returned)).1
  exact .returned (.definitionSaved same settled otherSettled (Table.mem_of_find? found)
    (Table.mem_of_find? otherFound) ⟨rfl, rfl, rfl, rfl, rfl⟩ (ofHousehold.trans own))

/-! ## Series -/

theorem createSeries_alike (settled : SettledRows db) (otherSettled : SettledRows other)
    {request : CreateSeries} (asks : AsksFrom home db request.memberId)
    (draws : db.series.freshKey = other.series.freshKey)
    (windowDraws : db.seriesInstances.freshKey = other.seriesInstances.freshKey) :
    Alike (Confined home db) (createSeries pytz request db)
      (createSeries pytz request other) := by
  unfold createSeries
  refine asParent_alike same asks ?_
  intro parent household loaded own
  have bundles : db.definitions.rows.filter (bundled request.body household) =
      other.definitions.rows.filter (bundled request.body household) :=
    filter_column (congrArg Holdings.definitions same) fun row hit =>
      (of_decide_eq_true hit).2.trans own
  dsimp only
  rw [bundles]
  refine .guard fun _ => ?_
  rw [← requireAssignee_same same own]
  refine Alike.bind_same fun _ _ => .guard fun _ => Alike.bind_same fun tz _ =>
    Alike.bind_same fun window _ => .returned ?_
  exact .seriesAdded same settled otherSettled draws windowDraws own

theorem updateSeries_alike (settled : SettledRows db) (otherSettled : SettledRows other)
    {request : UpdateSeries} (asks : AsksFrom home db request.memberId) :
    Alike (Confined home db) (updateSeries request db) (updateSeries request other) := by
  unfold updateSeries
  refine asParent_alike same asks ?_
  intro parent household loaded own
  have rows := getSeriesOr404_same same own request.seriesId
  dsimp only
  rw [← rows]
  refine Alike.bind_same fun series returned => ?_
  have found := getSeriesOr404_ok returned
  have otherFound := getSeriesOr404_ok (rows.symm.trans returned)
  cases applied : request.body.edit? series with
  | none => exact .raised _
  | some edited =>
      exact .returned (.seriesSaved same settled otherSettled (Table.mem_of_find? found)
        (Table.mem_of_find? otherFound) (edit?_sameSeries applied)
        ((getSeriesOr404_own returned).trans own))

theorem archiveSeries_alike (settled : SettledRows db) (otherSettled : SettledRows other)
    {request : ArchiveSeries} (asks : AsksFrom home db request.memberId) :
    Alike (Confined home db) (archiveSeries request db) (archiveSeries request other) := by
  unfold archiveSeries
  refine asParent_alike same asks ?_
  intro parent household loaded own
  have rows := getSeriesOr404_same same own request.seriesId
  dsimp only
  rw [← rows]
  refine Alike.bind_same fun series returned => ?_
  have found := getSeriesOr404_ok returned
  have otherFound := getSeriesOr404_ok (rows.symm.trans returned)
  exact .returned (.seriesSaved same settled otherSettled (Table.mem_of_find? found)
    (Table.mem_of_find? otherFound) ⟨rfl, rfl, rfl⟩ ((getSeriesOr404_own returned).trans own))

/-! ## Wallet -/

theorem plainRecord_alike (settled : SettledRows db) (otherSettled : SettledRows other)
    {clock : Clock} (posting : Posting)
    (owned : owner? db (.member posting.memberId) = some home)
    (unwindowed : posting.seriesInstanceId = none) (taskless : posting.taskInstanceId = none) :
    Alike (SamePosts posting.memberId db.ledger other.ledger)
      (record db.ledger clock posting) (record other.ledger clock posting) := by
  have about : ∀ {db : Database}, ∀ taskId ∈ posting.taskInstanceId,
      ∃ task ∈ db.instances.rows, task.id = taskId ∧ task.assigneeId = posting.memberId := by
    intro db taskId named
    rw [taskless] at named
    cases named
  exact record_alike same settled otherSettled ⟨owned, unwindowed, about⟩
    ⟨(memberOwner_same same).mp owned, unwindowed, about⟩

theorem manualAdjust_alike (settled : SettledRows db) (otherSettled : SettledRows other)
    {request : ManualAdjust} (asks : AsksFrom home db request.memberId) :
    Alike (Confined home db) (manualAdjust request db) (manualAdjust request other) := by
  unfold manualAdjust
  refine asParent_alike same asks ?_
  intro parent household loaded own
  dsimp only
  rw [← assertSameHousehold_same same own]
  refine Alike.bind_same fun _ checked => ?_
  obtain ⟨target, found, ofHousehold⟩ := assertSameHousehold_ok checked
  have owned : owner? db (.member request.targetId) = some home := by
    rw [owner?_of_find? found, ofHousehold, own]
  have recorded : Alike (SamePosts request.targetId db.ledger other.ledger)
      (manualAdjustment db.ledger request.clock request.targetId request.body.delta
        request.body.reason parent)
      (manualAdjustment other.ledger request.clock request.targetId request.body.delta
        request.body.reason parent) := by
    unfold manualAdjustment
    refine .guard fun _ => ?_
    exact plainRecord_alike same settled otherSettled (manualAdjustmentPosting _ _ _ _) owned
      rfl rfl
  refine Alike.bind (recorded.mapError RequestError.raised) fun ledger otherLedger _ _ posts => ?_
  split
  · exact .returned (.posted same owned posts)
  · exact .raised _

theorem submitClaim_alike {request : SubmitClaim}
    (asks : AsksFrom home db request.memberId)
    (draws : db.claims.freshKey = other.claims.freshKey) :
    Alike (Confined home db) (submitClaim request db) (submitClaim request other) := by
  unfold submitClaim
  rw [← getCurrentMember_same asks same]
  refine Alike.bind_same fun member returned => ?_
  have found := getCurrentMember_ok returned
  obtain ⟨caller, callerFound, ofHome⟩ := asks
  have one : member = caller := Option.some.inj (found.symm.trans callerFound)
  have owned : owner? db (.member member.id) = some home := by
    rw [Table.key_of_find? found, owner?_of_find? found, one, ofHome]
  split
  · exact .returned (.claimAdded same draws (fun _ => rfl) fun _ => owned)
  · exact .raised _

theorem resolveClaim_alike (settled : SettledRows db) (otherSettled : SettledRows other)
    {clock : Clock} {parent : Member} {body : ClaimResolveRequest} {claim : Claim}
    (owned : owner? db (.member claim.memberId) = some home) :
    Alike (fun first second => first.1 = second.1 ∧
        SamePosts claim.memberId db.ledger other.ledger first.2 second.2)
      (resolveClaim clock parent body claim db.ledger)
      (resolveClaim clock parent body claim other.ledger) := by
  have recorded : Alike (SamePosts claim.memberId db.ledger other.ledger)
      (fulfilClaim db.ledger clock claim parent) (fulfilClaim other.ledger clock claim parent) :=
    plainRecord_alike same settled otherSettled (fulfilClaimPosting claim parent) owned rfl rfl
  unfold resolveClaim
  split
  · generalize fulfilClaim db.ledger clock claim parent = first at recorded ⊢
    generalize fulfilClaim other.ledger clock claim parent = second at recorded ⊢
    cases recorded with
    | raised error => exact .raised _
    | returned posts => exact .returned ⟨rfl, posts⟩
  · exact .returned ⟨rfl, .refl _ _ _⟩

theorem resolveStoredClaim_alike (settled : SettledRows db)
    (otherSettled : SettledRows other) {request : ResolveClaim}
    (asks : AsksFrom home db request.memberId) :
    Alike (Confined home db) (resolveStoredClaim request db)
      (resolveStoredClaim request other) := by
  unfold resolveStoredClaim
  refine asParent_alike same asks ?_
  intro parent household loaded own
  dsimp only
  rw [← findClaim?_same same own]
  cases found : findClaim? db household request.claimId with
  | none => exact .raised _
  | some claim =>
      obtain ⟨claimFound, member, memberFound, ofHousehold⟩ := findClaim?_ok found
      have otherFound := (findClaim?_ok (findClaim?_imp same own found)).1
      have owned : owner? db (.member claim.memberId) = some home := by
        rw [owner?_of_find? memberFound, ofHousehold, own]
      refine Alike.bind ((resolveClaim_alike same settled otherSettled owned).mapError _) ?_
      rintro ⟨resolved, ledger⟩ ⟨_, otherLedger⟩ returned _ ⟨rfl, posts⟩
      obtain ⟨sameId, sameMember, _⟩ := resolveClaim_same (ofService_ok returned)
      dsimp only
      split
      · have paid := Confined.posted same owned posts
        exact .returned (paid.trans (.claimSaved paid.same (Table.mem_of_find? claimFound)
          (Table.mem_of_find? otherFound) sameId sameMember owned))
      · exact .raised _

/-! ## Requests that meet other households' rows -/

/-- The placeholder's index spans the households. -/
theorem createTeenProfile_alike (settled : SettledRows db)
    (otherSettled : SettledRows other) {request : CreateTeenProfile}
    (asks : AsksFrom home db request.memberId)
    (draws : db.members.freshKey = other.members.freshKey)
    (taken : ∀ parent household, loadParent db request.memberId = .ok (parent, household) →
      (SubjectTaken db (request.body.teen request.hashPin household db.members.freshKey) ↔
        SubjectTaken other
          (request.body.teen request.hashPin household db.members.freshKey))) :
    Alike (Confined home db) (createTeenProfile request db)
      (createTeenProfile request other) := by
  unfold createTeenProfile
  refine asParent_alike same asks ?_
  intro parent household loaded own
  dsimp only
  cases strptimeDate? request.body.birthdate with
  | none => exact .raised _
  | some birthDate =>
      refine .guard fun _ => .guard fun _ => ?_
      rw [← draws]
      by_cases hit : SubjectTaken db
          (request.body.teen request.hashPin household db.members.freshKey)
      · rw [if_pos hit, if_pos ((taken parent household loaded).mp hit)]
        exact .raised _
      · rw [if_neg hit, if_neg (mt (taken parent household loaded).mpr hit)]
        exact .returned (.memberAdded same settled otherSettled draws (fun _ => rfl)
          fun _ => own)

omit same in
theorem checkColumns_same {body : TaskDefinitionCreate}
    (named : ∀ seriesId ∈ body.seriesId, (∃ series, db.series.find? seriesId = some series) ↔
      ∃ series, other.series.find? seriesId = some series) :
    checkColumns body db = checkColumns body other := by
  unfold checkColumns
  split
  · cases ofSeries : body.seriesId with
    | none => rfl
    | some seriesId =>
        have both := named seriesId ofSeries
        cases found : db.series.find? seriesId with
        | none =>
            rw [found] at both
            cases otherFound : other.series.find? seriesId with
            | none => simp [found, otherFound]
            | some series => simpa using both.mpr ⟨series, otherFound⟩
        | some series =>
            obtain ⟨otherSeries, otherFound⟩ := both.mp ⟨series, found⟩
            simp [found, otherFound]
  · rfl

/-- The series of the body is looked up whosever it is. -/
theorem createDefinition_alike (settled : SettledRows db) (otherSettled : SettledRows other)
    {request : CreateDefinition} (asks : AsksFrom home db request.memberId)
    (draws : db.definitions.freshKey = other.definitions.freshKey)
    (instanceDraws : db.instances.freshKey = other.instances.freshKey)
    (named : ∀ seriesId ∈ request.body.seriesId,
      (∃ series, db.series.find? seriesId = some series) ↔
        ∃ series, other.series.find? seriesId = some series) :
    Alike (Confined home db) (createDefinition pytz request db)
      (createDefinition pytz request other) := by
  unfold createDefinition
  refine asParent_alike same asks ?_
  intro parent household loaded own
  dsimp only
  rw [← requireAssignee_same same own, ← checkColumns_same named, ← draws]
  refine Alike.bind_same fun _ _ => Alike.bind_same fun _ _ => Alike.bind_same fun tz _ =>
    Alike.bind_same fun targetDate _ => ?_
  have upserts := @upsert_alike tz request.now db.instances other.instances
    (request.body.definition household parent db.definitions.freshKey) targetDate
    (fun task stored => settled.unused stored)
    (fun task stored => draws ▸ otherSettled.unused stored) instanceDraws
  refine Alike.bind (upserts.mapError RequestError.uncaught)
    fun instances otherInstances _ _ grown => ?_
  exact .returned (.definitionAdded same settled otherSettled draws (fun _ => rfl)
    (fun _ => own) grown)

end Requests

end KidsChores.Properties
