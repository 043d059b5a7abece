import KidsChores.Properties.HouseholdViews

/-!
# Listings of a household

A request that only reads gets the same answer from two databases that hold the same
rows of the caller's household.
-/

set_option autoImplicit false

namespace KidsChores.Properties

open KidsChores.Library
open KidsChores.Library.PyDatetime
open KidsChores.Library.Slices
open KidsChores.Library.Tenancy
open KidsChores.Models
open KidsChores.Routers
open KidsChores.Routers.Definitions
open KidsChores.Routers.Listings
open KidsChores.Routers.Reports
open KidsChores.Routers.SavingsGoals
open KidsChores.Routers.Series
open KidsChores.Services.Ledger
open KidsChores.Services.Reports

section Listings

variable {home : Uuid} {db other : Database} {pytz : String → Option TzInfo}
variable (same : holdings home db = holdings home other)
include same

theorem getHousehold_same {memberId : Uuid} (asks : AsksFrom home db memberId) :
    getHousehold memberId db = getHousehold memberId other := by
  unfold getHousehold
  rw [loadCaller_same asks same]

theorem listMembers_same {request : ListRows} (asks : AsksFrom home db request.memberId) :
    listMembers request db = listMembers request other := by
  unfold listMembers
  rw [← loadCaller_same asks same]
  refine bind_same ?_
  rintro ⟨member, household⟩ loaded
  have own := (loadCaller_from asks loaded).ofHousehold
  refine congrArg (fun rows => Except.ok (rows.map MemberResponse.of))
    (filter_column (congrArg Holdings.members same) fun row hit => ?_)
  exact (of_decide_eq_true hit).1.trans own

theorem listDefinitions_same {request : ListRows}
    (asks : AsksFrom home db request.memberId) :
    listDefinitions request db = listDefinitions request other := by
  unfold listDefinitions
  rw [← loadCaller_same asks same]
  refine bind_same ?_
  rintro ⟨member, household⟩ loaded
  have own := (loadCaller_from asks loaded).ofHousehold
  refine congrArg (fun rows => Except.ok (rows.reverse.map TaskDefinitionResponse.of))
    (filter_column (congrArg Holdings.definitions same) fun row hit => ?_)
  exact (of_decide_eq_true hit).1.trans own

theorem listSeries_same {request : ListRows} (asks : AsksFrom home db request.memberId) :
    listSeries request db = listSeries request other := by
  unfold listSeries
  rw [← loadCaller_same asks same]
  refine bind_same ?_
  rintro ⟨member, household⟩ loaded
  have own := (loadCaller_from asks loaded).ofHousehold
  refine congrArg (fun rows => Except.ok (rows.reverse.map SeriesResponse.of))
    (filter_column (congrArg Holdings.series same) fun row hit => ?_)
  exact (of_decide_eq_true hit).1.trans own

omit same in
/-- No instance is linked, so no window shows any progress. -/
theorem progress_unlinked (unlinked : Unlinked db) (windowId : Uuid) :
    progress (db.instances.rows.filter (·.seriesInstanceId = some windowId)) = none := by
  have empty : db.instances.rows.filter (·.seriesInstanceId = some windowId) = [] := by
    apply List.filter_eq_nil_iff.mpr
    intro task stored
    simp [unlinked task stored]
  rw [empty]
  rfl

theorem seriesOwner_same {id : Uuid} :
    owner? db (.series id) = some home ↔ owner? other (.series id) = some home :=
  ownerIn_same (congrArg Holdings.series same) id

theorem listSeriesInstances_same {request : ListSeriesInstances} (unlinked : Unlinked db)
    (otherUnlinked : Unlinked other) (asks : AsksFrom home db request.memberId) :
    listSeriesInstances request db = listSeriesInstances request other := by
  unfold listSeriesInstances
  rw [← loadCaller_same asks same]
  refine bind_same ?_
  rintro ⟨member, household⟩ loaded
  have own := (loadCaller_from asks loaded).ofHousehold
  dsimp only
  rw [← getSeriesOr404_same same own]
  refine bind_same fun series found => ?_
  have owned : owner? db (.series request.seriesId) = some home := by
    rw [getSeriesOr404_eq] at found
    cases stored : findOwn? db.series Series.householdId household.id request.seriesId with
    | none =>
        rw [stored] at found
        cases found
    | some row =>
        obtain ⟨rowFound, ofHousehold⟩ := findOwn?_eq_some_iff.mp stored
        rw [← Table.key_of_find? rowFound, owner?_series (Table.mem_of_find? rowFound),
          ofHousehold, own]
  have windows : db.seriesInstances.rows.filter (·.seriesId = request.seriesId) =
      other.seriesInstances.rows.filter (·.seriesId = request.seriesId) := by
    refine filter_eq (congrArg Holdings.seriesInstances same) ?_ ?_ fun _ _ => rfl
    · intro window _ hit
      unfold windowOwner?
      rw [of_decide_eq_true hit, owned]
    · intro window _ hit
      unfold windowOwner?
      rw [of_decide_eq_true hit, (seriesOwner_same same).mp owned]
  simp only [windows, progress_unlinked unlinked, progress_unlinked otherUnlinked]

/-! ## Tasks -/

omit same in
theorem resolveTargetId_owner {member : Member} {household : Household}
    {targetId : Option Uuid} {resolved : Uuid} (own : household.id = home)
    (memberOwned : owner? db (.member member.id) = some home)
    (returned : resolveTargetId db member household targetId = .ok resolved) :
    owner? db (.member resolved) = some home := by
  unfold resolveTargetId at returned
  split at returned
  · cases returned
    exact memberOwned
  · split at returned
    · cases returned
      exact memberOwned
    · split at returned
      · cases returned
      · cases found : getMemberOr404 db household _ with
        | error raised =>
            rw [found] at returned
            cases returned
        | ok target =>
            rw [found] at returned
            cases returned
            obtain ⟨targetFound, ofHousehold⟩ := getMemberOr404_ok found
            rw [owner?_member (Table.mem_of_find? targetFound), ofHousehold, own]

theorem dueBetween_same (settled : SettledRows db) (otherSettled : SettledRows other)
    {targetId : Uuid} (owned : owner? db (.member targetId) = some home)
    (bounds : Instant × Instant) :
    dueBetween db targetId bounds = dueBetween other targetId bounds := by
  unfold dueBetween
  congr 2
  refine filter_eq (congrArg Holdings.instances same) ?_ ?_ fun _ _ => rfl
  · intro task stored hit
    rw [← (of_decide_eq_true hit).1] at owned
    exact settled.taskOwner stored owned
  · intro task stored hit
    have otherOwned := (memberOwner_same same).mp owned
    rw [← (of_decide_eq_true hit).1] at otherOwned
    exact otherSettled.taskOwner stored otherOwned

/-- A view of the tasks of one member, whatever the bounds are for the household. -/
theorem dueIn_same {memberId : Uuid} {targetId : Option Uuid} (settled : SettledRows db)
    (otherSettled : SettledRows other) (asks : AsksFrom home db memberId)
    (bounds : Models.Household → Except RequestError (Instant × Instant)) :
    ((loadCaller db memberId).bind fun caller =>
        (resolveTargetId db caller.1 caller.2 targetId).bind fun target =>
          (bounds caller.2).bind fun interval => pure (dueBetween db target interval)) =
      (loadCaller other memberId).bind fun caller =>
        (resolveTargetId other caller.1 caller.2 targetId).bind fun target =>
          (bounds caller.2).bind fun interval => pure (dueBetween other target interval) := by
  rw [← loadCaller_same asks same]
  refine bind_same ?_
  rintro ⟨member, household⟩ loaded
  have caller := loadCaller_from asks loaded
  dsimp only
  rw [← resolveTargetId_same same caller.ofHousehold]
  refine bind_same fun target resolved => ?_
  have owned := resolveTargetId_owner caller.ofHousehold caller.owner resolved
  simp only [dueBetween_same same settled otherSettled owned]

theorem getTodayTasks_same {request : TodayTasks} (settled : SettledRows db)
    (otherSettled : SettledRows other) (asks : AsksFrom home db request.memberId) :
    getTodayTasks pytz request db = getTodayTasks pytz request other :=
  dueIn_same same settled otherSettled asks fun household =>
    ofJob (todayBounds pytz household request.now)

theorem getWeekTasks_same {request : WeekTasks} (settled : SettledRows db)
    (otherSettled : SettledRows other) (asks : AsksFrom home db request.memberId) :
    getWeekTasks pytz request db = getWeekTasks pytz request other :=
  dueIn_same same settled otherSettled asks fun household =>
    ofJob (weekBounds pytz request.start household)

/-! ## Wallet -/

theorem listClaims_same {request : ListClaims} (asks : AsksFrom home db request.memberId) :
    listClaims request db = listClaims request other := by
  unfold listClaims
  rw [← loadCaller_same asks same]
  refine bind_same ?_
  rintro ⟨member, household⟩ loaded
  have own := (loadCaller_from asks loaded).ofHousehold
  refine bind_same fun targetId _ => congrArg pure ?_
  refine filterMap_eq (congrArg Holdings.claims same) ?_ ?_ ?_
  · intro claim _ shown answered
    split at answered
    · cases answered
    · rename_i owner found
      split at answered
      · rename_i selected
        unfold claimOwner?
        rw [owner?_of_find? found, selected.1, own]
      · cases answered
  · intro claim _ shown answered
    split at answered
    · cases answered
    · rename_i owner found
      split at answered
      · rename_i selected
        unfold claimOwner?
        rw [owner?_of_find? found, selected.1, own]
      · cases answered
  · intro claim member
    obtain ⟨owner, found, ofHome⟩ := found_of_owner? (mem_slice.mp member).2
    rw [found, member_found same found ofHome]

omit same in
theorem assertWalletAccess_owner {member : Member} {household : Household}
    {targetId : Uuid} (own : household.id = home)
    (granted : assertWalletAccess db member household targetId = .ok ()) :
    owner? db (.member targetId) = some home := by
  unfold assertWalletAccess at granted
  split at granted
  · cases granted
  · obtain ⟨target, found, ofHousehold⟩ := Wallet.assertSameHousehold_ok granted
    rw [owner?_of_find? found, ofHousehold, own]

theorem getLedger_same {request : GetLedger} (asks : AsksFrom home db request.memberId) :
    Listings.getLedger request db = Listings.getLedger request other := by
  unfold Listings.getLedger
  rw [← loadCaller_same asks same]
  refine bind_same ?_
  rintro ⟨member, household⟩ loaded
  have own := (loadCaller_from asks loaded).ofHousehold
  dsimp only
  rw [← assertWalletAccess_same same own]
  refine bind_same fun _ granted => ?_
  have owned := assertWalletAccess_owner own granted
  rw [entries_same same owned _ fun entry hit => of_decide_eq_true hit]

def goalOwner? (db : Database) (goal : SavingsGoal) : Option Uuid :=
  owner? db (.member goal.memberId)

def goalsOf (home : Uuid) (db : Database) (goals : Goals) : List SavingsGoal :=
  slice (goalOwner? db) home goals.rows

theorem getWallet_same {request : GetWallet} {goals otherGoals : Goals}
    (sameGoals : goalsOf home db goals = goalsOf home other otherGoals)
    (asks : AsksFrom home db request.memberId) :
    getWallet request db goals = getWallet request other otherGoals := by
  unfold getWallet
  rw [← loadCaller_same asks same]
  refine bind_same ?_
  rintro ⟨member, household⟩ loaded
  have own := (loadCaller_from asks loaded).ofHousehold
  dsimp only
  rw [← assertWalletAccess_same same own]
  refine bind_same fun _ granted => ?_
  have owned := assertWalletAccess_owner own granted
  have active : activeGoals goals request.targetId =
      activeGoals otherGoals request.targetId := by
    unfold activeGoals
    congr 1
    refine filter_eq sameGoals ?_ ?_ fun _ _ => rfl
    · intro goal _ hit
      unfold goalOwner?
      rw [(of_decide_eq_true hit).1, owned]
    · intro goal _ hit
      unfold goalOwner?
      rw [(of_decide_eq_true hit).1, (memberOwner_same same).mp owned]
  rw [currentBalance_same same owned, active]

/-! ## Approvals and reports -/

theorem getApprovalInbox_same {memberId : Uuid} (settled : SettledRows db)
    (asks : AsksFrom home db memberId) :
    getApprovalInbox memberId db = getApprovalInbox memberId other := by
  unfold getApprovalInbox
  rw [← loadParent_same asks same]
  refine bind_same ?_
  rintro ⟨parent, household⟩ loaded
  have own := (loadParent_from asks loaded).ofHousehold
  have owned : ∀ {db : Database} {task : TaskInstance} {found},
      awaiting? db household task = some found → taskOwner? db task = some home := by
    intro db task found answered
    simp only [awaiting?, Option.bind_eq_bind, Option.bind_eq_some_iff] at answered
    obtain ⟨definition, definitionFound, _, _, selected⟩ := answered
    split at selected
    · rename_i passes
      unfold taskOwner?
      rw [← Table.key_of_find? definitionFound,
        owner?_definition (Table.mem_of_find? definitionFound), passes.1, own]
    · cases selected
  have awaited : db.instances.rows.filterMap (awaiting? db household) =
      other.instances.rows.filterMap (awaiting? other household) := by
    refine filterMap_eq (congrArg Holdings.instances same) ?_ ?_ ?_
    · exact fun task _ found answered => owned answered
    · exact fun task _ found answered => owned answered
    · intro task member
      obtain ⟨stored, ofHome⟩ := mem_slice.mp member
      obtain ⟨assignee, assigneeFound, assigneeHome⟩ := settled.assigneeFound stored ofHome
      obtain ⟨definition, definitionStored, hit, definitionHome⟩ :=
        ownerIn_eq_some.mp ofHome
      have definitionFound : db.definitions.find? task.definitionId = some definition :=
        Table.find?_eq_some_iff.mpr ⟨definitionStored, hit⟩
      simp only [awaiting?, definitionFound, assigneeFound,
        definition_found same definitionFound definitionHome,
        member_found same assigneeFound assigneeHome]
  simp only [awaited]

theorem reportInstances_same (settled : SettledRows db) (otherSettled : SettledRows other)
    {targetId : Uuid} (owned : owner? db (.member targetId) = some home)
    (start finish : Instant) :
    reportInstances db targetId start finish =
      reportInstances other targetId start finish := by
  have own : ∀ {db : Database}, SettledRows db →
      owner? db (.member targetId) = some home → ∀ task ∈ db.instances.rows,
        (db.definitions.find? task.definitionId).any (·.assigneeId = targetId) = true →
          taskOwner? db task = some home := by
    intro db settled owned task stored assigned
    obtain ⟨definition, found, assignee⟩ := (Option.any_eq_true _ _).mp assigned
    have same := (settled.definitions definition (Table.mem_of_find? found)).owner_eq rfl
      List.mem_cons_self
    rw [of_decide_eq_true assignee, owned] at same
    unfold taskOwner?
    rw [← Table.key_of_find? found, owner?_definition (Table.mem_of_find? found), ← same]
  refine filter_eq (congrArg Holdings.instances same) ?_ ?_ ?_
  · intro task stored hit
    exact own settled owned task stored (of_decide_eq_true hit).1
  · intro task stored hit
    exact own otherSettled ((memberOwner_same same).mp owned) task stored
      (of_decide_eq_true hit).1
  · intro task member
    obtain ⟨definition, stored, hit, ofHome⟩ := ownerIn_eq_some.mp (mem_slice.mp member).2
    have found : db.definitions.find? task.definitionId = some definition :=
      Table.find?_eq_some_iff.mpr ⟨stored, hit⟩
    simp only [found, definition_found same found ofHome]

theorem getReport_same {request : GetReport} (settled : SettledRows db)
    (otherSettled : SettledRows other) (asks : AsksFrom home db request.memberId) :
    getReport pytz request db = getReport pytz request other := by
  unfold getReport
  rw [← loadCaller_same asks same]
  refine bind_same ?_
  rintro ⟨member, household⟩ loaded
  have own := (loadCaller_from asks loaded).ofHousehold
  have refuse : ∀ {refused : Prop} [Decidable refused] {raised : RequestError}
      {rest otherRest : Except RequestError ReportResponse}, rest = otherRest →
        (if refused then throw raised else rest) =
          (if refused then throw raised else otherRest) := by
    intro refused _ raised rest otherRest agree
    rw [agree]
  dsimp only
  refine refuse (refuse ?_)
  rw [← getMemberOr404_same same own]
  refine bind_same fun target found => ?_
  obtain ⟨targetFound, ofHousehold⟩ := getMemberOr404_ok found
  have owned : owner? db (.member request.targetId) = some home := by
    rw [owner?_of_find? targetFound, ofHousehold, own]
  have entries : ∀ start finish, reportEntries db request.targetId start finish =
      reportEntries other request.targetId start finish := fun start finish =>
    entries_same same owned _ fun entry hit => (of_decide_eq_true hit).1
  simp only [entries, reportInstances_same same settled otherSettled owned]

end Listings

end KidsChores.Properties
