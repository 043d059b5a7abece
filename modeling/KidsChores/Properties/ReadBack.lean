import Mathlib.Data.Option.Defs
import KidsChores.Library.OrderBy
import KidsChores.Properties.NoDeadEnds
import KidsChores.Properties.SafeRetries
import KidsChores.Site

/-!
# Reading back what was written

A request that writes answers with the row it wrote, before it is committed.  Where the
commit comes before the reply, or does not fail, the listing that the caller asks for next
shows that row, or does not show it any more; a column that cuts blanks off the end of a
text is the only difference.
-/

set_option autoImplicit false

namespace KidsChores.Properties

open KidsChores.Library
open KidsChores.Library.OrderBy
open KidsChores.Library.PyDatetime
open KidsChores.Library.Runs
open KidsChores.Models
open KidsChores.Planning
open KidsChores.Routers
open KidsChores.Routers.Definitions
open KidsChores.Routers.Household
open KidsChores.Routers.Listings
open KidsChores.Routers.SavingsGoals
open KidsChores.Routers.Series
open KidsChores.Routers.Wallet
open KidsChores.Server
open KidsChores.Services.Ledger
open KidsChores.Session
open KidsChores.Site

/-! ## Listings -/

/-- A listing of the rows that are visible, each by its response. -/
structure Lists {Row Response : Type} (rows : List Row) (visible : Row → Prop)
    (respond : Row → Response) (shown : List Response) : Prop where
  complete : ∀ row ∈ rows, visible row → respond row ∈ shown
  sound : ∀ response ∈ shown, ∃ row ∈ rows, visible row ∧ response = respond row

section Lists

variable {Row Response : Type} {rows : List Row} {visible : Row → Prop}
  {respond : Row → Response}

theorem lists_filter {chosen : Row → Bool} (chooses : ∀ row, chosen row = true ↔ visible row) :
    Lists rows visible respond ((rows.filter chosen).map respond) where
  complete row stored seen :=
    List.mem_map_of_mem (List.mem_filter.mpr ⟨stored, (chooses row).mpr seen⟩)
  sound response shown := by
    obtain ⟨row, selected, rfl⟩ := List.mem_map.mp shown
    obtain ⟨stored, seen⟩ := List.mem_filter.mp selected
    exact ⟨row, stored, (chooses row).mp seen, rfl⟩

theorem Lists.reverse {shown : List Response} (lists : Lists rows visible respond shown) :
    Lists rows visible respond shown.reverse where
  complete row stored seen := List.mem_reverse.mpr (lists.complete row stored seen)
  sound response listed := lists.sound response (List.mem_reverse.mp listed)

end Lists

section Requests

variable {db next : Database} {request : ListRows} {caller : Member}
  {household : Models.Household}

theorem shows_iff {archivedAt : Option Instant} : request.shows archivedAt = true ↔
    request.includeArchived = true ∨ archivedAt = none := by
  simp [ListRows.shows]

theorem listMembers_lists (loaded : loadCaller db request.memberId = .ok (caller, household)) :
    ∃ shown, listMembers request db = .ok shown ∧ Lists db.members.rows
      (fun member => member.householdId = household.id ∧
        (request.includeArchived = true ∨ member.archivedAt = none)) .of shown := by
  have listed : listMembers request db = .ok ((db.members.rows.filter fun member =>
      member.householdId = household.id ∧ request.shows member.archivedAt).map .of) := by
    unfold listMembers
    rw [loaded]
    rfl
  exact ⟨_, listed, lists_filter fun member => by rw [decide_eq_true_iff, shows_iff]⟩

theorem listDefinitions_lists
    (loaded : loadCaller db request.memberId = .ok (caller, household)) :
    ∃ shown, listDefinitions request db = .ok shown ∧ Lists db.definitions.rows
      (fun definition => definition.householdId = household.id ∧
        (request.includeArchived = true ∨ definition.archivedAt = none)) .of shown := by
  have listed : listDefinitions request db = .ok ((db.definitions.rows.filter fun definition =>
      definition.householdId = household.id ∧
        request.shows definition.archivedAt).map .of).reverse := by
    unfold listDefinitions
    rw [loaded, ← List.map_reverse]
    rfl
  exact ⟨_, listed,
    (lists_filter fun definition => by rw [decide_eq_true_iff, shows_iff]).reverse⟩

theorem listSeries_lists (loaded : loadCaller db request.memberId = .ok (caller, household)) :
    ∃ shown, listSeries request db = .ok shown ∧ Lists db.series.rows
      (fun series => series.householdId = household.id ∧
        (request.includeArchived = true ∨ series.archivedAt = none)) .of shown := by
  have listed : listSeries request db = .ok ((db.series.rows.filter fun series =>
      series.householdId = household.id ∧
        request.shows series.archivedAt).map .of).reverse := by
    unfold listSeries
    rw [loaded, ← List.map_reverse]
    rfl
  exact ⟨_, listed, (lists_filter fun series => by rw [decide_eq_true_iff, shows_iff]).reverse⟩

theorem loadCaller_again {memberId : Uuid} {parent : Member}
    (loaded : loadParent db memberId = .ok (parent, household)) (stay : RowsStay db next) :
    ∃ member home, loadCaller next memberId = .ok (member, home) ∧
      home.id = household.id ∧ member.role = .parent := by
  obtain ⟨parentFound, householdFound⟩ := loadParent_ok loaded
  obtain ⟨member, memberFound, sameHousehold, sameRole⟩ :=
    getCurrentMember_again parentFound stay
  obtain ⟨home, homeFound, sameId⟩ := getCurrentHousehold_again householdFound stay
  refine ⟨member, home, ?_, sameId, sameRole.trans (loadParent_role loaded)⟩
  simp only [loadCaller, getCurrentMember, getCurrentHousehold, memberFound, sameHousehold,
    homeFound, bind, Except.bind, pure, Except.pure]

end Requests

/-! ## What the columns keep of a text -/

def CutBlanks (text stored : String) : Prop :=
  ∃ blanks, text.toList = stored.toList ++ List.replicate blanks ' '

theorem CutBlanks.refl (text : String) : CutBlanks text text :=
  ⟨0, (List.append_nil _).symm⟩

theorem varchar?_cut {limit : Nat} {text stored : String}
    (taken : varchar? limit text = some stored) : CutBlanks text stored := by
  unfold varchar? at taken
  split at taken
  · cases taken
  split at taken
  · cases taken
    exact .refl text
  split at taken
  · rename_i blanks
    cases taken
    refine ⟨(text.toList.drop limit).length, ?_⟩
    have cut : text.toList.drop limit =
        List.replicate (text.toList.drop limit).length ' ' := by
      rw [List.eq_replicate_iff]
      refine ⟨rfl, fun letter member => ?_⟩
      exact of_decide_eq_true (List.all_eq_true.mp blanks letter member)
    rw [String.toList_ofList, ← cut, List.take_append_drop]
  · cases taken

theorem getD_cut {limit : Nat} {value stored : Option String}
    (taken : value.mapM (varchar? limit) = some stored) (old : String) :
    CutBlanks (value.getD old) (stored.getD old) := by
  cases value with
  | none =>
      cases taken
      exact .refl old
  | some text =>
      obtain ⟨kept, cut, rfl⟩ := Option.map_eq_some_iff.mp taken
      exact varchar?_cut cut

structure HouseholdShown (answered shown : HouseholdResponse) : Prop where
  name : CutBlanks answered.name shown.name
  timezone : CutBlanks answered.timezone shown.timezone
  pointsLabel : CutBlanks answered.pointsLabel shown.pointsLabel
  rest : { shown with
    name := answered.name
    timezone := answered.timezone
    pointsLabel := answered.pointsLabel } = answered

structure DefinitionShown (answered shown : TaskDefinitionResponse) : Prop where
  endDate : Option.Rel CutBlanks answered.endDate shown.endDate
  rest : { shown with endDate := answered.endDate } = answered

theorem householdShown {body : HouseholdUpdate} {household edited : Models.Household}
    (applied : body.edit? household = some edited) :
    HouseholdShown (.of (assignHousehold body household)) (.of edited) := by
  simp only [HouseholdUpdate.edit?, Option.bind_eq_bind, Option.bind_eq_some_iff,
    Option.pure_def, Option.some.injEq] at applied
  obtain ⟨name, nameTaken, timezone, timezoneTaken, label, labelTaken, rfl⟩ := applied
  exact ⟨getD_cut nameTaken _, getD_cut timezoneTaken _, getD_cut labelTaken _, rfl⟩

theorem or_cut {limit : Nat} {value stored : Option String}
    (taken : value.mapM (varchar? limit) = some stored) (old : Option String) :
    Option.Rel CutBlanks (value.or old) (stored.or old) := by
  cases value with
  | none =>
      cases taken
      cases old with
      | none => exact .none
      | some text => exact .some (.refl text)
  | some text =>
      obtain ⟨kept, cut, rfl⟩ := Option.map_eq_some_iff.mp taken
      exact .some (varchar?_cut cut)

theorem getD_within {limit : Nat} {value stored : Option String}
    (taken : value.mapM (varchar? limit) = some stored)
    (short : ∀ text ∈ value, text.length ≤ limit) (old : String) :
    stored.getD old = value.getD old := by
  cases value with
  | none =>
      cases taken
      rfl
  | some text =>
      obtain ⟨kept, cut, rfl⟩ := Option.map_eq_some_iff.mp taken
      exact varchar?_within (short text rfl) cut

theorem definitionShown {body : TaskDefinitionUpdate} {definition edited : TaskDefinition}
    (applied : body.edit? definition = some edited) :
    DefinitionShown (.of (assignDefinition body definition)) (.of edited) := by
  simp only [TaskDefinitionUpdate.edit?, Option.bind_eq_bind, Option.bind_eq_some_iff]
    at applied
  obtain ⟨title, titleTaken, endDate, endTaken, dueTime, dueTaken, applied⟩ := applied
  have sameTitle := getD_within titleTaken (fun text sent => (body.titleLength text sent).2)
    definition.title
  have sameDue := getD_within dueTaken
    (fun text sent => timePattern_length (body.duePattern text sent)) definition.dueTime
  split at applied
  · cases applied
    refine ⟨or_cut endTaken _, ?_⟩
    simp only [TaskDefinitionResponse.of, assignDefinition, sameTitle, sameDue]
  · cases applied

theorem seriesShown {body : SeriesUpdate} {series edited : Models.Series}
    (applied : body.edit? series = some edited) : edited = assignSeries body series := by
  unfold SeriesUpdate.edit? at applied
  split at applied
  · cases applied
    rfl
  · cases applied

/-! ## Each request, and the listing after it -/

theorem key_ne_archived {Row : Type} {key : Row → Uuid} {table : Table key}
    {edited row : Row} (archivedAt : Row → Option Instant)
    (stored : row ∈ (table.save edited).rows) (archived : archivedAt edited ≠ none)
    (live : archivedAt row = none) : key row ≠ key edited := by
  rcases Table.mem_save.mp stored with ⟨rfl, _⟩ | ⟨_, other⟩
  · exact absurd live archived
  · exact other

section Household

variable {db next : Database}

theorem updateHousehold_readBack {request : UpdateHousehold} {body : Body}
    (returned : updateHousehold request db = .ok next)
    (replied : updatedHousehold request db = .ok body) :
    ∃ answered shown, body = .household answered ∧
      getHousehold request.memberId next = .ok shown ∧ HouseholdShown answered shown := by
  unfold updateHousehold at returned
  obtain ⟨⟨parent, household⟩, loaded, returned⟩ := bind_ok returned
  dsimp only at returned
  split at returned
  · cases returned
  rename_i edited applied
  cases returned
  unfold updatedHousehold at replied
  rw [loaded] at replied
  cases replied
  obtain ⟨parentFound, householdFound⟩ := loadParent_ok loaded
  have savedFound : (db.households.save edited).find? parent.householdId = some edited :=
    Table.find?_save_same householdFound
      ((edit?_id applied).trans (Table.key_of_find? householdFound))
  refine ⟨_, .of edited, rfl, ?_, householdShown applied⟩
  simp only [getHousehold, loadCaller, getCurrentMember, getCurrentHousehold, parentFound,
    savedFound, bind, Except.bind, pure, Except.pure]

theorem createTeenProfile_readBack {request : CreateTeenProfile} {body : Body}
    (returned : createTeenProfile request db = .ok next)
    (replied : createdTeen request db = .ok body) (stay : RowsStay db next) :
    ∃ answered shown, body = .member answered ∧
      listMembers ⟨request.memberId, false⟩ next = .ok shown ∧ answered ∈ shown := by
  unfold createTeenProfile at returned
  obtain ⟨⟨parent, household⟩, loaded, returned⟩ := bind_ok returned
  unfold createdTeen at replied
  rw [loaded] at replied
  cases replied
  obtain ⟨member, home, again, sameId, _⟩ := loadCaller_again loaded stay
  obtain ⟨shown, listed, lists⟩ := @listMembers_lists next ⟨request.memberId, false⟩ _ _ again
  refine ⟨_, shown, rfl, listed, lists.complete _ ?_ ⟨sameId.symm, Or.inr rfl⟩⟩
  dsimp only at returned
  split at returned
  · cases returned
  split at returned
  · cases returned
  split at returned
  · cases returned
  split at returned
  · cases returned
  · cases returned
    exact List.mem_append_right _ (List.mem_singleton.mpr rfl)

theorem removeMember_readBack {request : RemoveMember}
    (returned : removeMember request db = .ok next) (stay : RowsStay db next) :
    ∃ shown, listMembers ⟨request.memberId, false⟩ next = .ok shown ∧
      ∀ member ∈ shown, member.id ≠ request.targetId := by
  have saved := removeMember_ok returned
  unfold removeMember at returned
  obtain ⟨⟨parent, household⟩, loaded, _⟩ := bind_ok returned
  obtain ⟨member, home, again, _, _⟩ := loadCaller_again loaded stay
  obtain ⟨shown, listed, lists⟩ := @listMembers_lists next ⟨request.memberId, false⟩ _ _ again
  refine ⟨shown, listed, ?_⟩
  intro response responseShown
  obtain ⟨row, stored, ⟨_, seen⟩, rfl⟩ := lists.sound response responseShown
  obtain ⟨target, found, rfl⟩ := saved
  rw [← Table.key_of_find? found]
  exact key_ne_archived Member.archivedAt stored (Option.some_ne_none _)
    (seen.resolve_left Bool.false_ne_true)

end Household

section Definitions

variable {pytz : String → Option TzInfo} {db next : Database}

theorem createDefinition_readBack {request : CreateDefinition} {body : Body}
    (returned : createDefinition pytz request db = .ok next)
    (replied : createdDefinition request db = .ok body) (stay : RowsStay db next) :
    ∃ answered shown, body = .definition answered ∧
      listDefinitions ⟨request.memberId, false⟩ next = .ok shown ∧ answered ∈ shown := by
  obtain ⟨parent, household, _, _, _, created⟩ := createDefinition_ok returned
  unfold createdDefinition at replied
  rw [created.loaded] at replied
  cases replied
  obtain ⟨member, home, again, sameId, _⟩ := loadCaller_again created.loaded stay
  obtain ⟨shown, listed, lists⟩ :=
    @listDefinitions_lists next ⟨request.memberId, false⟩ _ _ again
  refine ⟨_, shown, rfl, listed, lists.complete _ ?_ ⟨sameId.symm, Or.inr rfl⟩⟩
  rw [created.committed]
  exact List.mem_append_right _ (List.mem_singleton.mpr rfl)

theorem updateDefinition_readBack {request : UpdateDefinition} {body : Body}
    (returned : updateDefinition request db = .ok next)
    (replied : updatedDefinition request db = .ok body) (stay : RowsStay db next) :
    ∃ answered shown listed, body = .definition answered ∧
      listDefinitions ⟨request.memberId, true⟩ next = .ok shown ∧ listed ∈ shown ∧
        DefinitionShown answered listed := by
  unfold updateDefinition at returned
  obtain ⟨⟨parent, household⟩, loaded, returned⟩ := bind_ok returned
  obtain ⟨definition, found, returned⟩ := bind_ok returned
  split at returned
  · cases returned
  rename_i edited applied
  cases returned
  unfold updatedDefinition at replied
  rw [loaded] at replied
  dsimp only [bind, Except.bind] at replied
  rw [found] at replied
  cases replied
  obtain ⟨member, home, again, sameId, _⟩ := loadCaller_again loaded stay
  obtain ⟨shown, listed, lists⟩ :=
    @listDefinitions_lists _ ⟨request.memberId, true⟩ _ _ again
  obtain ⟨stored, own⟩ := getOr404_ok found
  have same := edit?_same applied
  refine ⟨_, shown, .of edited, rfl, listed, ?_, definitionShown applied⟩
  refine lists.complete edited ?_ ⟨?_, Or.inl rfl⟩
  · exact Table.mem_save.mpr (Or.inl ⟨rfl, definition, Table.mem_of_find? stored,
      same.id.symm⟩)
  · rw [same.householdId, own, sameId]

theorem archiveDefinition_readBack {request : ArchiveDefinition}
    (returned : archiveDefinition request db = .ok next) (stay : RowsStay db next) :
    ∃ shown, listDefinitions ⟨request.memberId, false⟩ next = .ok shown ∧
      ∀ definition ∈ shown, definition.id ≠ request.definitionId := by
  have saved := archiveDefinition_ok returned
  unfold archiveDefinition at returned
  obtain ⟨⟨parent, household⟩, loaded, _⟩ := bind_ok returned
  obtain ⟨member, home, again, _, _⟩ := loadCaller_again loaded stay
  obtain ⟨shown, listed, lists⟩ :=
    @listDefinitions_lists next ⟨request.memberId, false⟩ _ _ again
  refine ⟨shown, listed, ?_⟩
  intro response responseShown
  obtain ⟨row, stored, ⟨_, seen⟩, rfl⟩ := lists.sound response responseShown
  obtain ⟨definition, found, rfl⟩ := saved
  rw [← Table.key_of_find? found]
  exact key_ne_archived TaskDefinition.archivedAt stored (Option.some_ne_none _)
    (seen.resolve_left Bool.false_ne_true)

end Definitions

section Series

variable {pytz : String → Option TzInfo} {db next : Database}

theorem createSeries_readBack {request : CreateSeries} {body : Body}
    (returned : createSeries pytz request db = .ok next)
    (replied : createdSeries request db = .ok body) (stay : RowsStay db next) :
    ∃ answered shown, body = .series answered ∧
      listSeries ⟨request.memberId, false⟩ next = .ok shown ∧ answered ∈ shown := by
  unfold createSeries at returned
  obtain ⟨⟨parent, household⟩, loaded, returned⟩ := bind_ok returned
  unfold createdSeries at replied
  rw [loaded] at replied
  cases replied
  obtain ⟨member, home, again, sameId, _⟩ := loadCaller_again loaded stay
  obtain ⟨shown, listed, lists⟩ := @listSeries_lists next ⟨request.memberId, false⟩ _ _ again
  refine ⟨_, shown, rfl, listed, lists.complete _ ?_ ⟨sameId.symm, Or.inr rfl⟩⟩
  dsimp only at returned
  split at returned
  · cases returned
  obtain ⟨_, _, returned⟩ := bind_ok returned
  split at returned
  · cases returned
  obtain ⟨tz, _, returned⟩ := bind_ok returned
  obtain ⟨⟨windowStart, windowEnd⟩, _, returned⟩ := bind_ok returned
  cases returned
  exact List.mem_append_right _ (List.mem_singleton.mpr rfl)

theorem updateSeries_readBack {request : UpdateSeries} {body : Body}
    (returned : updateSeries request db = .ok next)
    (replied : updatedSeries request db = .ok body) (stay : RowsStay db next) :
    ∃ answered shown, body = .series answered ∧
      listSeries ⟨request.memberId, true⟩ next = .ok shown ∧ answered ∈ shown := by
  unfold updateSeries at returned
  obtain ⟨⟨parent, household⟩, loaded, returned⟩ := bind_ok returned
  obtain ⟨series, found, returned⟩ := bind_ok returned
  split at returned
  · cases returned
  rename_i edited applied
  cases returned
  unfold updatedSeries at replied
  rw [loaded] at replied
  dsimp only [bind, Except.bind] at replied
  rw [found] at replied
  cases replied
  obtain ⟨member, home, again, sameId, _⟩ := loadCaller_again loaded stay
  obtain ⟨shown, listed, lists⟩ := @listSeries_lists _ ⟨request.memberId, true⟩ _ _ again
  have same := edit?_sameSeries applied
  have stored := getSeriesOr404_ok found
  refine ⟨_, shown, rfl, listed, ?_⟩
  rw [← seriesShown applied]
  refine lists.complete edited ?_ ⟨?_, Or.inl rfl⟩
  · exact Table.mem_save.mpr (Or.inl ⟨rfl, series, Table.mem_of_find? stored, same.id.symm⟩)
  · rw [same.householdId, getSeriesOr404_own found, sameId]

theorem archiveSeries_readBack {request : ArchiveSeries}
    (returned : archiveSeries request db = .ok next) (stay : RowsStay db next) :
    ∃ shown, listSeries ⟨request.memberId, false⟩ next = .ok shown ∧
      ∀ series ∈ shown, series.id ≠ request.seriesId := by
  unfold archiveSeries at returned
  obtain ⟨⟨parent, household⟩, loaded, returned⟩ := bind_ok returned
  obtain ⟨series, found, returned⟩ := bind_ok returned
  cases returned
  obtain ⟨member, home, again, _, _⟩ := loadCaller_again loaded stay
  obtain ⟨shown, listed, lists⟩ := @listSeries_lists _ ⟨request.memberId, false⟩ _ _ again
  refine ⟨shown, listed, ?_⟩
  intro response responseShown
  obtain ⟨row, stored, ⟨_, seen⟩, rfl⟩ := lists.sound response responseShown
  rw [← Table.key_of_find? (getSeriesOr404_ok found)]
  exact key_ne_archived Models.Series.archivedAt stored (Option.some_ne_none _)
    (seen.resolve_left Bool.false_ne_true)

end Series

section Wallet

variable {db next : Database} {goals nextGoals : Goals}

theorem balance_recorded {ledger nextLedger : Ledger} {clock : Clock} {posting : Posting}
    (recorded : record ledger clock posting = .ok nextLedger) :
    currentBalance nextLedger posting.memberId =
      currentBalance ledger posting.memberId + posting.delta := by
  unfold currentBalance
  rw [(record_ok recorded).1, List.filter_append, List.map_append, List.sum_append]
  simp [Posting.entry]

theorem assertSameHousehold_again {household home : Models.Household} {targetId : Uuid}
    {target : Member} (found : db.members.find? targetId = some target)
    (own : target.householdId = household.id) (stay : RowsStay db next)
    (sameId : home.id = household.id) : assertSameHousehold next home targetId = .ok () := by
  obtain ⟨later, laterFound, sameHousehold, _⟩ := getCurrentMember_again found stay
  unfold assertSameHousehold
  rw [laterFound]
  dsimp only
  rw [if_pos (sameHousehold.trans (own.trans sameId.symm))]

theorem getWallet_granted {memberId targetId : Uuid} {caller : Member}
    {household : Models.Household} (loaded : loadCaller db memberId = .ok (caller, household))
    (granted : assertWalletAccess db caller household targetId = .ok ()) :
    getWallet ⟨memberId, targetId⟩ db goals = .ok ⟨targetId, currentBalance db.ledger targetId,
      household.pointsLabel, (activeGoals goals targetId).head?⟩ := by
  unfold getWallet
  rw [loaded]
  dsimp only [bind, Except.bind]
  rw [granted]
  rfl

theorem manualAdjust_readBack {request : ManualAdjust} {body : Body}
    (returned : manualAdjust request db = .ok next)
    (replied : adjustment request db = .ok body) (stay : RowsStay db next) :
    ∃ answered wallet, body = .ledgerEntry answered ∧
      getWallet ⟨request.memberId, request.targetId⟩ next goals = .ok wallet ∧
        wallet.balance = answered.balanceAfter := by
  obtain ⟨parent, household, target, ledger, loaded, found, own, recorded, rfl⟩ :=
    manualAdjust_ok returned
  unfold adjustment at replied
  rw [loaded] at replied
  cases replied
  obtain ⟨member, home, again, sameId, isParent⟩ := loadCaller_again loaded stay
  have sameHousehold := assertSameHousehold_again found own stay sameId
  have granted : assertWalletAccess { db with ledger := ledger } member home request.targetId =
      .ok () := by
    unfold assertWalletAccess
    rw [if_neg (by simp [isParent]), sameHousehold]
  exact ⟨_, _, rfl, getWallet_granted again granted, balance_recorded recorded⟩

theorem mem_listClaims {memberId : Uuid} {caller owner : Member} {household : Models.Household}
    {claim : Claim} (loaded : loadCaller db memberId = .ok (caller, household))
    (mayAsk : caller.role = .teen → claim.memberId = caller.id)
    (stored : claim ∈ db.claims.rows) (found : db.members.find? claim.memberId = some owner)
    (own : owner.householdId = household.id) :
    ∃ shown, listClaims ⟨memberId, none, none⟩ db = .ok shown ∧
      toClaimResponse claim owner.displayName ∈ shown := by
  obtain ⟨targetId, target, wanted⟩ : ∃ targetId, claimTarget caller none = .ok targetId ∧
      ∀ wanted ∈ targetId, claim.memberId = wanted := by
    unfold claimTarget
    by_cases teen : caller.role = .teen
    · refine ⟨some caller.id, ?_, ?_⟩
      · rw [if_pos teen, if_neg (by simp)]
      · rintro wanted ⟨⟩
        exact mayAsk teen
    · exact ⟨none, if_neg teen, nofun⟩
  unfold listClaims
  rw [loaded]
  dsimp only [bind, Except.bind]
  rw [target]
  refine ⟨_, rfl, List.mem_filterMap.mpr ⟨claim, stored, ?_⟩⟩
  rw [found]
  dsimp only
  rw [if_pos ⟨own, wanted, nofun⟩]

theorem submitClaim_readBack {request : SubmitClaim} {body : Body}
    (returned : submitClaim request db = .ok next)
    (replied : submittedClaim request db = .ok body) (families : Families db) :
    ∃ answered shown, body = .claim answered ∧
      listClaims ⟨request.memberId, none, none⟩ next = .ok shown ∧ answered ∈ shown := by
  obtain ⟨member, found, rfl⟩ := submitClaim_ok returned
  unfold submittedClaim getCurrentMember at replied
  rw [found] at replied
  cases replied
  obtain ⟨household, householdStored, home⟩ := families.homes member (Table.mem_of_find? found)
  have householdFound : db.households.find? member.householdId = some household := by
    rw [← home]
    exact db.households.find?_self householdStored
  have loaded : loadCaller { db with
      claims := db.claims.append (request.body.claim member) fun _ => rfl } request.memberId =
      .ok (member, household) := by
    simp only [loadCaller, getCurrentMember, getCurrentHousehold, found, householdFound, bind,
      Except.bind, pure, Except.pure]
  have sameMember : member.id = request.memberId := Table.key_of_find? found
  obtain ⟨shown, listed, shows⟩ := mem_listClaims loaded (fun _ => rfl)
    (List.mem_append_right _ (List.mem_singleton.mpr rfl))
    (show db.members.find? member.id = some member by rw [sameMember]; exact found) home.symm
  exact ⟨_, shown, rfl, listed, shows⟩

theorem resolveClaim_readBack {request : ResolveClaim} {body : Body}
    (returned : resolveStoredClaim request db = .ok next)
    (replied : resolvedClaim request db = .ok body) (stay : RowsStay db next) :
    ∃ answered shown, body = .claim answered ∧
      listClaims ⟨request.memberId, none, none⟩ next = .ok shown ∧ answered ∈ shown := by
  obtain ⟨parent, household, claim, resolved, ledger, loaded, found, resolution, rfl⟩ :=
    resolveStoredClaim_ok returned
  obtain ⟨claimFound, owner, ownerFound, own⟩ := findClaim?_ok found
  unfold resolvedClaim at replied
  rw [loaded] at replied
  dsimp only [bind, Except.bind] at replied
  rw [found] at replied
  dsimp only [Option.bind_some] at replied
  rw [ownerFound] at replied
  dsimp only at replied
  rw [resolution] at replied
  cases replied
  obtain ⟨caller, home, again, sameId, isParent⟩ := loadCaller_again loaded stay
  obtain ⟨sameClaim, sameMember, _⟩ := resolveClaim_same resolution
  obtain ⟨shown, listed, shows⟩ := mem_listClaims again
    (fun teen => absurd (isParent.symm.trans teen) (by decide))
    (Table.mem_save.mpr (Or.inl ⟨rfl, claim, Table.mem_of_find? claimFound, sameClaim.symm⟩))
    (show db.members.find? resolved.memberId = some owner by rw [sameMember]; exact ownerFound)
    (own.trans sameId.symm)
  exact ⟨_, shown, rfl, listed, shows⟩

theorem activeGoals_arranged (goals : Goals) (memberId : Uuid) :
    Arranged (fun first second => second.createdAt ≤ first.createdAt)
      (goals.rows.filter fun goal => goal.memberId = memberId ∧ goal.achievedAt = none)
      (activeGoals goals memberId) := by
  have total : Std.Total fun first second : SavingsGoal => second.createdAt ≤ first.createdAt :=
    ⟨fun first second => Int.le_total second.createdAt first.createdAt⟩
  have transitive : IsTrans SavingsGoal fun first second =>
      second.createdAt ≤ first.createdAt :=
    ⟨fun _ _ _ early late => Int.le_trans late early⟩
  exact arranged_insertionSort _

theorem createSavingsGoal_readBack {request : CreateSavingsGoal} {answered : SavingsGoal}
    (returned : createSavingsGoal request db goals = .ok (answered, nextGoals)) :
    ∃ wallet active,
      getWallet ⟨request.memberId, request.targetId⟩ db nextGoals = .ok wallet ∧
        wallet.activeSavingsGoal = some active ∧ active.memberId = answered.memberId ∧
          answered.createdAt ≤ active.createdAt := by
  unfold createSavingsGoal at returned
  obtain ⟨⟨caller, household⟩, loaded, returned⟩ := bind_ok returned
  obtain ⟨_, granted, returned⟩ := bind_ok returned
  split at returned
  · cases returned
    have stored := List.mem_append_right goals.rows (List.mem_singleton.mpr
      (Eq.refl (request.body.goal request.targetId request.transaction goals.freshKey)))
    obtain ⟨active, selected, first, latest⟩ :=
      (activeGoals_arranged (goals.append
        (request.body.goal request.targetId request.transaction) fun _ => rfl)
        request.targetId).head (List.mem_filter.mpr ⟨stored, by simp [SavingsGoalCreate.goal]⟩)
    have own := (of_decide_eq_true (List.mem_filter.mp selected).2).1
    refine ⟨_, active, getWallet_granted loaded granted, first, own, ?_⟩
    rcases latest with same | later
    · exact le_of_eq (congrArg SavingsGoal.createdAt same)
    · exact later
  · cases returned

end Wallet

/-! ## Every request that writes -/

/-- What the same caller asks for to see it. -/
def followUp? : HouseholdRequest → Option HouseholdRequest
  | .updateHousehold request => some (.getHousehold request.memberId)
  | .createTeenProfile request => some (.listMembers ⟨request.memberId, false⟩)
  | .removeMember request => some (.listMembers ⟨request.memberId, false⟩)
  | .createDefinition request => some (.listDefinitions ⟨request.memberId, false⟩)
  | .updateDefinition request => some (.listDefinitions ⟨request.memberId, true⟩)
  | .archiveDefinition request => some (.listDefinitions ⟨request.memberId, false⟩)
  | .createSeries request => some (.listSeries ⟨request.memberId, false⟩)
  | .updateSeries request => some (.listSeries ⟨request.memberId, true⟩)
  | .archiveSeries request => some (.listSeries ⟨request.memberId, false⟩)
  | .manualAdjust request => some (.getWallet ⟨request.memberId, request.targetId⟩)
  | .submitClaim request => some (.listClaims ⟨request.memberId, none, none⟩)
  | .resolveClaim request => some (.listClaims ⟨request.memberId, none, none⟩)
  | .createSavingsGoal request => some (.getWallet ⟨request.memberId, request.targetId⟩)
  | _ => none

/-- The request, its answer, and the answer to the next request. -/
inductive Shows : HouseholdRequest → Body → Body → Prop where
  | household {request : UpdateHousehold} {answered shown : HouseholdResponse}
      (same : HouseholdShown answered shown) :
      Shows (.updateHousehold request) (.household answered) (.household shown)
  | teen {request : CreateTeenProfile} {answered : MemberResponse}
      {shown : List MemberResponse} (listed : answered ∈ shown) :
      Shows (.createTeenProfile request) (.member answered) (.members shown)
  | memberRemoved {request : RemoveMember} {shown : List MemberResponse}
      (gone : ∀ member ∈ shown, member.id ≠ request.targetId) :
      Shows (.removeMember request) .empty (.members shown)
  | definition {request : CreateDefinition} {answered : TaskDefinitionResponse}
      {shown : List TaskDefinitionResponse} (listed : answered ∈ shown) :
      Shows (.createDefinition request) (.definition answered) (.definitions shown)
  | definitionUpdated {request : UpdateDefinition} {answered listed : TaskDefinitionResponse}
      {shown : List TaskDefinitionResponse} (listedShown : listed ∈ shown)
      (same : DefinitionShown answered listed) :
      Shows (.updateDefinition request) (.definition answered) (.definitions shown)
  | definitionArchived {request : ArchiveDefinition} {shown : List TaskDefinitionResponse}
      (gone : ∀ definition ∈ shown, definition.id ≠ request.definitionId) :
      Shows (.archiveDefinition request) .empty (.definitions shown)
  | series {request : CreateSeries} {answered : SeriesResponse} {shown : List SeriesResponse}
      (listed : answered ∈ shown) :
      Shows (.createSeries request) (.series answered) (.seriesList shown)
  | seriesUpdated {request : UpdateSeries} {answered : SeriesResponse}
      {shown : List SeriesResponse} (listed : answered ∈ shown) :
      Shows (.updateSeries request) (.series answered) (.seriesList shown)
  | seriesArchived {request : ArchiveSeries} {shown : List SeriesResponse}
      (gone : ∀ series ∈ shown, series.id ≠ request.seriesId) :
      Shows (.archiveSeries request) .empty (.seriesList shown)
  | adjusted {request : ManualAdjust} {answered : LedgerEntryResponse}
      {wallet : WalletResponse} (balance : wallet.balance = answered.balanceAfter) :
      Shows (.manualAdjust request) (.ledgerEntry answered) (.wallet wallet)
  | claimed {request : SubmitClaim} {answered : ClaimResponse} {shown : List ClaimResponse}
      (listed : answered ∈ shown) :
      Shows (.submitClaim request) (.claim answered) (.claims shown)
  | claimResolved {request : ResolveClaim} {answered : ClaimResponse}
      {shown : List ClaimResponse} (listed : answered ∈ shown) :
      Shows (.resolveClaim request) (.claim answered) (.claims shown)
  | savingsGoal {request : CreateSavingsGoal} {answered active : SavingsGoal}
      {wallet : WalletResponse} (first : wallet.activeSavingsGoal = some active)
      (own : active.memberId = answered.memberId)
      (latest : answered.createdAt ≤ active.createdAt) :
      Shows (.createSavingsGoal request) (.savingsGoal answered) (.wallet wallet)

def ReadsBack (pytz : String → Option TzInfo) (ending : SessionEnd) (site : SiteState)
    (request : HouseholdRequest) : Prop :=
  ∀ statusCode body read, (respondEnding pytz ending site request).2 = .success statusCode body →
    followUp? request = some read →
      ∃ shown, respondEnding pytz ending (respondEnding pytz ending site request).1 read =
          ((respondEnding pytz ending site request).1, .success 200 shown) ∧
        Shows request body shown

/-- The session is committed before its request is answered, or what was answered can be
committed. -/
def CommitsAnswered (ending : SessionEnd) (db : Database) (request : HouseholdRequest) : Prop :=
  ending = .beforeReply ∨ ∀ result body, lateWrite? db request = some (result, .ok body) →
    ∃ next, result = .ok next

section Replies

variable {site : SiteState} {statusCode status : Nat} {body : Body}

theorem replyOf_success {result : Except RequestError Body}
    (replied : replyOf statusCode result = .success status body) : result = .ok body := by
  cases result with
  | error raised => cases raised <;> cases replied
  | ok answer =>
      cases replied
      rfl

theorem read_success {Answer : Type} {result : Except RequestError Answer} {answer : Answer}
    {wrap : Answer → Body} (returned : result = .ok answer) :
    site.read (result.map wrap) = (site, .success 200 (wrap answer)) := by
  rw [returned]
  rfl

theorem write_success {result : Except RequestError Database}
    {answer : Except RequestError Body}
    (replied : (site.write statusCode result answer).2 = .success status body) :
    result = .ok (site.write statusCode result answer).1.db ∧ answer = .ok body := by
  obtain ⟨next, returned, answered⟩ := bind_ok (replyOf_success replied)
  subst returned
  exact ⟨rfl, answered⟩

end Replies

section Endings

variable {pytz : String → Option TzInfo} {ending : SessionEnd} {site : SiteState}
  {request read : HouseholdRequest} {statusCode : Nat} {body : Body}

theorem respond_lateWrite {result : Except RequestError Database}
    {answer : Except RequestError Body} (late : lateWrite? site.db request = some (result, answer)) :
    respond pytz site request = site.write 200 result answer := by
  cases request <;> cases late <;> rfl

/-- A request that is answered, and whose answer is committed, is the one that commits
first. -/
theorem respondEnding_success (commits : CommitsAnswered ending site.db request)
    (replied : (respondEnding pytz ending site request).2 = .success statusCode body) :
    respondEnding pytz ending site request = respond pytz site request := by
  cases ending with
  | beforeReply => rfl
  | afterReply =>
      cases late : lateWrite? site.db request with
      | none => simp only [respondEnding, late]
      | some written =>
          obtain ⟨result, answer⟩ := written
          simp only [respondEnding, late] at replied ⊢
          have answered := replyOf_success replied
          subst answered
          obtain ⟨next, committed⟩ :=
            commits.resolve_left SessionEnd.noConfusion result body late
          rw [respond_lateWrite late, committed]
          rfl

theorem respondEnding_followUp (asked : followUp? request = some read) :
    respondEnding pytz ending site read = respond pytz site read := by
  cases ending with
  | beforeReply => rfl
  | afterReply => cases request <;> cases asked <;> rfl

end Endings

section Requests

variable (pytz : String → Option TzInfo) (verifyPassword : String → String → Bool)

theorem respond_rowsStay (events : List ServerEvent) (goals : Goals)
    (request : HouseholdRequest) :
    RowsStay (served pytz verifyPassword events).world.db
      (respond pytz ⟨served pytz verifyPassword events, goals⟩ request).1.db := by
  unfold SiteState.db
  rw [respond_server pytz verifyPassword]
  cases request.event? with
  | none => exact .refl _
  | some event =>
      have stay := served_rowsStay pytz verifyPassword events [event]
      rw [served_snoc] at stay
      exact stay

/-- Whatever a request answers that it has written, the next one shows. -/
theorem writes_read_back (ending : SessionEnd) (events : List ServerEvent) (goals : Goals)
    (request : HouseholdRequest)
    (commits : CommitsAnswered ending (served pytz verifyPassword events).world.db request) :
    ReadsBack pytz ending ⟨served pytz verifyPassword events, goals⟩ request := by
  intro statusCode body read replied asked
  have stay := respond_rowsStay pytz verifyPassword events goals request
  -- from here the session ends before the reply
  have same := respondEnding_success commits replied
  rw [same] at replied ⊢
  rw [respondEnding_followUp asked]
  cases request with
  | updateHousehold request =>
      cases asked
      obtain ⟨returned, answer⟩ := write_success replied
      obtain ⟨answered, shown, rfl, got, same⟩ := updateHousehold_readBack returned answer
      exact ⟨_, read_success got, .household same⟩
  | createTeenProfile request =>
      cases asked
      obtain ⟨returned, answer⟩ := write_success replied
      obtain ⟨answered, shown, rfl, got, listed⟩ :=
        createTeenProfile_readBack returned answer stay
      exact ⟨_, read_success got, .teen listed⟩
  | removeMember request =>
      cases asked
      obtain ⟨returned, answer⟩ := write_success replied
      cases answer
      obtain ⟨shown, got, gone⟩ := removeMember_readBack returned stay
      exact ⟨_, read_success got, .memberRemoved gone⟩
  | createDefinition request =>
      cases asked
      obtain ⟨returned, answer⟩ := write_success replied
      obtain ⟨answered, shown, rfl, got, listed⟩ :=
        createDefinition_readBack returned answer stay
      exact ⟨_, read_success got, .definition listed⟩
  | updateDefinition request =>
      cases asked
      obtain ⟨returned, answer⟩ := write_success replied
      obtain ⟨answered, shown, listed, rfl, got, listedShown, same⟩ :=
        updateDefinition_readBack returned answer stay
      exact ⟨_, read_success got, .definitionUpdated listedShown same⟩
  | archiveDefinition request =>
      cases asked
      obtain ⟨returned, answer⟩ := write_success replied
      cases answer
      obtain ⟨shown, got, gone⟩ := archiveDefinition_readBack returned stay
      exact ⟨_, read_success got, .definitionArchived gone⟩
  | createSeries request =>
      cases asked
      obtain ⟨returned, answer⟩ := write_success replied
      obtain ⟨answered, shown, rfl, got, listed⟩ := createSeries_readBack returned answer stay
      exact ⟨_, read_success got, .series listed⟩
  | updateSeries request =>
      cases asked
      obtain ⟨returned, answer⟩ := write_success replied
      obtain ⟨answered, shown, rfl, got, listed⟩ := updateSeries_readBack returned answer stay
      exact ⟨_, read_success got, .seriesUpdated listed⟩
  | archiveSeries request =>
      cases asked
      obtain ⟨returned, answer⟩ := write_success replied
      cases answer
      obtain ⟨shown, got, gone⟩ := archiveSeries_readBack returned stay
      exact ⟨_, read_success got, .seriesArchived gone⟩
  | manualAdjust request =>
      cases asked
      obtain ⟨returned, answer⟩ := write_success replied
      obtain ⟨answered, wallet, rfl, got, balance⟩ := manualAdjust_readBack returned answer stay
      exact ⟨_, read_success got, .adjusted balance⟩
  | submitClaim request =>
      cases asked
      obtain ⟨returned, answer⟩ := write_success replied
      have families := (families_always pytz verifyPassword events).at_end
      obtain ⟨answered, shown, rfl, got, listed⟩ :=
        submitClaim_readBack returned answer families
      exact ⟨_, read_success got, .claimed listed⟩
  | resolveClaim request =>
      cases asked
      obtain ⟨returned, answer⟩ := write_success replied
      obtain ⟨answered, shown, rfl, got, listed⟩ := resolveClaim_readBack returned answer stay
      exact ⟨_, read_success got, .claimResolved listed⟩
  | createSavingsGoal request =>
      cases asked
      obtain ⟨⟨goal, nextGoals⟩, returned, rfl⟩ := map_ok (replyOf_success replied)
      obtain ⟨wallet, active, got, first, own, latest⟩ := createSavingsGoal_readBack returned
      refine ⟨_, read_success ?_, .savingsGoal first own latest⟩
      rw [← got]
      simp only [respond, returned]
      rfl
  | _ => cases asked

end Requests

/-! ## Points given by a parent -/

def pocketMoney : ManualAdjust where
  clock := ⟨nightOf 1, nightOf 1⟩
  memberId := 1
  targetId := 2
  body :=
    { memberId := 2
      delta := 25
      reason := "Helped a neighbour"
      reasonLength := by decide }

/-- The wallet shows the balance that the adjustment answered with. -/
theorem writes_read_back_sample :
    let site : SiteState := { server := served utcOnly (fun _ _ => false) firstChore }
    let paid := respondEnding utcOnly .afterReply site (.manualAdjust pocketMoney)
    let answered : LedgerEntryResponse :=
      ⟨25, 25, .manualAdjustment, "Helped a neighbour", nightOf 1⟩
    paid.2 = .success 200 (.ledgerEntry answered) ∧
      ∃ shown, respondEnding utcOnly .afterReply paid.1 (.getWallet ⟨1, 2⟩) =
          (paid.1, .success 200 shown) ∧
        Shows (.manualAdjust pocketMoney) (.ledgerEntry answered) shown := by
  intro site paid answered
  have replied : paid.2 = .success 200 (.ledgerEntry answered) := by decide +kernel
  have commits : CommitsAnswered .afterReply site.db (.manualAdjust pocketMoney) :=
    Or.inr fun result body late => nomatch late
  exact ⟨replied, writes_read_back utcOnly (fun _ _ => false) .afterReply firstChore _
    (.manualAdjust pocketMoney) commits 200 _ _ replied rfl⟩

/-- A name that its column is too short for. -/
def longName : UpdateHousehold where
  memberId := 1
  body := { editTimezone "UTC" with name := some (String.ofList (List.replicate 201 'a')) }

/-- Answered with a name that the next request does not show. -/
example :
    let site : SiteState := { server := served utcOnly (fun _ _ => false) firstChore }
    let edited := respondEnding utcOnly .afterReply site (.updateHousehold longName)
    edited.2 = .success 200 (.household (.of
        { registeredFamily with name := String.ofList (List.replicate 201 'a') })) ∧
      (respondEnding utcOnly .afterReply edited.1 (.getHousehold 1)).2 =
        .success 200 (.household (.of registeredFamily)) := by
  decide +kernel

end KidsChores.Properties
