import KidsChores.Properties.HouseholdLeaks

/-!
# Households that do not interfere

A request of a household touches nothing of another's, and neither its reply nor its
effect tells two states apart that agree on the household, but for the requests that
meet another household's members, series or placeholders.
-/

set_option autoImplicit false

namespace KidsChores.Properties

open KidsChores.Api
open KidsChores.Library.PyDatetime
open KidsChores.Library.Runs
open KidsChores.Models
open KidsChores.Planning
open KidsChores.Routers
open KidsChores.Routers.SavingsGoals
open KidsChores.Server
open KidsChores.Site

/-! ## Every request -/

/-- Both states draw the same ids for the rows the request adds, and Redis holds the same
of a new member. -/
def SameDraws (site other : SiteState) : HouseholdRequest → Prop
  | .createTeenProfile _ =>
      site.db.members.freshKey = other.db.members.freshKey ∧
        keysOf site.server site.db.members.freshKey =
          keysOf other.server site.db.members.freshKey
  | .createDefinition _ =>
      site.db.definitions.freshKey = other.db.definitions.freshKey ∧
        site.db.instances.freshKey = other.db.instances.freshKey
  | .createSeries _ =>
      site.db.series.freshKey = other.db.series.freshKey ∧
        site.db.seriesInstances.freshKey = other.db.seriesInstances.freshKey
  | .submitClaim _ => site.db.claims.freshKey = other.db.claims.freshKey
  | .createSavingsGoal _ => site.goals.freshKey = other.goals.freshKey
  | _ => True

/-- The request meets nothing of another household. -/
def KeepsHome (pytz : String → Option TzInfo) (home : Uuid) (site other : SiteState) :
    HouseholdRequest → Prop
  | .verifyMemberPin request => ∀ caller, loadCaller site.db request.memberId = .ok caller →
      PinConfined home site other request
  | .createTeenProfile request => TeenConfined site other request
  | .createDefinition request => DefinitionConfined pytz site other request
  | _ => True

section Every

variable {pytz : String → Option TzInfo} {home : Uuid} {site other : SiteState}
variable (agree : Agree home site other) (settled : SettledSite site)
  (otherSettled : SettledSite other)
include agree settled otherSettled

theorem read_nonInterfering {request : HouseholdRequest} {reply otherReply : Reply}
    (read : respond pytz site request = (site, reply))
    (otherRead : respond pytz other request = (other, otherReply)) (same : reply = otherReply)
    (joins : ∀ added, request ≠ .createTeenProfile added) :
    NonInterfering pytz home site other request := by
  refine Served.nonInterfering ?_ ?_ agree settled otherSettled joins
  · rw [read, otherRead]
    exact served_read agree
  · rw [read, otherRead, same]

theorem idempotent_nonInterfering {request : HouseholdRequest} {memberId : Uuid}
    {outcome otherOutcome : World × Except RequestError Response}
    (asks : AsksFrom home site.db memberId)
    (run : respond pytz site request = site.idempotent outcome)
    (otherRun : respond pytz other request = other.idempotent otherOutcome)
    (alike : outcome.2 = otherOutcome.2 ∧ SameRun home memberId site.server.world
      other.server.world outcome.1 otherOutcome.1)
    (joins : ∀ added, request ≠ .createTeenProfile added) :
    NonInterfering pytz home site other request := by
  obtain ⟨caller, found, own⟩ := asks
  refine Served.nonInterfering ?_ ?_ agree settled otherSettled joins
  · rw [run, otherRun]
    exact alike.2.served agree ((owner?_of_find? found).trans (congrArg some own))
  · rw [run, otherRun]
    simp only [SiteState.idempotent, alike.1]

omit settled otherSettled in
theorem cached_same {memberId : Uuid} (asks : AsksFrom home site.db memberId) (now : Instant)
    (idempotencyKey : String) :
    site.server.world.cache.get now memberId idempotencyKey =
      other.server.world.cache.get now memberId idempotencyKey := by
  obtain ⟨caller, found, own⟩ := asks
  have held := agree.keys memberId ((owner?_of_find? found).trans (congrArg some own))
  exact congrFun (congrFun (congrArg MemberKeys.responses held) now) idempotencyKey

theorem task_nonInterfering {request : HouseholdRequest}
    {role : Member → Except RequestError Unit}
    {owns : Member → TaskInstance → Except RequestError Unit} {handler : Tasks.TaskHandler}
    {asked : Tasks.TaskRequest} (asks : AsksFrom home site.db asked.memberId)
    (run : respond pytz site request =
      site.idempotent (Tasks.taskMutation role owns handler asked site.server.world))
    (otherRun : respond pytz other request =
      other.idempotent (Tasks.taskMutation role owns handler asked other.server.world))
    (handlers : SameHandler home site.db other.db handler)
    (joins : ∀ added, request ≠ .createTeenProfile added) :
    NonInterfering pytz home site other request :=
  idempotent_nonInterfering agree settled otherSettled asks run otherRun
    (taskMutation_alike agree.holdings settled.rows asks
      (cached_same agree asks _ _) handlers) joins

theorem nonInterfering_iff {request : HouseholdRequest}
    (asks : AsksFrom home site.db request.memberId) (draws : SameDraws site other request) :
    NonInterfering pytz home site other request ↔ KeepsHome pytz home site other request := by
  have same := agree.holdings
  have rows := settled.rows
  have otherRows := otherSettled.rows
  have reads := @read_nonInterfering pytz _ _ _ agree settled otherSettled
  have writes := @write_nonInterfering pytz _ _ _ agree settled otherSettled
  have tasks := @task_nonInterfering pytz _ _ _ agree settled otherSettled
  cases request with
  | verifyMemberPin request => exact verifyMemberPin_iff agree settled otherSettled asks
  | createTeenProfile request =>
      exact createTeenProfile_iff agree settled otherSettled asks draws.1 draws.2
  | createDefinition request =>
      exact createDefinition_iff agree settled otherSettled asks draws.1 draws.2
  | getHousehold memberId =>
      refine iff_of_true (reads rfl rfl ?_ (by simp)) trivial
      rw [@getHousehold_same _ _ _ same memberId asks]
  | listMembers request =>
      refine iff_of_true (reads rfl rfl ?_ (by simp)) trivial
      rw [listMembers_same same asks]
  | getTodayTasks request =>
      refine iff_of_true (reads rfl rfl ?_ (by simp)) trivial
      rw [getTodayTasks_same same rows otherRows asks]
  | getWeekTasks request =>
      refine iff_of_true (reads rfl rfl ?_ (by simp)) trivial
      rw [getWeekTasks_same same rows otherRows asks]
  | listDefinitions request =>
      refine iff_of_true (reads rfl rfl ?_ (by simp)) trivial
      rw [listDefinitions_same same asks]
  | listSeries request =>
      refine iff_of_true (reads rfl rfl ?_ (by simp)) trivial
      rw [listSeries_same same asks]
  | listSeriesInstances request =>
      refine iff_of_true (reads rfl rfl ?_ (by simp)) trivial
      rw [listSeriesInstances_same same rows.unlinked otherRows.unlinked asks]
  | listClaims request =>
      refine iff_of_true (reads rfl rfl ?_ (by simp)) trivial
      rw [listClaims_same same asks]
  | getWallet request =>
      refine iff_of_true (reads rfl rfl ?_ (by simp)) trivial
      rw [getWallet_same same agree.goals asks]
  | getLedger request =>
      refine iff_of_true (reads rfl rfl ?_ (by simp)) trivial
      rw [getLedger_same same asks]
  | getApprovalInbox memberId =>
      refine iff_of_true (reads rfl rfl ?_ (by simp)) trivial
      rw [@getApprovalInbox_same _ _ _ same memberId rows asks]
  | getReport request =>
      refine iff_of_true (reads rfl rfl ?_ (by simp)) trivial
      rw [getReport_same same rows otherRows asks]
  | updateHousehold request =>
      exact iff_of_true (writes rfl rfl ((updateHousehold_alike same asks).mapError _)
        (fun _ _ => updatedHousehold_same same asks) (by simp)) trivial
  | removeMember request =>
      exact iff_of_true (writes rfl rfl
        ((removeMember_alike same rows otherRows asks).mapError _) (fun _ _ => rfl) (by simp))
        trivial
  | updateDefinition request =>
      exact iff_of_true (writes rfl rfl
        ((updateDefinition_alike same rows otherRows asks).mapError _)
        (fun _ _ => updatedDefinition_same same asks) (by simp)) trivial
  | archiveDefinition request =>
      exact iff_of_true (writes rfl rfl
        ((archiveDefinition_alike same rows otherRows asks).mapError _) (fun _ _ => rfl)
        (by simp)) trivial
  | createSeries request =>
      exact iff_of_true (writes rfl rfl
        ((createSeries_alike same rows otherRows asks draws.1 draws.2).mapError _)
        (fun _ _ => createdSeries_same same asks draws.1) (by simp)) trivial
  | updateSeries request =>
      exact iff_of_true (writes rfl rfl
        ((updateSeries_alike same rows otherRows asks).mapError _)
        (fun _ _ => updatedSeries_same same asks) (by simp)) trivial
  | archiveSeries request =>
      exact iff_of_true (writes rfl rfl
        ((archiveSeries_alike same rows otherRows asks).mapError _) (fun _ _ => rfl)
        (by simp)) trivial
  | manualAdjust request =>
      exact iff_of_true (writes rfl rfl
        ((manualAdjust_alike same rows otherRows asks).mapError _)
        (fun _ returned => adjustment_same same asks returned) (by simp)) trivial
  | submitClaim request =>
      exact iff_of_true (writes rfl rfl ((submitClaim_alike same asks draws).mapError _)
        (fun _ _ => submittedClaim_same same asks draws) (by simp)) trivial
  | resolveClaim request =>
      exact iff_of_true (writes rfl rfl
        ((resolveStoredClaim_alike same rows otherRows asks).mapError _)
        (fun _ _ => resolvedClaim_same same rows otherRows asks) (by simp)) trivial
  | createSavingsGoal request =>
      exact iff_of_true (createSavingsGoal_nonInterfering agree asks draws) trivial
  | generateLinkCode request =>
      obtain ⟨reply, served⟩ := generateLinkCode_served agree asks
      exact iff_of_true (served.nonInterfering reply agree settled otherSettled (by simp)) trivial
  | completeTask request note =>
      exact iff_of_true (tasks asks rfl rfl
        (completeHandler_same same request.clock rows otherRows note) (by simp)) trivial
  | excuseTask request excuseText =>
      exact iff_of_true (tasks asks rfl rfl
        (excuseHandler_same same request.clock excuseText) (by simp)) trivial
  | reviewTask request approve comment =>
      exact iff_of_true (tasks asks rfl rfl
        (reviewHandler_same same request.clock rows otherRows approve comment) (by simp))
        trivial
  | cancelTask request reason =>
      exact iff_of_true (tasks asks rfl rfl
        (cancelHandler_same same request.clock reason) (by simp)) trivial
  | bulkApprove request =>
      exact iff_of_true (idempotent_nonInterfering agree settled otherSettled asks rfl rfl
        (bulkApprove_alike same rows otherRows asks
          (cached_same agree asks _ _)) (by simp)) trivial

end Every

/-! ## Runs of a household's requests -/

def answers (pytz : String → Option TzInfo) : List HouseholdRequest → SiteState → List Reply
  | [], _ => []
  | request :: rest, site =>
      (respond pytz site request).2 :: answers pytz rest (respond pytz site request).1

def afterRequests (pytz : String → Option TzInfo) :
    SiteState → List HouseholdRequest → SiteState :=
  runFrom fun site request => (respond pytz site request).1

/-- Each request is of the household, draws the same in both runs and keeps home. -/
def EachKeepsHome (pytz : String → Option TzInfo) (home : Uuid) :
    List HouseholdRequest → SiteState → SiteState → Prop
  | [], _, _ => True
  | request :: rest, site, other =>
      AsksFrom home site.db request.memberId ∧ SameDraws site other request ∧
        KeepsHome pytz home site other request ∧
          EachKeepsHome pytz home rest (respond pytz site request).1
            (respond pytz other request).1

section Runs

variable {pytz : String → Option TzInfo} {home : Uuid}

theorem respond_settled {site : SiteState} (settled : SettledSite site)
    (request : HouseholdRequest) : SettledSite (respond pytz site request).1 :=
  @siteStep_settled pytz (fun _ _ => false) site (.request request) settled

theorem Untouched.trans {away : Uuid} {site middle next : SiteState}
    (before : Untouched away site middle) (after : Untouched away middle next)
    (stay : MembersStay site.db middle.db) : Untouched away site next := by
  refine ⟨after.holdings.trans before.holdings, after.goals.trans before.goals, ?_⟩
  intro memberId owned
  exact (after.attempts memberId (membersStay_kept stay memberId away owned)).trans
    (before.attempts memberId owned)

/-- By induction on the requests: the two runs agree on the household all along. -/
theorem answers_same {requests : List HouseholdRequest} {site other : SiteState}
    (agree : Agree home site other) (settled : SettledSite site)
    (otherSettled : SettledSite other) (keep : EachKeepsHome pytz home requests site other) :
    answers pytz requests site = answers pytz requests other ∧
      Agree home (afterRequests pytz site requests) (afterRequests pytz other requests) ∧
      ∀ away, away ≠ home → Untouched away site (afterRequests pytz site requests) := by
  induction requests generalizing site other with
  | nil => exact ⟨rfl, agree, fun away _ => ⟨rfl, rfl, fun _ _ => rfl⟩⟩
  | cons request rest ih =>
      obtain ⟨asks, draws, keeps, later⟩ := keep
      have apart := (nonInterfering_iff agree settled otherSettled asks draws).mpr keeps
      obtain ⟨replies, agreeing, untouched⟩ := ih apart.agree (respond_settled settled request)
        (respond_settled otherSettled request) later
      refine ⟨?_, agreeing, fun away foreign => ?_⟩
      · simp only [answers, apart.reply, replies]
      · exact (apart.untouched away foreign).trans (untouched away foreign)
          (respond_membersStay pytz site request)

/-- In every state of every run the rows have their households.  From any two such states
that agree on a household, its members' requests interfere with nobody exactly if they
meet nothing of another household. -/
theorem household_noninterference_iff (pytz : String → Option TzInfo)
    (verifyPassword : String → String → Bool) :
    (∀ site, Founded site → ∀ events,
      Always (siteStep pytz verifyPassword) SettledSite site events) ∧
    ∀ home site other request, SettledSite site → SettledSite other →
      Agree home site other → AsksFrom home site.db request.memberId →
        SameDraws site other request →
          (NonInterfering pytz home site other request ↔
            KeepsHome pytz home site other request) :=
  ⟨fun _ founded events => always_settled founded events,
    fun _ _ _ _ settled otherSettled agree asks draws =>
      nonInterfering_iff agree settled otherSettled asks draws⟩

end Runs

/-! ## The family next door -/

/-- Two families, after what the one next door has done. -/
def nextDoor (events : List ApiEvent) : SiteState where
  server := { world := { db := (runFrom (apiStep utcOnly) ⟨neighbourhood, []⟩ events).db } }

theorem nextDoor_settled (events : List ApiEvent) : SettledSite (nextDoor events) := by
  have founded : Founded (nextDoor []) := ⟨⟨rfl, rfl, rfl, rfl, rfl⟩, rfl, rfl⟩
  have always : Always (apiStep utcOnly) (fun world => SettledRows world.db)
      ⟨neighbourhood, []⟩ events :=
    invariant_always (fun world : World => SettledRows world.db)
      (fun _ event settled => effect_settled (apiStep_effect event) settled)
      founded.settled.rows events
  exact ⟨always.at_end, List.forall_mem_nil _⟩

/-- Whether the series is there makes no difference to the other family. -/
theorem nextDoor_agree :
    Agree 1 (nextDoor neighboursSeries) (nextDoor (neighboursSeries.take 1)) :=
  ⟨by decide +kernel, rfl, fun _ _ => rfl⟩

/-- An attempt at the PIN of one's own teen. -/
theorem household_noninterference_own_pin :
    NonInterfering utcOnly 1 (nextDoor neighboursSeries) (nextDoor (neighboursSeries.take 1))
      (.verifyMemberPin ⟨nightOf 1, 1, 2, id, "0000"⟩) := by
  refine ((household_noninterference_iff utcOnly fun _ _ => false).2 1 _ _
    (.verifyMemberPin ⟨nightOf 1, 1, 2, id, "0000"⟩) (nextDoor_settled _) (nextDoor_settled _)
    nextDoor_agree ⟨sampleParent, by decide +kernel, rfl⟩ trivial).mpr fun caller _ =>
      ⟨?_, Iff.rfl⟩
  intro target found
  have stored : (nextDoor neighboursSeries).db.members.find? 2 = some sampleTeen := by
    decide +kernel
  rw [← Option.some.inj (stored.symm.trans found)]
  rfl

/-- A definition in the series next door. -/
def dishesNextDoor : HouseholdRequest :=
  .createDefinition ⟨nightOf 1, nightOf 1, 1,
    { dailyDishes with assigneeId := 2, seriesId := some 1 }⟩

/-- The definition tells whether that series is there, and an attempt at the PIN of the
teen next door counts. -/
theorem neighbours_interfere :
    AsksFrom 1 (nextDoor neighboursSeries).db 1 ∧
      Agree 1 (nextDoor neighboursSeries) (nextDoor (neighboursSeries.take 1)) ∧
      SameDraws (nextDoor neighboursSeries) (nextDoor (neighboursSeries.take 1))
        dishesNextDoor ∧
      ¬ NonInterfering utcOnly 1 (nextDoor neighboursSeries)
        (nextDoor (neighboursSeries.take 1)) dishesNextDoor ∧
      ¬ NonInterfering utcOnly 1 (nextDoor neighboursSeries) (nextDoor neighboursSeries)
        (.verifyMemberPin ⟨nightOf 1, 1, 4, id, "0000"⟩) := by
  refine ⟨⟨sampleParent, by decide +kernel, rfl⟩, nextDoor_agree,
    ⟨by decide +kernel, by decide +kernel⟩,
    fun apart => ?_, fun apart => ?_⟩
  · exact absurd apart.reply (by decide +kernel)
  · exact absurd ((apart.untouched 2 (by decide)).attempts 4 (by decide +kernel))
      (by decide +kernel)

end KidsChores.Properties
