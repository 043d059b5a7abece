import KidsChores.Properties.TenantIsolation
import KidsChores.Site

/-!
# Rows that have a household

Every row leads to one household: an instance through its definition and its assignee
alike, an entry, a claim and a goal through their member, a window through its series.
No event takes that back, whatever series a definition names.
-/

set_option autoImplicit false

namespace KidsChores.Properties

open KidsChores.Api
open KidsChores.Library
open KidsChores.Library.PyDatetime
open KidsChores.Library.Runs
open KidsChores.Library.Tenancy
open KidsChores.Lifecycle
open KidsChores.Models
open KidsChores.Routers
open KidsChores.Routers.Definitions
open KidsChores.Routers.SavingsGoals
open KidsChores.Routers.Series
open KidsChores.Routers.Wallet
open KidsChores.Server
open KidsChores.Services.Ledger
open KidsChores.Services.StateMachine
open KidsChores.Session
open KidsChores.Site
open KidsChores.Workers.GenerateInstances

/-! ## The invariant -/

def assigneeReferences : References TaskDefinition Ref where
  anchor definition := .household definition.householdId
  refs definition := [.member definition.assigneeId]

def taskReferences : References TaskInstance Ref where
  anchor task := .definition task.definitionId
  refs task := [.member task.assigneeId]

def windowReferences : References SeriesInstance Ref where
  anchor window := .series window.seriesId
  refs _ := []

def accountReferences : References LedgerEntry Ref where
  anchor entry := .member entry.memberId
  refs _ := []

def claimantReferences : References Claim Ref where
  anchor claim := .member claim.memberId
  refs _ := []

def saverReferences : References SavingsGoal Ref where
  anchor goal := .member goal.memberId
  refs _ := []

/-- An entry about an instance is its assignee's. -/
def PostedToAssignee (instances : List TaskInstance) (entry : LedgerEntry) : Prop :=
  ∀ taskId ∈ entry.taskInstanceId, ∃ task ∈ instances,
    task.id = taskId ∧ task.assigneeId = entry.memberId

structure SettledRows (db : Database) : Prop where
  definitions : AllHome (owner? db) assigneeReferences db.definitions.rows
  instances : AllHome (owner? db) taskReferences db.instances.rows
  windows : AllHome (owner? db) windowReferences db.seriesInstances.rows
  entries : AllHome (owner? db) accountReferences db.ledger.entries
  claims : AllHome (owner? db) claimantReferences db.claims.rows
  unlinked : Unlinked db
  posted : ∀ entry ∈ db.ledger.entries, PostedToAssignee db.instances.rows entry

structure SettledSite (site : SiteState) : Prop where
  rows : SettledRows site.db
  goals : AllHome (owner? site.db) saverReferences site.goals.rows

/-! ## One event -/

theorem atHome_nil {db : Database} {anchor : Ref} {owner : Uuid}
    (owned : owner? db anchor = some owner) : AtHome (owner? db) anchor [] :=
  ⟨owner, owned, fun _ absent => absurd absent List.not_mem_nil⟩

theorem PostedToAssignee.later {instances later : List TaskInstance} {entry : LedgerEntry}
    (posted : PostedToAssignee instances entry)
    (kept : ∀ task ∈ instances, ∃ next ∈ later,
      next.id = task.id ∧ next.assigneeId = task.assigneeId) :
    PostedToAssignee later entry := by
  intro taskId named
  obtain ⟨task, stored, sameId, sameAssignee⟩ := posted taskId named
  obtain ⟨next, nextStored, nextId, nextAssignee⟩ := kept task stored
  exact ⟨next, nextStored, nextId.trans sameId, nextAssignee.trans sameAssignee⟩

section Steps

variable {pytz : String → Option TzInfo} {db next : Database}

theorem SettledRows.of_kept (settled : SettledRows db)
    (keeps : OwnersKept (owner? db) (owner? next))
    (sameDefinitions : next.definitions = db.definitions)
    (sameInstances : next.instances = db.instances)
    (sameWindows : next.seriesInstances = db.seriesInstances)
    (sameLedger : next.ledger = db.ledger) (sameClaims : next.claims = db.claims) :
    SettledRows next := by
  constructor
  · rw [sameDefinitions]
    exact settled.definitions.later keeps
  · rw [sameInstances]
    exact settled.instances.later keeps
  · rw [sameWindows]
    exact settled.windows.later keeps
  · rw [sameLedger]
    exact settled.entries.later keeps
  · rw [sameClaims]
    exact settled.claims.later keeps
  · unfold Unlinked
    rw [sameInstances]
    exact settled.unlinked
  · rw [sameLedger, sameInstances]
    exact settled.posted

theorem SettledRows.recorded (settled : SettledRows db) {ledger : Ledger} {clock : Clock}
    {posting : Posting} {owner : Uuid} (record : record db.ledger clock posting = .ok ledger)
    (owned : owner? db (.member posting.memberId) = some owner)
    (own : ∀ taskId ∈ posting.taskInstanceId, ∃ task ∈ db.instances.rows,
      task.id = taskId ∧ task.assigneeId = posting.memberId) :
    SettledRows { db with ledger := ledger } := by
  have appended := (record_ok record).1
  refine { settled with entries := ?_, posted := ?_ }
  · rw [appended]
    exact settled.entries.appended (atHome_nil owned)
  · intro entry member
    rw [appended] at member
    rcases List.mem_append.mp member with old | new
    · exact settled.posted entry old
    · rw [List.mem_singleton.mp new]
      exact own

theorem SettledRows.instanceSaved (settled : SettledRows db) {task result : TaskInstance}
    (stored : task ∈ db.instances.rows) (same : SameTask task result) :
    SettledRows { db with instances := db.instances.save result } := by
  refine { settled with instances := ?_, unlinked := ?_, posted := ?_ }
  · refine settled.instances.save ?_
    simp only [taskReferences, same.definitionId, same.assigneeId]
    exact settled.instances task stored
  · intro row member
    rcases Table.mem_save.mp member with ⟨rfl, _⟩ | ⟨old, _⟩
    · exact same.seriesInstanceId.trans (settled.unlinked task stored)
    · exact settled.unlinked row old
  · intro entry member
    refine (settled.posted entry member).later fun other otherStored => ?_
    by_cases hit : other.id = result.id
    · have one : other = task :=
        db.instances.row_unique otherStored stored (hit.trans same.id)
      refine ⟨result, Table.mem_save.mpr (Or.inl ⟨rfl, other, otherStored, hit⟩), hit.symm,
        ?_⟩
      rw [same.assigneeId, one]
    · exact ⟨other, Table.mem_save.mpr (Or.inr ⟨otherStored, hit⟩), rfl, rfl⟩

theorem SettledRows.assignee (settled : SettledRows db) {task : TaskInstance} {owner : Uuid}
    (stored : task ∈ db.instances.rows)
    (owned : owner? db (.definition task.definitionId) = some owner) :
    owner? db (.member task.assigneeId) = some owner :=
  (settled.instances task stored).owner_eq owned List.mem_cons_self

/-- The row and the entries of a call on an instance someone owns. -/
theorem SettledRows.callStored (settled : SettledRows db) {clock : Clock} {actor : Member}
    {household : Household} {definition : TaskDefinition} {task result : TaskInstance}
    {ledger : Ledger} {call : ServiceCall} {owner : Uuid}
    (stored : task ∈ db.instances.rows)
    (owned : owner? db (.definition task.definitionId) = some owner)
    (effect : CallEffect clock household definition actor task db.ledger call result
      ledger) :
    SettledRows (storeCall db result ledger) := by
  have posted : SettledRows { db with ledger := ledger } := by
    rcases effect.posts with unposted | ⟨posting, recorded, ofAssignee, _, ofTask⟩
    · rw [unposted]
      exact settled
    · have assigned := settled.assignee stored owned
      rw [← ofAssignee] at assigned
      refine settled.recorded recorded assigned ?_
      intro taskId named
      rw [ofTask] at named
      cases named
      exact ⟨task, stored, rfl, ofAssignee.symm⟩
  exact posted.instanceSaved stored effect.sameTask

theorem SettledRows.called (settled : SettledRows db) {clock : Clock} {actor : Member}
    {household : Household} {definition : TaskDefinition} {task result : TaskInstance}
    {ledger : Ledger} {call : ServiceCall}
    (acts : ActsOn db actor household definition task)
    (effect : CallEffect clock household definition actor task db.ledger call result
      ledger) :
    SettledRows (storeCall db result ledger) := by
  refine @SettledRows.callStored _ settled _ _ _ _ _ _ _ _ actor.householdId
    acts.taskStored ?_ effect
  rw [← acts.definitionOfTask, owner?_definition acts.definitionStored, acts.sameHousehold]

theorem SettledRows.definitionCreated (settled : SettledRows db)
    {request : CreateDefinition} {parent : Member} {household : Household} {tz : TzInfo}
    {targetDate : Date} {instances : Table TaskInstance.id}
    (created : Created pytz request db next parent household tz targetDate instances) :
    SettledRows next := by
  have keeps := created_kept created
  have assigned := keeps _ _ (owner?_assignee created.assignee)
  have stored := created.mem_definitions.mpr (Or.inr rfl)
  have grown : ∀ task ∈ db.instances.rows, task ∈ next.instances.rows := by
    intro task member
    rw [created.committed]
    rcases upsert_cases created.upserted with same | ⟨_, _, _, _, inserted⟩
    · rw [same]
      exact member
    · rw [inserted]
      exact List.mem_append_left _ member
  constructor
  · intro definition member
    rcases created.mem_definitions.mp member with old | rfl
    · exact settled.definitions.later keeps definition old
    · refine ⟨household.id, rfl, ?_⟩
      simpa [assigneeReferences, TaskDefinitionCreate.definition] using assigned
  · intro task member
    rcases created.mem_instances member with old | ⟨due, _, _, _, rfl⟩
    · exact settled.instances.later keeps task old
    · refine ⟨household.id, owner?_definition stored, ?_⟩
      simpa [taskReferences, newInstance, TaskDefinitionCreate.definition] using assigned
  · have sameWindows : next.seriesInstances = db.seriesInstances := by
      rw [created.committed]
    rw [sameWindows]
    exact settled.windows.later keeps
  · have sameLedger : next.ledger = db.ledger := by rw [created.committed]
    rw [sameLedger]
    exact settled.entries.later keeps
  · have sameClaims : next.claims = db.claims := by rw [created.committed]
    rw [sameClaims]
    exact settled.claims.later keeps
  · intro task member
    rcases created.mem_instances member with old | ⟨due, _, _, _, rfl⟩
    · exact settled.unlinked task old
    · rfl
  · have sameLedger : next.ledger = db.ledger := by rw [created.committed]
    rw [sameLedger]
    intro entry member
    exact (settled.posted entry member).later fun task old =>
      ⟨task, grown task old, rfl, rfl⟩

theorem SettledRows.definitionSaved (settled : SettledRows db)
    {definition edited : TaskDefinition} (stored : definition ∈ db.definitions.rows)
    (same : SameParties definition edited) :
    SettledRows { db with definitions := db.definitions.save edited } := by
  have keeps : OwnersKept (owner? db)
      (owner? { db with definitions := db.definitions.save edited }) :=
    owner?_kept (.refl _) (ownerIn_save stored same.id same.householdId) (.refl _)
  refine ⟨(settled.definitions.later keeps).save ?_, settled.instances.later keeps,
    settled.windows.later keeps, settled.entries.later keeps, settled.claims.later keeps,
    settled.unlinked, settled.posted⟩
  simp only [assigneeReferences, same.householdId, same.assigneeId]
  exact settled.definitions.later keeps definition stored

theorem SettledRows.seriesCreated (settled : SettledRows db) {body : SeriesCreate}
    {household : Household} {windowStart windowEnd : Instant} :
    SettledRows (afterSeries body household windowStart windowEnd db) := by
  have keeps := afterSeries_kept db body household windowStart windowEnd
  refine ⟨?_, settled.instances.later keeps, ?_, settled.entries.later keeps,
    settled.claims.later keeps, settled.unlinked, settled.posted⟩
  · intro row member
    obtain ⟨old, oldMember, rfl⟩ := mem_afterSeries_definitions.mp member
    have home := settled.definitions.later keeps old oldMember
    split
    · exact home
    · exact home
  · have owned : owner? (afterSeries body household windowStart windowEnd db)
        (.series db.series.freshKey) = some household.id :=
      owner?_series (mem_afterSeries_series.mpr (Or.inr rfl))
    exact (settled.windows.later keeps).append (fun _ => rfl) (atHome_nil owned)

theorem SettledRows.seriesSaved (settled : SettledRows db) {series edited : Series}
    (stored : series ∈ db.series.rows) (same : SameSeries series edited) :
    SettledRows { db with series := db.series.save edited } :=
  settled.of_kept (owner?_kept (.refl _) (.refl _)
    (ownerIn_save stored same.id same.householdId)) rfl rfl rfl rfl rfl

theorem SettledRows.generated (settled : SettledRows db) {clock : JobClock}
    {householdId : Uuid} {household : Household} {tz : TzInfo}
    {rows : Table TaskInstance.id}
    (run : GeneratedFor pytz clock householdId db next household tz rows) :
    SettledRows next := by
  have upserted : ∀ old ∈ rows.rows,
      AtHome (owner? db) (taskReferences.anchor old) (taskReferences.refs old) := by
    intro old oldMember
    rcases (upsertAll_rows run.upserts).2 old oldMember with
      stored | ⟨defn, targetDate, due, inserts⟩
    · exact settled.instances old stored
    · obtain ⟨stored, _⟩ := mem_liveDefinitions (mem_generationTargets.mp inserts.target).1
      have assigned := (settled.definitions defn stored).owner_eq rfl List.mem_cons_self
      rw [inserts.built]
      refine ⟨defn.householdId, owner?_definition stored, ?_⟩
      simpa [taskReferences, newInstance] using assigned
  rw [run.committed]
  refine { settled with instances := ?_, unlinked := ?_, posted := ?_ }
  · intro task member
    obtain ⟨old, oldMember, effect⟩ := of_mem_sweeps member
    simp only [taskReferences, effect.sameTask.definitionId, effect.sameTask.assigneeId]
    exact upserted old oldMember
  · rw [← run.committed]
    exact effect_unlinked (.generated run) settled.unlinked
  · intro entry member
    refine (settled.posted entry member).later fun task stored => ?_
    have same := (sweepRow_effect ((liveDefinitions db householdId).map TaskDefinition.id)
      household.gracePeriodHours clock task).sameTask
    exact ⟨_, mem_sweeps.mpr ⟨task, (upsertAll_rows run.upserts).1 task stored, rfl⟩,
      same.id, same.assigneeId⟩

theorem SettledRows.claimResolved (settled : SettledRows db) {clock : Clock}
    {claimId : Uuid} {body : ClaimResolveRequest} {parent : Member}
    {household : Household} {claim resolved : Claim} {ledger : Ledger}
    (found : findClaim? db household claimId = some claim)
    (resolution : Wallet.resolveClaim clock parent body claim db.ledger =
      .ok (resolved, ledger)) :
    SettledRows { db with claims := db.claims.save resolved, ledger := ledger } := by
  obtain ⟨stored, member, memberFound, own⟩ := findClaim?_ok found
  obtain ⟨_, sameMember, _, posts⟩ := resolveClaim_same resolution
  have owned : owner? db (.member claim.memberId) = some member.householdId := by
    rw [← Table.key_of_find? memberFound, owner?_member (Table.mem_of_find? memberFound)]
  have posted : SettledRows { db with ledger := ledger } := by
    rcases posts with unpaid | paid
    · rw [unpaid]
      exact settled
    · refine settled.recorded paid owned ?_
      intro taskId named
      cases named
  rw [← sameMember] at owned
  exact { posted with claims := posted.claims.save (atHome_nil owned) }

theorem effect_settled {event : ApiEvent} (effect : ApiEffect pytz db event next)
    (settled : SettledRows db) : SettledRows next := by
  cases effect with
  | unchanged => exact settled
  | definitionCreated created => exact settled.definitionCreated created
  | definitionSaved stored same => exact settled.definitionSaved stored same
  | seriesCreated => exact settled.seriesCreated
  | seriesSaved stored same => exact settled.seriesSaved stored same
  | completed acts effect check =>
      have unwindowed := effect.sameTask.seriesInstanceId.trans
        (settled.unlinked _ acts.taskStored)
      cases check with
      | unlinked => exact settled.called acts effect
      | gone linked | evaluated linked =>
          rw [unwindowed] at linked
          cases linked
  | called asked acts effect => exact settled.called acts effect
  | batched loaded ran =>
      exact batch_keeps SettledRows (fun _ acts effect before => before.called acts effect)
        settled loaded ran
  | adjusted loaded found own recorded =>
      have owned := owner?_member (Table.mem_of_find? found)
      rw [Table.key_of_find? found] at owned
      refine settled.recorded recorded owned ?_
      intro taskId named
      cases named
  | claimed found =>
      exact { settled with
        claims := settled.claims.append (fun _ => rfl)
          (atHome_nil (owner?_member (Table.mem_of_find? found))) }
  | claimResolved loaded found resolution => exact settled.claimResolved found resolution
  | settings =>
      exact settled.of_kept (owner?_kept (.refl _) (.refl _) (.refl _)) rfl rfl rfl rfl rfl
  | teenAdded =>
      exact settled.of_kept (owner?_kept (ownerIn_append fun _ => rfl) (.refl _) (.refl _))
        rfl rfl rfl rfl rfl
  | memberRemoved stored =>
      exact settled.of_kept (owner?_kept (ownerIn_save stored rfl rfl) (.refl _) (.refl _))
        rfl rfl rfl rfl rfl
  | generated run => exact settled.generated run

theorem membersStay_kept (stay : MembersStay db next) :
    OwnersKept (ownerIn db.members Member.householdId)
      (ownerIn next.members Member.householdId) := by
  refine ownerIn_kept fun member stored => ?_
  obtain ⟨later, laterStored, sameId, sameHousehold, _⟩ := stay member stored
  exact ⟨later, laterStored, sameId, sameHousehold⟩

theorem serverEffect_settled {event : ServerEvent} (effect : ServerEffect pytz db next event)
    (settled : SettledRows db) : SettledRows next := by
  cases effect with
  | api effect => exact effect_settled effect settled
  | auth effect =>
      rw [effect.rest]
      exact settled.of_kept
        (owner?_kept (membersStay_kept effect.stay) (.refl _) (.refl _))
        rfl rfl rfl rfl rfl

end Steps

/-! ## The site -/

section Site

variable {pytz : String → Option TzInfo} {verifyPassword : String → String → Bool}
variable {site : SiteState}

theorem goals_later {db next : Database} {goals : List SavingsGoal}
    (home : AllHome (owner? db) saverReferences goals) (stay : MembersStay db next) :
    AllHome (owner? next) saverReferences goals := by
  intro goal member
  obtain ⟨owner, owned, _⟩ := home goal member
  exact atHome_nil (membersStay_kept stay goal.memberId owner owned)

theorem SettledSite.served (settled : SettledSite site) (event : ServerEvent) :
    SettledSite { site with
      server := serverStep pytz verifyPassword site.server event } :=
  ⟨serverEffect_settled (serverStep_effect pytz verifyPassword site.server event)
      settled.rows,
    goals_later settled.goals
      (serverStep_membersStay pytz verifyPassword site.server event)⟩

theorem createSavingsGoal_ok {request : CreateSavingsGoal} {db : Database}
    {goals next : Goals} {goal : SavingsGoal}
    (returned : createSavingsGoal request db goals = .ok (goal, next)) :
    (∃ owner, owner? db (.member request.targetId) = some owner) ∧
      next = goals.append (request.body.goal request.targetId request.transaction)
        fun _ => rfl := by
  unfold createSavingsGoal at returned
  obtain ⟨⟨member, household⟩, _, returned⟩ := bind_ok returned
  obtain ⟨_, granted, returned⟩ := bind_ok returned
  split at returned
  · cases returned
    refine ⟨?_, rfl⟩
    unfold assertWalletAccess at granted
    split at granted
    · cases granted
    · obtain ⟨target, targetFound, _⟩ := assertSameHousehold_ok granted
      refine ⟨target.householdId, ?_⟩
      rw [← Table.key_of_find? targetFound, owner?_member (Table.mem_of_find? targetFound)]
  · cases returned

theorem SettledSite.saved (settled : SettledSite site) (request : CreateSavingsGoal) :
    SettledSite (respond pytz site (.createSavingsGoal request)).1 := by
  refine ⟨settled.rows, ?_⟩
  simp only [respond]
  cases returned : createSavingsGoal request site.db site.goals with
  | error raised => exact settled.goals
  | ok created =>
      obtain ⟨⟨owner, owned⟩, grown⟩ := createSavingsGoal_ok returned
      simp only [Except.map, Except.toOption, Option.getD_some, grown]
      exact settled.goals.append (fun _ => rfl) (atHome_nil owned)

theorem siteStep_settled (event : SiteEvent) (settled : SettledSite site) :
    SettledSite (siteStep pytz verifyPassword site event) := by
  cases event with
  | server event => exact settled.served event
  | request request =>
      have server := respond_server pytz verifyPassword site request
      by_cases saves : ∃ saving, request = .createSavingsGoal saving
      · obtain ⟨saving, rfl⟩ := saves
        exact settled.saved saving
      · have goals : (respond pytz site request).1.goals = site.goals := by
          cases request with
          | createSavingsGoal saving => exact absurd ⟨saving, rfl⟩ saves
          | _ => rfl
        have split : (respond pytz site request).1 =
            ⟨(respond pytz site request).1.server, (respond pytz site request).1.goals⟩ :=
          rfl
        simp only [siteStep]
        rw [split, server, goals]
        cases request.event? with
        | none => exact settled
        | some event => exact settled.served event

/-- Families as they register, with nothing of theirs yet. -/
structure Founded (site : SiteState) : Prop where
  registered : Registered site.db
  windows : site.db.seriesInstances.rows = []
  goals : site.goals.rows = []

theorem Founded.settled (founded : Founded site) : SettledSite site := by
  obtain ⟨registered, windows, goals⟩ := founded
  refine ⟨⟨?_, ?_, ?_, ?_, ?_, ?_, ?_⟩, ?_⟩
  · rw [registered.definitions]
    exact List.forall_mem_nil _
  · rw [registered.instances]
    exact List.forall_mem_nil _
  · rw [windows]
    exact List.forall_mem_nil _
  · rw [registered.ledger]
    exact List.forall_mem_nil _
  · rw [registered.claims]
    exact List.forall_mem_nil _
  · unfold Unlinked
    rw [registered.instances]
    exact List.forall_mem_nil _
  · rw [registered.ledger]
    exact List.forall_mem_nil _
  · rw [goals]
    exact List.forall_mem_nil _

theorem always_settled (founded : Founded site) (events : List SiteEvent) :
    Always (siteStep pytz verifyPassword) SettledSite site events :=
  invariant_always SettledSite (fun _ event settled => siteStep_settled event settled)
    founded.settled events

end Site

end KidsChores.Properties
