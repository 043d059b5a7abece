import KidsChores.Api
import KidsChores.Library.Tenancy
import KidsChores.Lifecycle
import KidsChores.Properties.SweepCompleteness

/-!
# Households stay apart

Every row's references lead to rows of one household.  Each request checks the ids
it is given against the caller's household, all but the series of a new definition.
-/

set_option autoImplicit false

namespace KidsChores.Properties

open KidsChores.Api
open KidsChores.Library
open KidsChores.Library.PyDatetime
open KidsChores.Library.Runs
open KidsChores.Library.Tenancy
open KidsChores.Lifecycle
open KidsChores.Models
open KidsChores.Planning
open KidsChores.Routers
open KidsChores.Routers.Approvals
open KidsChores.Routers.Definitions
open KidsChores.Routers.Series
open KidsChores.Routers.Tasks
open KidsChores.Routers.Wallet
open KidsChores.Services.Ledger
open KidsChores.Services.StateMachine
open KidsChores.Session
open KidsChores.Workers.GenerateInstances

/-! ## References -/

inductive Ref where
  | household (id : Uuid)
  | member (id : Uuid)
  | definition (id : Uuid)
  | series (id : Uuid)
  deriving DecidableEq, Repr

def owner? (db : Database) : Ref → Option Uuid
  | .household id => some id
  | .member id => ownerIn db.members Member.householdId id
  | .definition id => ownerIn db.definitions TaskDefinition.householdId id
  | .series id => ownerIn db.series Series.householdId id

/-- The assignee, the creator and the series, against the definition's household. -/
def definitionReferences : References TaskDefinition Ref where
  anchor definition := .household definition.householdId
  refs definition := .member definition.assigneeId :: .member definition.createdBy ::
    definition.seriesId.toList.map .series

def instanceReferences : References TaskInstance Ref where
  anchor task := .definition task.definitionId
  refs task := .member task.assigneeId :: task.reviewedBy.toList.map .member

def seriesReferences : References Series Ref where
  anchor series := .household series.householdId
  refs series := [.member series.assigneeId]

def entryReferences : References LedgerEntry Ref where
  anchor entry := .member entry.memberId
  refs entry := [.member entry.createdBy]

def claimReferences : References Claim Ref where
  anchor claim := .member claim.memberId
  refs claim := claim.resolvedBy.toList.map .member

structure TenantsApart (db : Database) : Prop where
  definitions : AllHome (owner? db) definitionReferences db.definitions.rows
  instances : AllHome (owner? db) instanceReferences db.instances.rows
  series : AllHome (owner? db) seriesReferences db.series.rows
  ledger : AllHome (owner? db) entryReferences db.ledger.entries
  claims : AllHome (owner? db) claimReferences db.claims.rows

theorem tenantsApart_iff {db : Database} :
    TenantsApart db ↔ AllHome (owner? db) definitionReferences db.definitions.rows ∧
      AllHome (owner? db) instanceReferences db.instances.rows ∧
      AllHome (owner? db) seriesReferences db.series.rows ∧
      AllHome (owner? db) entryReferences db.ledger.entries ∧
      AllHome (owner? db) claimReferences db.claims.rows :=
  ⟨fun ⟨definitions, instances, series, ledger, claims⟩ =>
      ⟨definitions, instances, series, ledger, claims⟩,
    fun ⟨definitions, instances, series, ledger, claims⟩ =>
      ⟨definitions, instances, series, ledger, claims⟩⟩

instance : DecidablePred TenantsApart := fun _ =>
  decidable_of_iff _ tenantsApart_iff.symm

/-! ## The condition -/

/-- A definition that is about to be created names a series of its household, or
none. -/
def NamesOwnSeries (pytz : String → Option TzInfo) (db : Database) : ApiEvent → Prop
  | .createDefinition request =>
      ∀ loaded ∈ (loadParent db request.memberId).toOption,
        ∀ tz ∈ pytz loaded.2.timezone, request.Accepted db loaded.1 loaded.2 tz →
          ∀ seriesId ∈ request.body.seriesId, ∀ series ∈ db.series.find? seriesId,
            series.householdId = loaded.2.id
  | _ => True

instance (pytz : String → Option TzInfo) (db : Database) (event : ApiEvent) :
    Decidable (NamesOwnSeries pytz db event) := by
  unfold NamesOwnSeries
  split <;> infer_instance

/-- No instance is linked to a series window: nothing in the backend sets the
column. -/
def Unlinked (db : Database) : Prop :=
  ∀ task ∈ db.instances.rows, task.seriesInstanceId = none

/-! ## Owners are not taken back -/

section Owners

variable {db next : Database}

theorem owner?_kept
    (members : OwnersKept (ownerIn db.members Member.householdId)
      (ownerIn next.members Member.householdId))
    (definitions : OwnersKept (ownerIn db.definitions TaskDefinition.householdId)
      (ownerIn next.definitions TaskDefinition.householdId))
    (series : OwnersKept (ownerIn db.series Series.householdId)
      (ownerIn next.series Series.householdId)) :
    OwnersKept (owner? db) (owner? next) := by
  intro ref home owned
  cases ref with
  | household id => exact owned
  | member id => exact members id home owned
  | definition id => exact definitions id home owned
  | series id => exact series id home owned

theorem owner?_member {member : Member} (stored : member ∈ db.members.rows) :
    owner? db (.member member.id) = some member.householdId :=
  ownerIn_row stored

theorem owner?_definition {definition : TaskDefinition}
    (stored : definition ∈ db.definitions.rows) :
    owner? db (.definition definition.id) = some definition.householdId :=
  ownerIn_row stored

theorem owner?_series {series : Series} (stored : series ∈ db.series.rows) :
    owner? db (.series series.id) = some series.householdId :=
  ownerIn_row stored

theorem owner?_assignee {household : Household} {assigneeId : Uuid}
    (checked : requireAssignee db household assigneeId = .ok ()) :
    owner? db (.member assigneeId) = some household.id := by
  obtain ⟨member, found, own⟩ := requireAssignee_ok checked
  rw [← Table.key_of_find? found, owner?_member (Table.mem_of_find? found), own]

theorem owner?_parent {memberId : Uuid} {parent : Member} {household : Household}
    (loaded : loadParent db memberId = .ok (parent, household)) :
    owner? db (.member parent.id) = some household.id := by
  obtain ⟨found, householdFound⟩ := loadParent_ok loaded
  rw [owner?_member (Table.mem_of_find? found), Table.key_of_find? householdFound]

end Owners

/-! ## One event -/

theorem sweep_references {definitionIds : List Uuid} {gracePeriodHours : Int}
    {clock : JobClock} {task next : TaskInstance}
    (effect : SweepEffect definitionIds gracePeriodHours clock task next) :
    instanceReferences.anchor next = instanceReferences.anchor task ∧
      instanceReferences.refs next = instanceReferences.refs task := by
  cases effect <;> exact ⟨rfl, rfl⟩

section Steps

variable {pytz : String → Option TzInfo} {db next : Database}

theorem TenantsApart.later (apart : TenantsApart db)
    (keeps : OwnersKept (owner? db) (owner? next)) :
    AllHome (owner? next) definitionReferences db.definitions.rows ∧
      AllHome (owner? next) instanceReferences db.instances.rows ∧
      AllHome (owner? next) seriesReferences db.series.rows ∧
      AllHome (owner? next) entryReferences db.ledger.entries ∧
      AllHome (owner? next) claimReferences db.claims.rows :=
  ⟨apart.definitions.later keeps, apart.instances.later keeps, apart.series.later keeps,
    apart.ledger.later keeps, apart.claims.later keeps⟩

theorem entries_record {ledger posted : Ledger} {clock : Clock} {posting : Posting}
    {home : Uuid} (apart : AllHome (owner? db) entryReferences ledger.entries)
    (recorded : record ledger clock posting = .ok posted)
    (member : owner? db (.member posting.memberId) = some home)
    (creator : owner? db (.member posting.createdBy) = some home) :
    AllHome (owner? db) entryReferences posted.entries := by
  rw [(record_ok recorded).1]
  refine apart.appended ⟨home, member, ?_⟩
  simpa [entryReferences, Posting.entry] using creator

theorem TenantsApart.called (apart : TenantsApart db) {clock : Clock} {actor : Member}
    {household : Household} {definition : TaskDefinition} {task result : TaskInstance}
    {ledger : Ledger} {call : ServiceCall}
    (acts : ActsOn db actor household definition task)
    (effect : CallEffect clock household definition actor task db.ledger call result
      ledger) :
    TenantsApart (storeCall db result ledger) := by
  have home := apart.instances task acts.taskStored
  have owned : owner? db (.definition task.definitionId) = some actor.householdId := by
    rw [← acts.definitionOfTask, owner?_definition acts.definitionStored,
      acts.sameHousehold]
  have actorOwned := owner?_member acts.actorStored
  have settled : AtHome (owner? db) (instanceReferences.anchor result)
      (instanceReferences.refs result) := by
    have same := effect.sameTask
    simp only [instanceReferences, same.definitionId, same.assigneeId]
    rcases effect.reviewer with kept | acted
    · rw [kept]
      exact home
    · rw [acted]
      refine (home.cons owned actorOwned).of_subset ?_
      simp [instanceReferences]
  have entries : AllHome (owner? db) entryReferences ledger.entries := by
    rcases effect.posts with unposted | ⟨posting, recorded, ofAssignee, byActor, _⟩
    · rw [unposted]
      exact apart.ledger
    · have assigned := home.owner_eq owned List.mem_cons_self
      rw [← ofAssignee] at assigned
      rw [← byActor] at actorOwned
      exact entries_record apart.ledger recorded assigned actorOwned
  exact ⟨apart.definitions, apart.instances.save settled, apart.series, entries,
    apart.claims⟩

theorem TenantsApart.of_kept (apart : TenantsApart db)
    (keeps : OwnersKept (owner? db) (owner? next))
    (sameDefinitions : next.definitions = db.definitions)
    (sameInstances : next.instances = db.instances) (sameSeries : next.series = db.series)
    (sameLedger : next.ledger = db.ledger) (sameClaims : next.claims = db.claims) :
    TenantsApart next := by
  obtain ⟨definitions, instances, series, entries, claims⟩ := apart.later keeps
  constructor
  · rw [sameDefinitions]
    exact definitions
  · rw [sameInstances]
    exact instances
  · rw [sameSeries]
    exact series
  · rw [sameLedger]
    exact entries
  · rw [sameClaims]
    exact claims

theorem TenantsApart.generated (apart : TenantsApart db) {clock : JobClock}
    {householdId : Uuid} {household : Household} {tz : TzInfo}
    {rows : Table TaskInstance.id}
    (run : GeneratedFor pytz clock householdId db next household tz rows) :
    TenantsApart next := by
  have upserted : ∀ old ∈ rows.rows,
      AtHome (owner? db) (instanceReferences.anchor old) (instanceReferences.refs old) := by
    intro old oldMember
    rcases (upsertAll_rows run.upserts).2 old oldMember with
      stored | ⟨defn, targetDate, due, inserts⟩
    · exact apart.instances old stored
    · obtain ⟨stored, _⟩ := mem_liveDefinitions (mem_generationTargets.mp inserts.target).1
      have assigned := (apart.definitions defn stored).owner_eq rfl List.mem_cons_self
      rw [inserts.built]
      refine ⟨defn.householdId, owner?_definition stored, ?_⟩
      simpa [instanceReferences, newInstance] using assigned
  rw [run.committed]
  refine ⟨apart.definitions, ?_, apart.series, apart.ledger, apart.claims⟩
  intro task member
  obtain ⟨old, oldMember, rfl⟩ := mem_sweeps.mp member
  obtain ⟨sameAnchor, sameRefs⟩ := sweep_references (sweepRow_effect
    ((liveDefinitions db householdId).map TaskDefinition.id) household.gracePeriodHours
    clock old)
  rw [sameAnchor, sameRefs]
  exact upserted old oldMember

theorem created_kept {request : CreateDefinition} {parent : Member}
    {household : Household} {tz : TzInfo} {targetDate : Date}
    {instances : Table TaskInstance.id}
    (created : Created pytz request db next parent household tz targetDate instances) :
    OwnersKept (owner? db) (owner? next) := by
  rw [created.committed]
  exact owner?_kept (.refl _) (ownerIn_append fun _ => rfl) (.refl _)

/-- The new definition is at home if its series, where it names one, is the
household's. -/
theorem created_home {request : CreateDefinition} {parent : Member}
    {household : Household} {tz : TzInfo} {targetDate : Date}
    {instances : Table TaskInstance.id}
    (created : Created pytz request db next parent household tz targetDate instances)
    (own : ∀ seriesId ∈ request.body.seriesId, ∀ series ∈ db.series.find? seriesId,
      series.householdId = household.id) {ref : Ref}
    (member : ref ∈ definitionReferences.refs
      (request.body.definition household parent db.definitions.freshKey)) :
    owner? db ref = some household.id := by
  simp only [definitionReferences, TaskDefinitionCreate.definition, List.mem_cons,
    List.mem_map, Option.mem_toList] at member
  rcases member with rfl | rfl | ⟨seriesId, named, rfl⟩
  · exact owner?_assignee created.assignee
  · exact owner?_parent created.loaded
  · obtain ⟨series, found⟩ := created.seriesFound seriesId named
    rw [← own seriesId named series found, ← Table.key_of_find? found]
    exact owner?_series (Table.mem_of_find? found)

/-- A new definition keeps the households apart exactly if its series, where it names
one, is the household's. -/
theorem created_apart_iff (apart : TenantsApart db) {request : CreateDefinition}
    {parent : Member} {household : Household} {tz : TzInfo} {targetDate : Date}
    {instances : Table TaskInstance.id}
    (created : Created pytz request db next parent household tz targetDate instances) :
    TenantsApart next ↔ ∀ seriesId ∈ request.body.seriesId,
      ∀ series ∈ db.series.find? seriesId, series.householdId = household.id := by
  have keeps := created_kept created
  have sameSeries : next.series = db.series := by rw [created.committed]
  have sameLedger : next.ledger = db.ledger := by rw [created.committed]
  have sameClaims : next.claims = db.claims := by rw [created.committed]
  have stored := created.mem_definitions.mpr (Or.inr rfl)
  constructor
  · intro after seriesId named series found
    have owned : owner? next (.series seriesId) = some household.id :=
      (after.definitions _ stored).owner_eq rfl (by
        simp [definitionReferences, TaskDefinitionCreate.definition,
          Option.mem_def.mp named])
    have seriesStored : series ∈ next.series.rows := by
      rw [sameSeries]
      exact Table.mem_of_find? found
    have ofSeries := owner?_series seriesStored
    rw [Table.key_of_find? found, owned] at ofSeries
    exact (Option.some.inj ofSeries).symm
  · intro own
    obtain ⟨definitions, oldInstances, series, entries, claims⟩ := apart.later keeps
    constructor
    · intro definition member
      rcases created.mem_definitions.mp member with old | rfl
      · exact definitions definition old
      · exact ⟨household.id, rfl, fun ref refMember =>
          keeps ref household.id (created_home created own refMember)⟩
    · intro task member
      rcases created.mem_instances member with old | ⟨due, _, _, _, rfl⟩
      · exact oldInstances task old
      · refine ⟨household.id, owner?_definition stored, ?_⟩
        simpa [instanceReferences, newInstance, TaskDefinitionCreate.definition] using
          keeps _ _ (owner?_assignee created.assignee)
    · rw [sameSeries]
      exact series
    · rw [sameLedger]
      exact entries
    · rw [sameClaims]
      exact claims

theorem TenantsApart.definitionSaved (apart : TenantsApart db)
    {definition edited : TaskDefinition} (stored : definition ∈ db.definitions.rows)
    (same : SameParties definition edited) :
    TenantsApart { db with definitions := db.definitions.save edited } := by
  have keeps : OwnersKept (owner? db)
      (owner? { db with definitions := db.definitions.save edited }) :=
    owner?_kept (.refl _) (ownerIn_save stored same.id same.householdId) (.refl _)
  obtain ⟨definitions, instances, series, entries, claims⟩ := apart.later keeps
  refine ⟨definitions.save ?_, instances, series, entries, claims⟩
  simp only [definitionReferences, same.householdId, same.assigneeId, same.createdBy,
    same.seriesId]
  exact definitions definition stored

theorem afterSeries_kept (db : Database) (body : SeriesCreate) (household : Household)
    (windowStart windowEnd : Instant) :
    OwnersKept (owner? db) (owner? (afterSeries body household windowStart windowEnd db)) := by
  have linked : OwnersKept (ownerIn db.definitions TaskDefinition.householdId)
      (ownerIn (afterSeries body household windowStart windowEnd db).definitions
        TaskDefinition.householdId) := by
    refine ownerIn_kept fun definition member =>
      ⟨_, mem_afterSeries_definitions.mpr ⟨definition, member, rfl⟩, ?_⟩
    split <;> exact ⟨rfl, rfl⟩
  exact owner?_kept (.refl _) linked (ownerIn_append fun _ => rfl)

/-- The series is the household's, and so are the definitions linked to it. -/
theorem TenantsApart.seriesCreated (apart : TenantsApart db) {body : SeriesCreate}
    {household : Household} {windowStart windowEnd : Instant}
    (assignee : requireAssignee db household body.assigneeId = .ok ()) :
    TenantsApart (afterSeries body household windowStart windowEnd db) := by
  have keeps := afterSeries_kept db body household windowStart windowEnd
  obtain ⟨definitions, instances, series, entries, claims⟩ := apart.later keeps
  refine ⟨?_, instances, ?_, entries, claims⟩
  · intro row member
    obtain ⟨old, oldMember, rfl⟩ := mem_afterSeries_definitions.mp member
    have home := definitions old oldMember
    split
    · rename_i ofBundle
      have own : old.householdId = household.id := (of_decide_eq_true ofBundle).2
      have owned : owner? (afterSeries body household windowStart windowEnd db)
          (.series db.series.freshKey) = some old.householdId := by
        rw [own]
        exact owner?_series (mem_afterSeries_series.mpr (Or.inr rfl))
      -- the old series, if there was one, is no longer referenced
      refine (home.cons rfl owned).of_subset ?_
      simp [definitionReferences, linkTo]
    · exact home
  · refine series.append (fun _ => rfl) ⟨household.id, rfl, ?_⟩
    simpa [seriesReferences, SeriesCreate.series] using
      keeps _ _ (owner?_assignee assignee)

theorem TenantsApart.seriesSaved (apart : TenantsApart db) {series edited : Series}
    (stored : series ∈ db.series.rows) (same : SameSeries series edited) :
    TenantsApart { db with series := db.series.save edited } := by
  have keeps : OwnersKept (owner? db) (owner? { db with series := db.series.save edited }) :=
    owner?_kept (.refl _) (.refl _) (ownerIn_save stored same.id same.householdId)
  obtain ⟨definitions, instances, oldSeries, entries, claims⟩ := apart.later keeps
  refine ⟨definitions, instances, oldSeries.save ?_, entries, claims⟩
  simp only [seriesReferences, same.householdId, same.assigneeId]
  exact oldSeries series stored

theorem TenantsApart.posted (apart : TenantsApart db) {ledger : Ledger} {clock : Clock}
    {posting : Posting} {home : Uuid}
    (recorded : record db.ledger clock posting = .ok ledger)
    (member : owner? db (.member posting.memberId) = some home)
    (creator : owner? db (.member posting.createdBy) = some home) :
    TenantsApart { db with ledger := ledger } :=
  ⟨apart.definitions, apart.instances, apart.series,
    entries_record apart.ledger recorded member creator, apart.claims⟩

theorem TenantsApart.claimed (apart : TenantsApart db) {body : ClaimCreate}
    {member : Member} (stored : member ∈ db.members.rows) :
    TenantsApart { db with
      claims := db.claims.append (body.claim member) fun _ => rfl } := by
  refine ⟨apart.definitions, apart.instances, apart.series, apart.ledger,
    apart.claims.append (fun _ => rfl) ⟨member.householdId, owner?_member stored, ?_⟩⟩
  simp [claimReferences, ClaimCreate.claim]

theorem TenantsApart.claimResolved (apart : TenantsApart db) {clock : Clock}
    {memberId claimId : Uuid} {body : ClaimResolveRequest} {parent : Member}
    {household : Household} {claim resolved : Claim} {ledger : Ledger}
    (loaded : loadParent db memberId = .ok (parent, household))
    (found : findClaim? db household claimId = some claim)
    (resolution : Wallet.resolveClaim clock parent body claim db.ledger =
      .ok (resolved, ledger)) :
    TenantsApart { db with claims := db.claims.save resolved, ledger := ledger } := by
  obtain ⟨stored, member, memberFound, own⟩ := findClaim?_ok found
  obtain ⟨_, sameMember, resolver, posts⟩ := resolveClaim_same resolution
  have parentOwned := owner?_parent loaded
  have memberOwned : owner? db (.member claim.memberId) = some household.id := by
    rw [← Table.key_of_find? memberFound, owner?_member (Table.mem_of_find? memberFound),
      own]
  have posted : TenantsApart { db with ledger := ledger } := by
    rcases posts with unpaid | paid
    · rw [unpaid]
      exact apart
    · exact apart.posted paid memberOwned parentOwned
  refine ⟨posted.definitions, posted.instances, posted.series, posted.ledger,
    posted.claims.save ?_⟩
  simp only [claimReferences, sameMember, resolver]
  refine ⟨household.id, memberOwned, ?_⟩
  intro ref refMember
  have byParent : ref = .member parent.id := by simpa using refMember
  rw [byParent]
  exact parentOwned

theorem TenantsApart.memberSaved (apart : TenantsApart db) {member edited : Member}
    (stored : member ∈ db.members.rows) (sameId : edited.id = member.id)
    (sameHousehold : edited.householdId = member.householdId) :
    TenantsApart { db with members := db.members.save edited } :=
  apart.of_kept (owner?_kept (ownerIn_save stored sameId sameHousehold) (.refl _)
    (.refl _)) rfl rfl rfl rfl rfl

theorem effect_apart {event : ApiEvent} (effect : ApiEffect pytz db event next)
    (apart : TenantsApart db) (unlinked : Unlinked db)
    (names : NamesOwnSeries pytz db event) : TenantsApart next := by
  cases effect with
  | unchanged => exact apart
  | definitionCreated created =>
      have loaded := toOption_eq_some.mpr created.loaded
      exact (created_apart_iff apart created).mpr
        (names _ loaded _ created.zone created.accepted)
  | definitionSaved stored same => exact apart.definitionSaved stored same
  | seriesCreated assignee => exact apart.seriesCreated assignee
  | seriesSaved stored same => exact apart.seriesSaved stored same
  | completed acts effect check =>
      have unwindowed := effect.sameTask.seriesInstanceId.trans
        (unlinked _ acts.taskStored)
      cases check with
      | unlinked => exact apart.called acts effect
      | gone linked | evaluated linked =>
          rw [unwindowed] at linked
          cases linked
  | called asked acts effect => exact apart.called acts effect
  | batched loaded ran =>
      exact batch_keeps TenantsApart (fun _ acts effect before => before.called acts effect)
        apart loaded ran
  | adjusted loaded found own recorded =>
      refine apart.posted recorded ?_ (owner?_parent loaded)
      rw [← own, ← owner?_member (Table.mem_of_find? found), Table.key_of_find? found]
      rfl
  | claimed found => exact apart.claimed (Table.mem_of_find? found)
  | claimResolved loaded found resolution =>
      exact apart.claimResolved loaded found resolution
  | settings =>
      refine apart.of_kept ?_ rfl rfl rfl rfl rfl
      exact owner?_kept (.refl _) (.refl _) (.refl _)
  | teenAdded =>
      refine apart.of_kept ?_ rfl rfl rfl rfl rfl
      exact owner?_kept (ownerIn_append fun _ => rfl) (.refl _) (.refl _)
  | memberRemoved stored => exact apart.memberSaved stored rfl rfl
  | generated run => exact apart.generated run

end Steps

/-! ## No instance has a window -/

section Unlinked

variable {pytz : String → Option TzInfo} {db next : Database}

theorem Unlinked.called (unlinked : Unlinked db) {clock : Clock} {actor : Member}
    {household : Household} {definition : TaskDefinition} {task result : TaskInstance}
    {ledger : Ledger} {call : ServiceCall} (stored : task ∈ db.instances.rows)
    (effect : CallEffect clock household definition actor task db.ledger call result
      ledger) :
    Unlinked (storeCall db result ledger) := by
  intro row member
  rcases Table.mem_save.mp member with ⟨rfl, _⟩ | ⟨old, _⟩
  · exact effect.sameTask.seriesInstanceId.trans (unlinked task stored)
  · exact unlinked row old

theorem effect_unlinked {event : ApiEvent} (effect : ApiEffect pytz db event next)
    (unlinked : Unlinked db) : Unlinked next := by
  cases effect with
  | completed acts effect check =>
      have unwindowed := effect.sameTask.seriesInstanceId.trans
        (unlinked _ acts.taskStored)
      cases check with
      | unlinked => exact unlinked.called acts.taskStored effect
      | gone linked | evaluated linked =>
          rw [unwindowed] at linked
          cases linked
  | called asked acts effect => exact unlinked.called acts.taskStored effect
  | batched loaded ran =>
      exact batch_keeps Unlinked
        (fun _ acts effect before => before.called acts.taskStored effect) unlinked loaded ran
  | definitionCreated created =>
      intro task member
      rcases created.mem_instances member with old | ⟨due, _, _, _, rfl⟩
      · exact unlinked task old
      · rfl
  | generated run =>
      rw [run.committed]
      intro task member
      obtain ⟨old, oldMember, rfl⟩ := mem_sweeps.mp member
      rw [(sweepRow_effect _ _ _ old).sameTask.seriesInstanceId]
      rcases (upsertAll_rows run.upserts).2 old oldMember with
        stored | ⟨defn, targetDate, due, inserts⟩
      · exact unlinked old stored
      · rw [inserts.built]
        rfl
  | unchanged | definitionSaved | seriesCreated | seriesSaved | adjusted | claimed
  | claimResolved | settings | teenAdded | memberRemoved => exact unlinked

end Unlinked

/-! ## Every run -/

/-- An event keeps the households apart exactly if it names no other household's
series. -/
theorem apiStep_apart_iff {pytz : String → Option TzInfo} {world : World}
    (event : ApiEvent) (unlinked : Unlinked world.db) (apart : TenantsApart world.db) :
    TenantsApart (apiStep pytz world event).db ↔ NamesOwnSeries pytz world.db event := by
  refine ⟨fun after => ?_, effect_apart (apiStep_effect event) apart unlinked⟩
  cases event with
  | createDefinition request =>
      rintro ⟨parent, household⟩ loaded tz zone accepted seriesId named series found
      have loadedOk : loadParent world.db request.memberId = .ok (parent, household) :=
        toOption_eq_some.mp loaded
      have seriesNamed : ∀ wanted ∈ request.body.seriesId,
          ∃ stored, world.db.series.find? wanted = some stored := by
        intro wanted wantedNamed
        rw [named] at wantedNamed
        cases wantedNamed
        exact ⟨series, found⟩
      obtain ⟨next, returned⟩ :=
        createDefinition_returns loadedOk zone accepted seriesNamed
      simp only [apiStep, commit, returned] at after
      obtain ⟨creator, owner, createdTz, targetDate, instances, created⟩ :=
        createDefinition_ok returned
      obtain ⟨rfl, rfl⟩ :=
        Prod.mk.inj (Except.ok.inj (created.loaded.symm.trans loadedOk))
      exact (created_apart_iff apart created).mp after seriesId named series found
  | _ => trivial

/-- Families as they register: households and members, and nothing of theirs yet. -/
structure Registered (db : Database) : Prop where
  definitions : db.definitions.rows = []
  instances : db.instances.rows = []
  series : db.series.rows = []
  ledger : db.ledger.entries = []
  claims : db.claims.rows = []

theorem Registered.apart {db : Database} (registered : Registered db) :
    TenantsApart db := by
  constructor
  · rw [registered.definitions]
    exact List.forall_mem_nil _
  · rw [registered.instances]
    exact List.forall_mem_nil _
  · rw [registered.series]
    exact List.forall_mem_nil _
  · rw [registered.ledger]
    exact List.forall_mem_nil _
  · rw [registered.claims]
    exact List.forall_mem_nil _

/-- No reference crosses a household, in any state of a run, exactly if no definition
is created that names another household's series. -/
theorem tenants_apart_iff (pytz : String → Option TzInfo) {start : World}
    (registered : Registered start.db) (events : List ApiEvent) :
    Always (apiStep pytz) (fun world => TenantsApart world.db) start events ↔
      EachMeets (apiStep pytz) (fun world event => NamesOwnSeries pytz world.db event)
        start events := by
  refine always_iff_eachMeets (fun world : World => Unlinked world.db) ?_ ?_ ?_
    registered.apart events
  · exact fun _ event unlinked => effect_unlinked (apiStep_effect event) unlinked
  · exact fun _ event unlinked apart => apiStep_apart_iff event unlinked apart
  · intro task member
    rw [registered.instances] at member
    cases member

/-! ## Two families -/

def neighbourhood : Database where
  households := ⟨[sampleHousehold, { id := 2, name := "Next door" }], by decide⟩
  members := ⟨[sampleParent, sampleTeen,
    { id := 3, householdId := 2, role := .parent, displayName := "Neighbour" },
    { id := 4, householdId := 2, role := .teen, displayName := "Neighbour's teen" }],
    by decide⟩

/-- The family next door bundles its first definition into a series. -/
def neighboursSeries : List ApiEvent :=
  [.createDefinition ⟨nightOf 1, nightOf 1, 3, { dailyDishes with assigneeId := 4 }⟩,
    .createSeries ⟨nightOf 1, 3, {
      name := "Clean week"
      assigneeId := 4
      bonusPoints := 20
      payoutMode := .individualPlusBonus
      windowType := .weekly
      taskDefinitionIds := [1]
      nameLength := by decide
      bonusRange := by decide
      bundles := by decide }⟩]

/-- A new definition in the series of the family next door. -/
def dishesInSeries (memberId assigneeId : Uuid) : ApiEvent :=
  .createDefinition ⟨nightOf 1, nightOf 1, memberId,
    { dailyDishes with assigneeId := assigneeId, seriesId := some 1 }⟩

/-- The family itself may add to its series; a teen's request is refused, whatever it
names. -/
def neighboursWeek : List ApiEvent :=
  neighboursSeries ++ [dishesInSeries 3 4, dishesInSeries 2 2, .nightly (nightClock 2) 2,
    .completeTask ⟨⟨nightOf 2, nightOf 2⟩, 4, 1, "done"⟩ none,
    .submitClaim ⟨4, ⟨10, "Cinema", by decide, by decide⟩⟩,
    .resolveClaim ⟨⟨nightOf 3, nightOf 3⟩, 3, 1, ⟨true, none⟩⟩]

theorem tenants_apart_neighbours :
    Always (apiStep utcOnly) (fun world => TenantsApart world.db) ⟨neighbourhood, []⟩
      neighboursWeek :=
  (tenants_apart_iff utcOnly ⟨rfl, rfl, rfl, rfl, rfl⟩ neighboursWeek).mpr
    (by decide +kernel)

/-- The parent of one family names the other's series. -/
theorem definition_in_neighbours_series :
    ¬ Always (apiStep utcOnly) (fun world => TenantsApart world.db) ⟨neighbourhood, []⟩
      (neighboursSeries ++ [dishesInSeries 1 2]) := by
  decide +kernel

end KidsChores.Properties
