import KidsChores.Properties.SettledRows

/-!
# Instances as they are filed

An instance keeps the assignee of its definition, and while it waits for a decision it
carries the time of the submission that it waits for.
-/

set_option autoImplicit false

namespace KidsChores.Properties

open KidsChores.Api
open KidsChores.Library
open KidsChores.Library.PyDatetime
open KidsChores.Library.Runs
open KidsChores.Lifecycle
open KidsChores.Models
open KidsChores.Routers
open KidsChores.Routers.Definitions
open KidsChores.Routers.Series
open KidsChores.Server
open KidsChores.Services.Ledger
open KidsChores.Services.StateMachine
open KidsChores.Session
open KidsChores.Site
open KidsChores.Workers.GenerateInstances

structure Submitted (task : TaskInstance) : Prop where
  completion : task.status = .reviewPending → task.completedAt.isSome
  excuse : task.status = .excusePending → task.excuseSubmittedAt.isSome

def Assigned (definitions : List TaskDefinition) (task : TaskInstance) : Prop :=
  ∃ definition ∈ definitions,
    definition.id = task.definitionId ∧ definition.assigneeId = task.assigneeId

structure FiledRows (db : Database) : Prop where
  assigned : ∀ task ∈ db.instances.rows, Assigned db.definitions.rows task
  submitted : ∀ task ∈ db.instances.rows, Submitted task

/-! ## One row -/

theorem Submitted.of_status {task : TaskInstance} (open_ : task.status ≠ .reviewPending)
    (unexcused : task.status ≠ .excusePending) : Submitted task :=
  ⟨fun review => (open_ review).elim, fun excused => (unexcused excused).elim⟩

theorem Submitted.called {clock : Clock} {household : Household}
    {definition : TaskDefinition} {actor : Member} {task result : TaskInstance}
    {ledger nextLedger : Ledger} {call : ServiceCall}
    (effect : CallEffect clock household definition actor task ledger call result
      nextLedger) : Submitted result := by
  cases effect with
  | sentToReview => exact ⟨fun _ => rfl, nofun⟩
  | excusedWhilePending | excusedWhileOverdue =>
      exact ⟨nofun, fun _ => rfl⟩
  | completed | approved | deniedBeforeDue | deniedAfterDue | excuseApproved
  | excuseDeniedInGrace | excuseDeniedExpired | cancelled | reversedBeforeDue
  | reversedAfterDue =>
      exact .of_status nofun nofun

theorem Submitted.swept {definitionIds : List Uuid} {gracePeriodHours : Int}
    {clock : JobClock} {task result : TaskInstance} (submitted : Submitted task)
    (effect : SweepEffect definitionIds gracePeriodHours clock task result) :
    Submitted result := by
  cases effect with
  | unchanged => exact submitted
  | overdue | missed =>
      exact .of_status nofun nofun

theorem Submitted.created (definition : TaskDefinition) (due now : Instant) (id : Uuid) :
    Submitted (newInstance definition due now id) := by
  have actionable := newInstance_actionable definition due now id
  apply Submitted.of_status
  · intro review
    rw [review] at actionable
    exact actionable.elim nofun nofun
  · intro excused
    rw [excused] at actionable
    exact actionable.elim nofun nofun

theorem Assigned.same {definitions : List TaskDefinition} {task result : TaskInstance}
    (assigned : Assigned definitions task) (same : SameTask task result) :
    Assigned definitions result := by
  unfold Assigned
  rw [same.definitionId, same.assigneeId]
  exact assigned

theorem Assigned.later {definitions later : List TaskDefinition} {task : TaskInstance}
    (assigned : Assigned definitions task)
    (kept : ∀ definition ∈ definitions, ∃ next ∈ later,
      next.id = definition.id ∧ next.assigneeId = definition.assigneeId) :
    Assigned later task := by
  obtain ⟨definition, stored, ofTask, ofAssignee⟩ := assigned
  obtain ⟨next, nextStored, sameId, sameAssignee⟩ := kept definition stored
  exact ⟨next, nextStored, sameId.trans ofTask, sameAssignee.trans ofAssignee⟩

/-! ## One event -/

section Steps

variable {pytz : String → Option TzInfo} {db next : Database}

theorem FiledRows.of_kept (filed : FiledRows db)
    (kept : ∀ definition ∈ db.definitions.rows, ∃ later ∈ next.definitions.rows,
      later.id = definition.id ∧ later.assigneeId = definition.assigneeId)
    (sameInstances : next.instances = db.instances) : FiledRows next := by
  constructor
  · intro task stored
    rw [sameInstances] at stored
    exact (filed.assigned task stored).later kept
  · intro task stored
    rw [sameInstances] at stored
    exact filed.submitted task stored

theorem FiledRows.of_same (filed : FiledRows db)
    (sameDefinitions : next.definitions = db.definitions)
    (sameInstances : next.instances = db.instances) : FiledRows next := by
  apply filed.of_kept
  · intro definition stored
    rw [sameDefinitions]
    exact ⟨definition, stored, rfl, rfl⟩
  · exact sameInstances

theorem FiledRows.called (filed : FiledRows db) {clock : Clock} {actor : Member}
    {household : Household} {definition : TaskDefinition} {task result : TaskInstance}
    {ledger : Ledger} {call : ServiceCall}
    (acts : ActsOn db actor household definition task)
    (effect : CallEffect clock household definition actor task db.ledger call result
      ledger) :
    FiledRows (storeCall db result ledger) := by
  constructor
  · intro row stored
    rcases Table.mem_save.mp stored with saved | other
    · rw [saved.1]
      exact (filed.assigned task acts.taskStored).same effect.sameTask
    · exact filed.assigned row other.1
  · intro row stored
    rcases Table.mem_save.mp stored with saved | other
    · rw [saved.1]
      exact .called effect
    · exact filed.submitted row other.1

theorem FiledRows.definitionCreated (filed : FiledRows db) {request : CreateDefinition}
    {parent : Member} {household : Household} {tz : TzInfo} {targetDate : Date}
    {instances : Table TaskInstance.id}
    (created : Created pytz request db next parent household tz targetDate instances) :
    FiledRows next := by
  constructor
  · intro task stored
    rcases created.mem_instances stored with old | ⟨due, _, _, _, built⟩
    · apply (filed.assigned task old).later
      intro definition member
      exact ⟨definition, created.mem_definitions.mpr (Or.inl member), rfl, rfl⟩
    · rw [built]
      exact ⟨_, created.mem_definitions.mpr (Or.inr rfl), rfl, rfl⟩
  · intro task stored
    rcases created.mem_instances stored with old | ⟨due, _, _, _, built⟩
    · exact filed.submitted task old
    · rw [built]
      exact .created _ _ _ _

theorem FiledRows.generated (filed : FiledRows db) {clock : JobClock} {householdId : Uuid}
    {household : Household} {tz : TzInfo} {rows : Table TaskInstance.id}
    (run : GeneratedFor pytz clock householdId db next household tz rows) :
    FiledRows next := by
  have upserted : ∀ old ∈ rows.rows, Assigned db.definitions.rows old ∧ Submitted old := by
    intro old oldStored
    rcases (upsertAll_rows run.upserts).2 old oldStored with
      stored | ⟨definition, targetDate, due, inserts⟩
    · exact ⟨filed.assigned old stored, filed.submitted old stored⟩
    · obtain ⟨stored, _⟩ := mem_liveDefinitions (mem_generationTargets.mp inserts.target).1
      rw [inserts.built]
      exact ⟨⟨definition, stored, rfl, rfl⟩, .created _ _ _ _⟩
  rw [run.committed]
  constructor
  · intro task stored
    obtain ⟨old, oldStored, effect⟩ := of_mem_sweeps stored
    exact (upserted old oldStored).1.same effect.sameTask
  · intro task stored
    obtain ⟨old, oldStored, effect⟩ := of_mem_sweeps stored
    exact (upserted old oldStored).2.swept effect

theorem effect_filed {event : ApiEvent} (effect : ApiEffect pytz db event next)
    (settled : SettledRows db) (filed : FiledRows db) : FiledRows next := by
  cases effect with
  | unchanged => exact filed
  | definitionCreated created => exact filed.definitionCreated created
  | @definitionSaved _ definition edited stored same =>
      apply filed.of_kept
      · intro other otherStored
        by_cases hit : other.id = edited.id
        · have one : other = definition :=
            db.definitions.row_unique otherStored stored (hit.trans same.id)
          refine ⟨edited, Table.mem_save.mpr (Or.inl ⟨rfl, other, otherStored, hit⟩),
            hit.symm, ?_⟩
          rw [same.assigneeId, one]
        · exact ⟨other, Table.mem_save.mpr (Or.inr ⟨otherStored, hit⟩), rfl, rfl⟩
      · rfl
  | seriesCreated =>
      apply filed.of_kept
      · intro definition stored
        refine ⟨_, mem_afterSeries_definitions.mpr ⟨definition, stored, rfl⟩, ?_⟩
        split
        · exact ⟨rfl, rfl⟩
        · exact ⟨rfl, rfl⟩
      · rfl
  | completed acts effect check =>
      have unwindowed := effect.sameTask.seriesInstanceId.trans
        (settled.unlinked _ acts.taskStored)
      cases check with
      | unlinked => exact filed.called acts effect
      | gone linked | evaluated linked =>
          rw [unwindowed] at linked
          cases linked
  | called asked acts effect => exact filed.called acts effect
  | batched loaded ran =>
      exact batch_keeps FiledRows (fun _ acts effect before => before.called acts effect)
        filed loaded ran
  | seriesSaved | adjusted | claimed | claimResolved | settings | teenAdded
  | memberRemoved => exact filed.of_same rfl rfl
  | generated run => exact filed.generated run

end Steps

/-! ## The site -/

section Site

variable {pytz : String → Option TzInfo} {verifyPassword : String → String → Bool}
variable {site : SiteState}

structure FiledSite (site : SiteState) : Prop where
  settled : SettledSite site
  filed : FiledRows site.db

theorem FiledSite.served (filed : FiledSite site) (event : ServerEvent) :
    FiledSite { site with server := serverStep pytz verifyPassword site.server event } := by
  refine ⟨filed.settled.served event, ?_⟩
  cases serverStep_effect pytz verifyPassword site.server event with
  | api effect => exact effect_filed effect filed.settled.rows filed.filed
  | auth effect =>
      change FiledRows (serverStep pytz verifyPassword site.server event).world.db
      rw [effect.rest]
      exact filed.filed.of_same rfl rfl

theorem siteStep_filed (event : SiteEvent) (filed : FiledSite site) :
    FiledSite (siteStep pytz verifyPassword site event) := by
  cases event with
  | server event => exact filed.served event
  | request request =>
      refine ⟨siteStep_settled (.request request) filed.settled, ?_⟩
      have server := respond_server pytz verifyPassword site request
      change FiledRows (respond pytz site request).1.server.world.db
      rw [server]
      cases request.event? with
      | none => exact filed.filed
      | some event => exact (filed.served event).filed

theorem Founded.filed (founded : Founded site) : FiledSite site := by
  refine ⟨founded.settled, ⟨?_, ?_⟩⟩
  · rw [founded.registered.instances]
    exact List.forall_mem_nil _
  · rw [founded.registered.instances]
    exact List.forall_mem_nil _

theorem always_filed (founded : Founded site) (events : List SiteEvent) :
    Always (siteStep pytz verifyPassword) FiledSite site events :=
  invariant_always FiledSite (fun _ event filed => siteStep_filed event filed)
    founded.filed events

end Site

end KidsChores.Properties
