import KidsChores.Properties.NoDeadEnds

/-!
# What a status rests on

A row that is complete says when it was done, an excuse has its text, a decision its
parent and its time, and a denial the comment that explains it.  Nothing a request or a
nightly run does takes that away.
-/

set_option autoImplicit false

namespace KidsChores.Properties

open KidsChores.Api
open KidsChores.Library
open KidsChores.Library.PyDatetime
open KidsChores.Library.PyText
open KidsChores.Library.Runs
open KidsChores.Lifecycle
open KidsChores.Models
open KidsChores.Routers
open KidsChores.Server
open KidsChores.Services.Ledger
open KidsChores.Services.StateMachine
open KidsChores.Session
open KidsChores.Workers.GenerateInstances

/-! ## The invariant -/

/-- Nobody has granted anything: not done, not excused, not called off. -/
def Ungranted (status : TaskStatus) : Prop :=
  status ≠ .complete ∧ status ≠ .excused ∧ status ≠ .cancelled

/-- What the columns of a row say about its status. -/
structure ColumnsFit (task : TaskInstance) : Prop where
  completed : task.status = .reviewPending ∨ task.status = .complete →
    task.completedAt.isSome = true
  excused : task.status = .excusePending ∨ task.status = .excused →
    ∃ text ∈ task.excuseText, 10 ≤ (strip text).length ∧
      task.excuseSubmittedAt.isSome = true
  decided : task.status = .excused ∨ task.status = .cancelled → task.reviewedBy.isSome = true
  denied : Ungranted task.status → task.reviewedBy.isSome = true →
    truthy task.reviewComment = true
  timed : task.reviewedBy.isSome = task.reviewedAt.isSome

def ReviewedByParent (db : Database) (task : TaskInstance) : Prop :=
  ∀ reviewer ∈ task.reviewedBy, ∃ parent, TaskParent db task parent ∧ parent.id = reviewer

structure Evidence (db : Database) (task : TaskInstance) : Prop where
  columns : ColumnsFit task
  reviewer : ReviewedByParent db task

/-! ## The columns -/

section Columns

variable {task next : TaskInstance}

theorem newInstance_columns (definition : TaskDefinition) (due now : Instant) (id : Uuid) :
    ColumnsFit (newInstance definition due now id) := by
  have actionable := newInstance_actionable definition due now id
  constructor
  · rintro (same | same)
    · exact absurd same (actionable.ne (by simp [Actionable]))
    · exact absurd same (actionable.ne (by simp [Actionable]))
  · rintro (same | same)
    · exact absurd same (actionable.ne (by simp [Actionable]))
    · exact absurd same (actionable.ne (by simp [Actionable]))
  · rintro (same | same)
    · exact absurd same (actionable.ne (by simp [Actionable]))
    · exact absurd same (actionable.ne (by simp [Actionable]))
  · rintro _ reviewed
    cases reviewed
  · rfl

theorem ungranted_of_actionable {status : TaskStatus} (actionable : Actionable status) :
    Ungranted status := by
  rcases actionable with rfl | rfl <;> simp [Ungranted]

theorem sweep_columns {definitionIds : List Uuid} {hours : Int} {clock : JobClock}
    (effect : SweepEffect definitionIds hours clock task next) (fit : ColumnsFit task) :
    ColumnsFit next := by
  cases effect with
  | unchanged => exact fit
  | overdue pending _ =>
      have denied := fit.denied (ungranted_of_actionable (Or.inl pending))
      exact ⟨by simp, by simp, by simp, fun _ => denied, fit.timed⟩
  | missed open_ _ _ =>
      have denied := fit.denied (ungranted_of_actionable open_)
      exact ⟨by simp, by simp, by simp, fun _ => denied, fit.timed⟩

/-- A call leaves columns that fit: what it writes is what its status asks for. -/
theorem call_columns {clock : Clock} {household : Models.Household}
    {definition : TaskDefinition} {actor : Member} {ledger nextLedger : Ledger}
    {call : ServiceCall} (entitled : Entitled actor task call)
    (effect : CallEffect clock household definition actor task ledger call next nextLedger)
    (fit : ColumnsFit task) : ColumnsFit next := by
  cases effect with
  | completed actionable =>
      exact ⟨fun _ => rfl, by simp, by simp, by simp [Ungranted], fit.timed⟩
  | sentToReview actionable =>
      have denied := fit.denied (ungranted_of_actionable actionable)
      exact ⟨fun _ => rfl, by simp, by simp, fun _ => denied, fit.timed⟩
  | excusedWhilePending pending long =>
      have denied := fit.denied (ungranted_of_actionable (Or.inl pending))
      exact ⟨by simp, fun _ => ⟨_, rfl, long, rfl⟩, by simp, fun _ => denied, fit.timed⟩
  | excusedWhileOverdue overdue long =>
      have denied := fit.denied (ungranted_of_actionable (Or.inr overdue))
      exact ⟨by simp, fun _ => ⟨_, rfl, long, rfl⟩, by simp, fun _ => denied, fit.timed⟩
  | approved inReview =>
      have done := fit.completed (Or.inl inReview)
      exact ⟨fun _ => done, by simp, by simp, by simp [Ungranted], rfl⟩
  | deniedBeforeDue _ said | deniedAfterDue _ said | excuseDeniedInGrace _ said
  | excuseDeniedExpired _ said =>
      exact ⟨by simp, by simp, by simp, fun _ _ => said, rfl⟩
  | excuseApproved submitted =>
      have excuse := fit.excused (Or.inl submitted)
      exact ⟨by simp, fun _ => excuse, fun _ => rfl, by simp [Ungranted], rfl⟩
  | cancelled =>
      exact ⟨by simp, by simp, fun _ => rfl, by simp [Ungranted], rfl⟩
  | reversedBeforeDue | reversedAfterDue => exact entitled.elim

theorem call_reviewer {clock : Clock} {household : Models.Household}
    {definition : TaskDefinition} {actor : Member} {ledger nextLedger : Ledger}
    {call : ServiceCall} (entitled : Entitled actor task call)
    (effect : CallEffect clock household definition actor task ledger call next nextLedger) :
    next.reviewedBy = task.reviewedBy ∨
      actor.role = .parent ∧ next.reviewedBy = some actor.id := by
  cases effect with
  | completed | sentToReview | excusedWhilePending | excusedWhileOverdue => exact Or.inl rfl
  | approved | deniedBeforeDue | deniedAfterDue | excuseApproved | excuseDeniedInGrace
  | excuseDeniedExpired | cancelled => exact Or.inr ⟨entitled, rfl⟩
  | reversedBeforeDue | reversedAfterDue => exact entitled.elim

end Columns

/-! ## The reviewer -/

section Reviewer

variable {db next : Database} {task : TaskInstance} {parent : Member}

def DefinitionsStay (db next : Database) : Prop :=
  ∀ definition ∈ db.definitions.rows, ∃ later ∈ next.definitions.rows,
    later.id = definition.id ∧ later.householdId = definition.householdId

theorem DefinitionsStay.of_eq (same : next.definitions = db.definitions) :
    DefinitionsStay db next := by
  intro definition stored
  rw [same]
  exact ⟨definition, stored, rfl, rfl⟩

theorem Write.definitionsStay (write : Write db next) : DefinitionsStay db next := by
  cases write with
  | definitionAdded =>
      exact fun definition stored => ⟨definition, List.mem_append_left _ stored, rfl, rfl⟩
  | @definitionSaved saved edited savedStored same =>
      intro definition stored
      by_cases hit : definition.id = edited.id
      · have one := db.definitions.row_unique stored savedStored (hit.trans same.id)
        refine ⟨edited, Table.mem_save.mpr (Or.inl ⟨rfl, definition, stored, hit⟩), hit.symm,
          ?_⟩
        rw [one]
        exact same.householdId
      · exact ⟨definition, Table.mem_save.mpr (Or.inr ⟨stored, hit⟩), rfl, rfl⟩
  | seriesAdded =>
      intro definition stored
      refine ⟨_, Series.mem_afterSeries_definitions.mpr ⟨definition, stored, rfl⟩, ?_⟩
      split
      · exact ⟨rfl, rfl⟩
      · exact ⟨rfl, rfl⟩
  | familyFounded founded =>
      refine .of_eq ?_
      rw [(foundFamily_rows founded).1]
  | called | generated | swept | adjusted | claimed | claimResolved | seriesSaved
  | householdSaved | teenAdded | memberSaved => exact .of_eq rfl

theorem TaskParent.later (byParent : TaskParent db task parent) (write : Write db next)
    {laterTask : TaskInstance} (same : laterTask.definitionId = task.definitionId) :
    ∃ later, TaskParent next laterTask later ∧ later.id = parent.id := by
  obtain ⟨stored, role, definition, definitionStored, named, own⟩ := byParent
  obtain ⟨later, laterStored, sameId, sameHousehold, sameRole⟩ :=
    write.membersStay parent stored
  obtain ⟨stays, staysStored, staysId, staysHousehold⟩ :=
    write.definitionsStay definition definitionStored
  refine ⟨later, ⟨laterStored, sameRole.trans role, stays, staysStored, ?_, ?_⟩, sameId⟩
  · rw [staysId, named, same]
  · rw [staysHousehold, own, sameHousehold]

theorem ReviewedByParent.later (reviewed : ReviewedByParent db task) (write : Write db next)
    {laterTask : TaskInstance} (same : laterTask.definitionId = task.definitionId)
    (sameReviewer : laterTask.reviewedBy = task.reviewedBy) :
    ReviewedByParent next laterTask := by
  intro reviewer named
  rw [sameReviewer] at named
  obtain ⟨parent, byParent, rfl⟩ := reviewed reviewer named
  exact byParent.later write same

theorem acts_parent {actor : Member} {household : Models.Household}
    {definition : TaskDefinition} (acts : ActsOn db actor household definition task)
    (role : actor.role = .parent) : TaskParent db task actor :=
  ⟨acts.actorStored, role, definition, acts.definitionStored, acts.definitionOfTask,
    acts.sameHousehold⟩

end Reviewer

/-! ## Every run -/

section Writes

variable {db next : Database}

theorem write_evidence (evidence : ∀ task ∈ db.instances.rows, Evidence db task)
    (write : Write db next) : ∀ task ∈ next.instances.rows, Evidence next task := by
  have stays : ∀ task ∈ db.instances.rows, Evidence next task := fun task stored =>
    ⟨(evidence task stored).columns, (evidence task stored).reviewer.later write rfl rfl⟩
  cases write with
  | @called clock actor household definition task result ledger call acts entitled effect =>
      intro row stored
      rcases Table.mem_save.mp stored with ⟨rfl, _⟩ | ⟨old, _⟩
      · have had := evidence task acts.taskStored
        have sameDefinition := effect.sameTask.definitionId
        refine ⟨call_columns entitled effect had.columns, ?_⟩
        rcases call_reviewer entitled effect with same | ⟨role, written⟩
        · exact had.reviewer.later (.called acts entitled effect) sameDefinition same
        · intro reviewer named
          rw [written, Option.mem_some_iff] at named
          obtain ⟨parent, byParent, sameId⟩ :=
            (acts_parent acts role).later (.called acts entitled effect) sameDefinition
          exact ⟨parent, byParent, sameId.trans named⟩
      · exact stays row old
  | generated stored =>
      intro task member
      rcases List.mem_append.mp member with old | new
      · exact stays task old
      · rw [List.mem_singleton.mp new]
        exact ⟨newInstance_columns _ _ _ _, fun reviewer named => nomatch named⟩
  | @swept definitionIds household clock found live =>
      intro task member
      obtain ⟨old, oldMember, effect⟩ := of_mem_sweeps member
      have had := evidence old oldMember
      have sameReviewer : task.reviewedBy = old.reviewedBy := by cases effect <;> rfl
      exact ⟨sweep_columns effect had.columns,
        had.reviewer.later (.swept found live) effect.sameTask.definitionId sameReviewer⟩
  | familyFounded founded =>
      intro task stored
      have same : next.instances = db.instances := by
        rw [(foundFamily_rows founded).1]
      rw [same] at stored
      exact stays task stored
  | adjusted | claimed | claimResolved | definitionAdded | definitionSaved | seriesAdded
  | seriesSaved | householdSaved | teenAdded | memberSaved => exact stays

/-- In every state of a run the status of every task rests on its columns, and whoever
reviewed it is a parent of its household. -/
theorem statuses_evidenced (pytz : String → Option TzInfo)
    (verifyPassword : String → String → Bool) (events : List ServerEvent) :
    Always (serverStep pytz verifyPassword)
      (fun server => ∀ task ∈ server.world.db.instances.rows, Evidence server.world.db task)
      emptyServer events :=
  writes_always (fun db => ∀ task ∈ db.instances.rows, Evidence db task)
    (fun _ member => nomatch member) (fun _ _ _ evidence write => write_evidence evidence write)
    events

end Writes

end KidsChores.Properties
