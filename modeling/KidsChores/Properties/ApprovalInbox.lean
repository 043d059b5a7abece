import Mathlib.Order.Lattice
import KidsChores.Library.OrderBy
import KidsChores.Properties.FiledRows
import KidsChores.Properties.HouseholdViews

/-!
# The approval inbox

The inbox has every instance that awaits a decision, each once.  It is sorted by the time
of any excuse first, also of one that is not what the instance waits for now.
-/

set_option autoImplicit false

namespace KidsChores.Properties

open KidsChores.Library
open KidsChores.Library.OrderBy
open KidsChores.Library.PyDatetime
open KidsChores.Library.Runs
open KidsChores.Models
open KidsChores.Planning
open KidsChores.Routers
open KidsChores.Routers.Listings
open KidsChores.Site

abbrev Awaited := TaskInstance × TaskDefinition × Member

/-! ## The order of the query -/

def sortKeys (awaited : Awaited) : Option Instant × Option Instant :=
  (awaited.1.excuseSubmittedAt, awaited.1.completedAt)

theorem completedBefore_iff {first second : Awaited} :
    submittedBefore.completedBefore first second ↔
      nullsLast (· ≤ ·) first.1.completedAt second.1.completedAt := by
  unfold submittedBefore.completedBefore nullsLast
  cases first.1.completedAt <;> cases second.1.completedAt <;> exact Iff.rfl

theorem submittedBefore_iff {first second : Awaited} :
    submittedBefore first second ↔
      Prod.Lex (nullsFirst (· < ·)) (nullsLast (· ≤ ·)) (sortKeys first)
        (sortKeys second) := by
  rw [Prod.lex_iff]
  unfold submittedBefore nullsFirst sortKeys
  simp only [← completedBefore_iff]
  cases first.1.excuseSubmittedAt with
  | none =>
      cases second.1.excuseSubmittedAt with
      | none => exact ((or_iff_right id).trans (and_iff_right rfl)).symm
      | some later => exact iff_of_true trivial (Or.inl trivial)
  | some earlier =>
      cases second.1.excuseSubmittedAt with
      | none => exact iff_of_false id (by simp)
      | some later => simp only [Option.some.injEq]

instance submittedBefore_total : Std.Total submittedBefore := by
  constructor
  intro first second
  rw [submittedBefore_iff, submittedBefore_iff]
  exact Std.Total.total _ _

instance submittedBefore_trans : IsTrans Awaited submittedBefore := by
  constructor
  intro first second third
  rw [submittedBefore_iff, submittedBefore_iff, submittedBefore_iff]
  exact IsTrans.trans _ _ _

/-! ## What the inbox shows -/

def awaitingRows (db : Database) (household : Household) : List Awaited :=
  db.instances.rows.filterMap (awaiting? db household)

/-- The instance belongs to the household and awaits a decision. -/
def Awaits (db : Database) (household : Household) (task : TaskInstance) : Prop :=
  (∃ definition ∈ db.definitions.rows, definition.id = task.definitionId ∧
    definition.householdId = household.id) ∧
    (task.status = .reviewPending ∨ task.status = .excusePending)

def ItemOf (task : TaskInstance) (item : ApprovalItem) : Prop :=
  item.taskInstanceId = task.id ∧
    (task.status = .reviewPending ∧ item.type = .completion ∧
        task.completedAt = some item.submittedAt ∨
      task.status = .excusePending ∧ item.type = .excuse ∧
        task.excuseSubmittedAt = some item.submittedAt)

structure InboxComplete (db : Database) (household : Household) (items : List ApprovalItem) :
    Prop where
  once : (items.map (·.taskInstanceId)).Nodup
  all : ∀ task ∈ db.instances.rows, Awaits db household task →
    ∃ item ∈ items, ItemOf task item
  only : ∀ item ∈ items, ∃ task ∈ db.instances.rows, Awaits db household task ∧
    ItemOf task item

def submittedAt? (task : TaskInstance) : Option Instant :=
  if task.status = .reviewPending then task.completedAt else task.excuseSubmittedAt

/-- In whatever order the query returns its rows, the oldest comes first. -/
def OldestFirst (db : Database) (household : Household) : Prop :=
  ∀ rows, Arranged submittedBefore (awaitingRows db household) rows →
    ∀ items ∈ rows.mapM approvalItem?,
      items.Pairwise fun first second => first.submittedAt ≤ second.submittedAt

/-- One of the two waits with a completion, and one of them was ever excused. -/
def Mixed (first second : TaskInstance) : Prop :=
  (first.status = .reviewPending ∨ second.status = .reviewPending) ∧
    (first.excuseSubmittedAt.isSome ∨ second.excuseSubmittedAt.isSome)

instance instDecidableMixed (first second : TaskInstance) : Decidable (Mixed first second) :=
  inferInstanceAs (Decidable (_ ∧ _))

/-- Where a completion waits and an excuse was sent, the excuse and the submission put the
instances in one order. -/
def NoneMisplaced (db : Database) (household : Household) : Prop :=
  ∀ first ∈ awaitingRows db household, ∀ second ∈ awaitingRows db household,
    Mixed first.1 second.1 → submittedBefore first second →
      ∀ earlier ∈ submittedAt? first.1, ∀ later ∈ submittedAt? second.1, earlier ≤ later

def inboxItem (awaited : Awaited) : ApprovalItem where
  type := if awaited.1.status = .reviewPending then .completion else .excuse
  taskInstanceId := awaited.1.id
  taskTitle := awaited.2.1.title
  assigneeName := awaited.2.2.displayName
  pointValue := awaited.1.pointValue
  submittedAt := (submittedAt? awaited.1).getD 0
  excuseText := awaited.1.excuseText

instance instDecidableNoneMisplaced (db : Database) (household : Household) :
    Decidable (NoneMisplaced db household) :=
  inferInstanceAs (Decidable (∀ _ ∈ awaitingRows db household, _))

section Rows

variable {db : Database} {household : Household} {rows : List Awaited}

theorem mem_awaitingRows {awaited : Awaited} :
    awaited ∈ awaitingRows db household ↔ awaited.1 ∈ db.instances.rows ∧
      db.definitions.find? awaited.1.definitionId = some awaited.2.1 ∧
      db.members.find? awaited.1.assigneeId = some awaited.2.2 ∧
      awaited.2.1.householdId = household.id ∧
      (awaited.1.status = .reviewPending ∨ awaited.1.status = .excusePending) := by
  unfold awaitingRows
  rw [List.mem_filterMap]
  simp only [awaiting?, Option.bind_eq_bind, Option.bind_eq_some_iff, Option.ite_none_right_eq_some,
    Option.some.injEq]
  constructor
  · intro found
    obtain ⟨task, stored, definition, ofTask, assignee, ofMember, selected, same⟩ := found
    subst same
    exact ⟨stored, ofTask, ofMember, selected⟩
  · intro found
    obtain ⟨stored, ofTask, ofMember, selected⟩ := found
    exact ⟨awaited.1, stored, awaited.2.1, ofTask, awaited.2.2, ofMember, selected, rfl⟩

theorem awaiting?_task {task : TaskInstance} {awaited : Awaited}
    (found : awaited ∈ awaiting? db household task) : awaited.1 = task := by
  simp only [awaiting?, Option.bind_eq_bind, Option.mem_def, Option.bind_eq_some_iff,
    Option.ite_none_right_eq_some, Option.some.injEq] at found
  obtain ⟨definition, _, assignee, _, _, rfl⟩ := found
  rfl

/-- An instance awaits its decision once. -/
theorem awaitingRows_ids : ((awaitingRows db household).map (·.1.id)).Nodup := by
  have rows : (awaitingRows db household).Nodup :=
    db.instances.keysNodup.of_map.filterMap fun first second awaited inFirst inSecond =>
      (awaiting?_task inFirst).symm.trans (awaiting?_task inSecond)
  refine rows.map_on ?_
  intro first firstIn second secondIn sameId
  obtain ⟨firstStored, firstDefinition, firstAssignee, _⟩ := mem_awaitingRows.mp firstIn
  obtain ⟨stored, definition, assignee, _⟩ := mem_awaitingRows.mp secondIn
  have sameTask := db.instances.row_unique firstStored stored sameId
  rw [sameTask] at firstDefinition firstAssignee
  refine Prod.ext sameTask (Prod.ext ?_ ?_)
  · exact Option.some.inj (firstDefinition.symm.trans definition)
  · exact Option.some.inj (firstAssignee.symm.trans assignee)

theorem submittedAt?_isSome (filed : FiledRows db) {awaited : Awaited}
    (awaits : awaited ∈ awaitingRows db household) :
    (submittedAt? awaited.1).isSome := by
  obtain ⟨stored, _, _, _, waits⟩ := mem_awaitingRows.mp awaits
  unfold submittedAt?
  rcases waits with review | excused
  · rw [if_pos review]
    exact (filed.submitted _ stored).completion review
  · rw [if_neg (by rw [excused]; nofun)]
    exact (filed.submitted _ stored).excuse excused

theorem approvalItem?_eq {awaited : Awaited} (submitted : (submittedAt? awaited.1).isSome) :
    approvalItem? awaited = some (inboxItem awaited) := by
  obtain ⟨time, found⟩ := Option.isSome_iff_exists.mp submitted
  unfold inboxItem
  rw [found]
  unfold submittedAt? at found
  unfold approvalItem?
  split at found
  next review => simp only [if_pos review, found, Option.map_some, Option.getD_some]
  next excused => simp only [if_neg excused, found, Option.map_some, Option.getD_some]

theorem mapM_approvalItem? (filed : FiledRows db)
    (subset : ∀ awaited ∈ rows, awaited ∈ awaitingRows db household) :
    rows.mapM approvalItem? = some (rows.map inboxItem) := by
  induction rows with
  | nil => rfl
  | cons awaited rest rests =>
      obtain ⟨awaits, later⟩ := List.forall_mem_cons.mp subset
      rw [List.mapM_cons, approvalItem?_eq (submittedAt?_isSome filed awaits), rests later]
      rfl

theorem itemOf_inboxItem (filed : FiledRows db) {awaited : Awaited}
    (awaits : awaited ∈ awaitingRows db household) :
    ItemOf awaited.1 (inboxItem awaited) := by
  obtain ⟨time, found⟩ := Option.isSome_iff_exists.mp (submittedAt?_isSome filed awaits)
  refine ⟨rfl, ?_⟩
  unfold inboxItem
  simp only [found, Option.getD_some]
  unfold submittedAt? at found
  rcases (mem_awaitingRows.mp awaits).2.2.2.2 with review | excused
  · rw [if_pos review] at found
    exact Or.inl ⟨review, if_pos review, found⟩
  · have unreviewed : awaited.1.status ≠ .reviewPending := by
      rw [excused]
      nofun
    rw [if_neg unreviewed] at found
    exact Or.inr ⟨excused, if_neg unreviewed, found⟩

theorem exists_awaitingRow (settled : SettledRows db) {task : TaskInstance}
    (stored : task ∈ db.instances.rows) (awaits : Awaits db household task) :
    ∃ awaited ∈ awaitingRows db household, awaited.1 = task := by
  obtain ⟨⟨definition, definitionStored, ofTask, own⟩, waits⟩ := awaits
  obtain ⟨owner, _, all⟩ := settled.instances task stored
  obtain ⟨assignee, found, _⟩ := found_of_owner? (all _ List.mem_cons_self)
  refine ⟨(task, definition, assignee), mem_awaitingRows.mpr ?_, rfl⟩
  exact ⟨stored, Table.find?_eq_some_iff.mpr ⟨definitionStored, ofTask⟩, found, own, waits⟩

theorem awaits_of_mem {awaited : Awaited} (awaits : awaited ∈ awaitingRows db household) :
    awaited.1 ∈ db.instances.rows ∧ Awaits db household awaited.1 := by
  obtain ⟨stored, found, _, own, waits⟩ := mem_awaitingRows.mp awaits
  obtain ⟨definitionStored, ofTask⟩ := Table.find?_eq_some_iff.mp found
  exact ⟨stored, ⟨_, definitionStored, ofTask, own⟩, waits⟩

theorem inboxComplete (settled : SettledRows db) (filed : FiledRows db)
    (perm : rows.Perm (awaitingRows db household)) :
    rows.mapM approvalItem? = some (rows.map inboxItem) ∧
      InboxComplete db household (rows.map inboxItem) := by
  refine ⟨mapM_approvalItem? filed fun _ listed => perm.mem_iff.mp listed, ?_, ?_, ?_⟩
  · rw [List.map_map]
    exact (perm.map _).nodup_iff.mpr awaitingRows_ids
  · intro task stored awaits
    obtain ⟨awaited, listed, rfl⟩ := exists_awaitingRow settled stored awaits
    exact ⟨_, List.mem_map_of_mem (perm.mem_iff.mpr listed), itemOf_inboxItem filed listed⟩
  · intro item listed
    obtain ⟨awaited, row, rfl⟩ := List.mem_map.mp listed
    have awaits := perm.mem_iff.mp row
    obtain ⟨stored, waits⟩ := awaits_of_mem awaits
    exact ⟨_, stored, waits, itemOf_inboxItem filed awaits⟩

/-! ## The order -/

def SubmittedInOrder (first second : Awaited) : Prop :=
  (inboxItem first).submittedAt ≤ (inboxItem second).submittedAt

theorem submittedInOrder_iff (filed : FiledRows db) {first second : Awaited}
    (awaits : first ∈ awaitingRows db household)
    (other : second ∈ awaitingRows db household) :
    SubmittedInOrder first second ↔
      ∀ earlier ∈ submittedAt? first.1, ∀ later ∈ submittedAt? second.1,
        earlier ≤ later := by
  obtain ⟨earlier, found⟩ := Option.isSome_iff_exists.mp (submittedAt?_isSome filed awaits)
  obtain ⟨later, otherFound⟩ := Option.isSome_iff_exists.mp (submittedAt?_isSome filed other)
  unfold SubmittedInOrder inboxItem
  simp only [found, otherFound, Option.getD_some, Option.mem_def, Option.some.injEq,
    forall_eq']

/-- Among excuses alone, and among completions without an excuse, the query sorts by the
submission. -/
theorem submittedInOrder_of_unmixed (filed : FiledRows db) {first second : Awaited}
    (awaits : first ∈ awaitingRows db household)
    (other : second ∈ awaitingRows db household) (unmixed : ¬ Mixed first.1 second.1)
    (before : submittedBefore first second) : SubmittedInOrder first second := by
  rw [submittedInOrder_iff filed awaits other]
  intro earlier found later otherFound
  rw [Option.mem_def] at found otherFound
  unfold Mixed at unmixed
  rw [not_and_or, not_or, not_or] at unmixed
  rcases unmixed with ⟨unreviewed, otherUnreviewed⟩ | ⟨unexcused, otherUnexcused⟩
  · -- Two excuses.
    unfold submittedAt? at found otherFound
    rw [if_neg unreviewed] at found
    rw [if_neg otherUnreviewed] at otherFound
    simp only [submittedBefore, found, otherFound] at before
    exact before.elim Int.le_of_lt fun tied => Int.le_of_eq tied.1
  · -- Two completions.
    rw [Option.not_isSome_iff_eq_none] at unexcused otherUnexcused
    unfold submittedAt? at found otherFound
    rw [unexcused, Option.ite_none_right_eq_some] at found
    rw [otherUnexcused, Option.ite_none_right_eq_some] at otherFound
    simp only [submittedBefore, submittedBefore.completedBefore, unexcused, otherUnexcused,
      found.2, otherFound.2] at before
    exact before

/-- Only a mixed pair can be out of order. -/
theorem noneMisplaced_iff (filed : FiledRows db) :
    NoneMisplaced db household ↔
      ∀ first ∈ awaitingRows db household, ∀ second ∈ awaitingRows db household,
        submittedBefore first second → SubmittedInOrder first second := by
  constructor
  · intro placed first awaits second other before
    by_cases mixed : Mixed first.1 second.1
    · exact (submittedInOrder_iff filed awaits other).mpr
        (placed first awaits second other mixed before)
    · exact submittedInOrder_of_unmixed filed awaits other mixed before
  · intro inOrder first awaits second other _ before
    exact (submittedInOrder_iff filed awaits other).mp
      (inOrder first awaits second other before)

theorem oldestFirst_iff (filed : FiledRows db) :
    OldestFirst db household ↔ NoneMisplaced db household := by
  rw [noneMisplaced_iff filed,
    ← arranged_pairwise_iff fun awaited => Int.le_refl (inboxItem awaited).submittedAt]
  constructor
  · intro oldest rows arranged
    have listed := mapM_approvalItem? filed fun _ row => arranged.perm.mem_iff.mp row
    have sorted := oldest rows arranged _ listed
    rw [List.pairwise_map] at sorted
    exact sorted
  · intro inOrder rows arranged items returned
    rw [mapM_approvalItem? filed fun _ row => arranged.perm.mem_iff.mp row] at returned
    obtain rfl := Option.some.inj returned
    exact List.pairwise_map.mpr (inOrder rows arranged)

theorem getApprovalInbox_ok {memberId : Uuid} {parent : Member}
    (loaded : loadParent db memberId = .ok (parent, household)) :
    ∃ rows, Arranged submittedBefore (awaitingRows db household) rows ∧
      getApprovalInbox memberId db = .ok (rows.mapM approvalItem?) := by
  refine ⟨_, arranged_insertionSort (awaitingRows db household), ?_⟩
  unfold getApprovalInbox
  rw [loaded]
  rfl

end Rows

/-! ## In every state -/

/-- What the household's inbox shows, in whatever order its query returns the rows. -/
structure InboxServes (db : Database) (household : Household) : Prop where
  complete : ∀ rows, Arranged submittedBefore (awaitingRows db household) rows →
    ∃ items, rows.mapM approvalItem? = some items ∧ InboxComplete db household items
  oldestFirst : OldestFirst db household ↔ NoneMisplaced db household
  answers : ∀ memberId parent, loadParent db memberId = .ok (parent, household) →
    ∃ rows, Arranged submittedBefore (awaitingRows db household) rows ∧
      getApprovalInbox memberId db = .ok (rows.mapM approvalItem?)

theorem inboxServes {db : Database} (settled : SettledRows db) (filed : FiledRows db)
    (household : Household) : InboxServes db household where
  complete _ arranged := ⟨_, inboxComplete settled filed arranged.perm⟩
  oldestFirst := oldestFirst_iff filed
  answers _ _ loaded := getApprovalInbox_ok loaded

/-- In every state of every run the inbox is complete, and the oldest comes first exactly
if no excuse puts a completion out of place. -/
theorem approval_inbox_iff (pytz : String → Option TzInfo)
    (verifyPassword : String → String → Bool) {site : SiteState} (founded : Founded site)
    (events : List SiteEvent) :
    Always (siteStep pytz verifyPassword)
      (fun site => ∀ household, InboxServes site.db household) site events := by
  apply (always_filed founded events).imp
  intro reached filed household
  exact inboxServes filed.settled.rows filed.filed household

/-! ## A morning's submissions -/

def familySite : SiteState where
  server := { world := { db := newFamily } }

theorem familySite_founded : Founded familySite :=
  ⟨⟨rfl, rfl, rfl, rfl, rfl⟩, rfl, rfl⟩

def hourOf (hour : Int) : Instant := nightOf 1 + timedeltaSeconds (hour * 3600)

def reviewedDishes : SiteEvent :=
  .request (.createDefinition ⟨hourOf 0, hourOf 0, 1,
    { dailyDishes with requiresReview := true }⟩)

def sendExcuse (hour : Int) (instanceId : Uuid) (key : String) : SiteEvent :=
  .request (.excuseTask ⟨⟨hourOf hour, hourOf hour⟩, 2, instanceId, key⟩ "I was travelling")

def sendCompletion (hour : Int) (instanceId : Uuid) (key : String) : SiteEvent :=
  .request (.completeTask ⟨⟨hourOf hour, hourOf hour⟩, 2, instanceId, key⟩ none)

/-- The site after two reviewed chores and what the teen submits. -/
def submissions (events : List SiteEvent) : SiteState :=
  runFrom (siteStep utcOnly fun _ _ => false) familySite
    (reviewedDishes :: reviewedDishes :: events)

/-- The completion of one chore, then the excuse for another. -/
theorem approval_inbox_morning :
    OldestFirst (submissions [sendCompletion 1 2 "done", sendExcuse 2 1 "away"]).db
      sampleHousehold := by
  have serves := (approval_inbox_iff utcOnly (fun _ _ => false) familySite_founded
    (reviewedDishes :: reviewedDishes ::
      [sendCompletion 1 2 "done", sendExcuse 2 1 "away"])).at_end sampleHousehold
  exact serves.oldestFirst.mpr (by decide +kernel)

/-- The other way round, the inbox shows the later submission first. -/
theorem completion_before_olderExcuse :
    (getApprovalInbox 1 (submissions [sendExcuse 1 1 "away", sendCompletion 2 2 "done"]).db).map
        (Option.map (List.map ApprovalItem.submittedAt)) =
      .ok (some [hourOf 2, hourOf 1]) ∧
      ¬ [hourOf 2, hourOf 1].Pairwise (· ≤ ·) := by
  decide +kernel

end KidsChores.Properties
