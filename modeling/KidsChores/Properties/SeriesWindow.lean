import KidsChores.Properties.Accounts
import KidsChores.Routers.Tasks

/-!
# The account of a series window

The entries that reference one window form its account.  A window is outstanding
and unpaid, or it is earned and paid once; completing a task keeps it so, because
`complete_task` looks at the window afterwards, and a parent's decision keeps it
so unless it approves the last task the window waits for.
-/

set_option autoImplicit false

namespace KidsChores.Properties

open KidsChores.Models
open KidsChores.Library
open KidsChores.Routers.Tasks
open KidsChores.Services.Ledger
open KidsChores.Services.SeriesCompletion
open KidsChores.Services.StateMachine
open KidsChores.Session

/-- Type, instance and amount of the entries that reference the window, oldest
first. -/
def windowPostings (ledger : Ledger) (windowId : Uuid) :
    List (LedgerEntryType × Option Uuid × Int) :=
  (ledger.entries.filter fun entry => entry.seriesInstanceId = some windowId).map
    fun entry => (entry.entryType, entry.taskInstanceId, entry.delta)

inductive WindowState (windowId : Uuid) (db : Database) : Prop where
  | outstanding {seriesInstance : SeriesInstance}
      (found : db.seriesInstances.find? windowId = some seriesInstance)
      (active : seriesInstance.status = .active)
      (notEarned : ¬ Earned (linkedInstances db windowId))
      (unpaid : windowPostings db.ledger windowId = [])
  | paid {seriesInstance : SeriesInstance} {series : Series}
      (found : db.seriesInstances.find? windowId = some seriesInstance)
      (complete : seriesInstance.status = .complete)
      (earned : Earned (linkedInstances db windowId))
      (seriesFound : db.series.find? seriesInstance.seriesId = some series)
      (once : windowPostings db.ledger windowId = [(.seriesBonus, none,
        payout series (completedInstances (linkedInstances db windowId)))])

/-! ## The entries of a window -/

theorem windowPostings_record {ledger next : Ledger} {clock : Clock}
    {posting : Posting} (recorded : record ledger clock posting = .ok next)
    (windowId : Uuid) :
    windowPostings next windowId = windowPostings ledger windowId ++
      if posting.seriesInstanceId = some windowId then
        [(posting.entryType, posting.taskInstanceId, posting.delta)]
      else [] := by
  simp only [windowPostings, (record_ok recorded).1, List.filter_append,
    List.map_append]
  by_cases own : posting.seriesInstanceId = some windowId
  · simp [Posting.entry, own]
  · simp [Posting.entry, own]

theorem windowPostings_record_other {ledger next : Ledger} {clock : Clock}
    {posting : Posting} (recorded : record ledger clock posting = .ok next)
    {windowId : Uuid} (other : posting.seriesInstanceId ≠ some windowId) :
    windowPostings next windowId = windowPostings ledger windowId := by
  rw [windowPostings_record recorded, if_neg other, List.append_nil]

section Call

variable {clock : Clock} {household : Household} {definition : TaskDefinition}
variable {actor : Member} {task next : TaskInstance} {ledger nextLedger : Ledger}
variable {call : ServiceCall}

theorem windowPostings_call
    (effect : CallEffect clock household definition actor task ledger call next
      nextLedger) (windowId : Uuid) :
    windowPostings nextLedger windowId = windowPostings ledger windowId := by
  cases effect with
  | completed actionable auto paid =>
      exact windowPostings_record_other paid (Option.some_ne_none windowId).symm
  | approved inReview paid =>
      exact windowPostings_record_other paid (Option.some_ne_none windowId).symm
  | excuseApproved submitted paid =>
      unfold awardExcuseIfPolicy at paid
      cases policy : household.excusedPayoutPolicy with
      | excusedPaysNothing =>
          rw [policy] at paid
          cases paid
          rfl
      | excusedPaysPartial | excusedPaysFull =>
          simp only [policy, excusePosting] at paid
          exact windowPostings_record_other paid (Option.some_ne_none windowId).symm
  | reversedBeforeDue done early posted =>
      exact windowPostings_record_other posted (Option.some_ne_none windowId).symm
  | reversedAfterDue done late posted =>
      exact windowPostings_record_other posted (Option.some_ne_none windowId).symm
  | sentToReview | excusedWhilePending | excusedWhileOverdue | deniedBeforeDue
  | deniedAfterDue | excuseDeniedInGrace | excuseDeniedExpired | cancelled => rfl

end Call

/-! ## The instances of a window -/

/-- A saved row takes the place of the stored one, in the same window. -/
theorem linkedInstances_storeCall {db : Database} {task result : TaskInstance}
    {ledger : Ledger} (stored : db.instances.find? task.id = some task)
    (same : SameTask task result) (windowId : Uuid) :
    linkedInstances (storeCall db result ledger) windowId =
      (linkedInstances db windowId).map fun old =>
        if old.id = result.id then result else old := by
  simp only [linkedInstances, storeCall, Table.save, List.filter_map]
  congr 1
  apply List.filter_congr
  intro old member
  simp only [Function.comp_apply]
  split
  · rename_i hit
    have own : old = task :=
      db.instances.row_unique member (Table.mem_of_find? stored) (hit.trans same.id)
    rw [own, same.seriesInstanceId]
  · rfl

theorem mem_linkedInstances {db : Database} {windowId : Uuid} {task : TaskInstance} :
    task ∈ linkedInstances db windowId ↔
      task ∈ db.instances.rows ∧ task.seriesInstanceId = some windowId := by
  simp [linkedInstances]

theorem of_mem_linkedInstances_storeCall {db : Database}
    {task result changed : TaskInstance} {ledger : Ledger} {windowId : Uuid}
    (stored : db.instances.find? task.id = some task) (same : SameTask task result)
    (member : changed ∈ linkedInstances (storeCall db result ledger) windowId) :
    changed = result ∧ task ∈ linkedInstances db windowId ∨
      changed ∈ linkedInstances db windowId ∧ changed.id ≠ task.id := by
  rw [linkedInstances_storeCall stored same] at member
  obtain ⟨old, oldMember, rfl⟩ := List.mem_map.mp member
  by_cases hit : old.id = result.id
  · left
    rw [if_pos hit]
    have own : old = task := db.instances.row_unique
      (mem_linkedInstances.mp oldMember).1 (Table.mem_of_find? stored)
      (hit.trans same.id)
    exact ⟨rfl, own ▸ oldMember⟩
  · right
    rw [if_neg hit]
    exact ⟨oldMember, by rw [← same.id]; exact hit⟩

theorem linkedInstances_unlinked {db : Database} {task result : TaskInstance}
    {ledger : Ledger} (stored : db.instances.find? task.id = some task)
    (same : SameTask task result) {windowId : Uuid}
    (unlinked : task.seriesInstanceId ≠ some windowId) :
    linkedInstances (storeCall db result ledger) windowId =
      linkedInstances db windowId := by
  rw [linkedInstances_storeCall stored same]
  conv_rhs => rw [← List.map_id (linkedInstances db windowId)]
  apply List.map_congr_left
  intro old member
  rw [if_neg, id_eq]
  intro hit
  obtain ⟨rowMember, linked⟩ := mem_linkedInstances.mp member
  have own : old = task :=
    db.instances.row_unique rowMember (Table.mem_of_find? stored) (hit.trans same.id)
  exact unlinked (own ▸ linked)

theorem closed_of_done {task : TaskInstance} {call : ServiceCall}
    (done : task.status = .complete ∨ task.status = .excused)
    (accepts : call.Accepts task.status) : ∃ reason, call = .reverseCompletion reason := by
  cases call with
  | reverseCompletion reason => exact ⟨reason, rfl⟩
  | complete | submitExcuse | cancel =>
      exfalso
      rcases done with status | status <;>
        rcases accepts with other | other <;> rw [status] at other <;> cases other
  | review | resolveExcuse =>
      exfalso
      have other := accepts
      simp only [ServiceCall.Accepts] at other
      rcases done with status | status <;> rw [status] at other <;> cases other

/-! ## Steps of a window -/

/-- Whatever leaves the window, its instances and its entries alone keeps it. -/
theorem WindowState.congr {windowId : Uuid} {db next : Database}
    (state : WindowState windowId db)
    (sameWindow : next.seriesInstances.find? windowId =
      db.seriesInstances.find? windowId)
    (sameSeries : next.series = db.series)
    (sameInstances : linkedInstances next windowId = linkedInstances db windowId)
    (samePostings : windowPostings next.ledger windowId =
      windowPostings db.ledger windowId) : WindowState windowId next := by
  cases state with
  | outstanding found active notEarned unpaid =>
      exact .outstanding (sameWindow.trans found) active
        (by rw [sameInstances]; exact notEarned) (samePostings.trans unpaid)
  | paid found complete earned seriesFound once =>
      refine .paid (sameWindow.trans found) complete ?_
        (by rw [sameSeries]; exact seriesFound) ?_
      · rw [sameInstances]
        exact earned
      · rw [samePostings, sameInstances]
        exact once

/-- The check of an active, unpaid window pays it if it is earned. -/
theorem WindowState.checked {windowId : Uuid} {clock : Clock}
    {completed : TaskInstance} {seriesInstance : SeriesInstance} {db next : Database}
    (found : db.seriesInstances.find? windowId = some seriesInstance)
    (active : seriesInstance.status = .active)
    (unpaid : windowPostings db.ledger windowId = [])
    (linked : completed.seriesInstanceId = some windowId)
    (check : WindowCheck clock completed db next) : WindowState windowId next := by
  cases check with
  | unlinked unlinked =>
      rw [linked] at unlinked
      cases unlinked
  | gone other gone =>
      rw [linked] at other
      cases other
      rw [found] at gone
      cases gone
  | evaluated other otherFound evaluation =>
      rw [linked] at other
      cases other
      rw [found] at otherFound
      cases otherFound
      have own : seriesInstance.id = windowId := Table.key_of_find? found
      cases evaluation with
      | closed closed => exact absurd active closed
      | outstanding outstanding =>
          rw [own] at outstanding
          exact .outstanding found active outstanding unpaid
      | paid active earned seriesFound recorded delta entryType noTask window =>
          rw [own] at earned delta window
          refine .paid (Table.find?_save_same found own) rfl earned seriesFound ?_
          rw [windowPostings_record recorded, unpaid, if_pos window, entryType, noTask,
            delta]
          rfl

theorem WindowState.checked_other {windowId : Uuid} {clock : Clock}
    {completed : TaskInstance} {db next : Database}
    (state : WindowState windowId db)
    (unlinked : completed.seriesInstanceId ≠ some windowId)
    (check : WindowCheck clock completed db next) : WindowState windowId next := by
  cases check with
  | unlinked => exact state
  | gone => exact state
  | evaluated linked found evaluation =>
      rename_i otherId seriesInstance paid
      have other : otherId ≠ windowId := by
        rintro rfl
        exact unlinked linked
      have own : seriesInstance.id = otherId := Table.key_of_find? found
      cases evaluation with
      | closed => exact state
      | outstanding => exact state
      | paid active earned seriesFound recorded delta entryType noTask window =>
          refine state.congr ?_ rfl rfl ?_
          · exact Table.find?_save_other (by rw [own]; exact other)
          · refine windowPostings_record_other recorded ?_
            rw [window, own]
            exact fun same => other (Option.some.inj same)

section Steps

variable {clock : Clock} {household : Household} {definition : TaskDefinition}
variable {actor : Member} {task result : TaskInstance} {ledger : Ledger}
variable {call : ServiceCall} {db : Database} {windowId : Uuid}

theorem WindowState.stored_unlinked (state : WindowState windowId db)
    (stored : db.instances.find? task.id = some task)
    (effect : CallEffect clock household definition actor task db.ledger call result
      ledger) (unlinked : task.seriesInstanceId ≠ some windowId) :
    WindowState windowId (storeCall db result ledger) :=
  state.congr rfl rfl (linkedInstances_unlinked stored effect.sameTask unlinked)
    (windowPostings_call effect windowId)

/-- A call on a linked instance finds the window outstanding. -/
theorem WindowState.open_of_linked (state : WindowState windowId db)
    (stored : db.instances.find? task.id = some task)
    (effect : CallEffect clock household definition actor task db.ledger call result
      ledger) (forward : ∀ reason, call ≠ .reverseCompletion reason)
    (linked : task.seriesInstanceId = some windowId) :
    ∃ seriesInstance, db.seriesInstances.find? windowId = some seriesInstance ∧
      seriesInstance.status = .active ∧
      windowPostings ledger windowId = [] := by
  have member : task ∈ linkedInstances db windowId :=
    mem_linkedInstances.mpr ⟨Table.mem_of_find? stored, linked⟩
  cases state with
  | outstanding found active notEarned unpaid =>
      exact ⟨_, found, active, (windowPostings_call effect windowId).trans unpaid⟩
  | paid found complete earned seriesFound once =>
      obtain ⟨reason, reversal⟩ := closed_of_done (earned.2 task member) effect.accepts
      exact absurd reversal (forward reason)

theorem mem_linkedInstances_stored
    (stored : db.instances.find? task.id = some task)
    (effect : CallEffect clock household definition actor task db.ledger call result
      ledger) (linked : task.seriesInstanceId = some windowId) :
    result ∈ linkedInstances (storeCall db result ledger) windowId := by
  rw [linkedInstances_storeCall stored effect.sameTask]
  have member : task ∈ linkedInstances db windowId :=
    mem_linkedInstances.mpr ⟨Table.mem_of_find? stored, linked⟩
  exact List.mem_map.mpr ⟨task, member, if_pos effect.sameTask.id.symm⟩

theorem WindowState.stored (state : WindowState windowId db)
    (stored : db.instances.find? task.id = some task)
    (effect : CallEffect clock household definition actor task db.ledger call result
      ledger) (forward : ∀ reason, call ≠ .reverseCompletion reason)
    (notEarned : task.seriesInstanceId = some windowId →
      ¬ Earned (linkedInstances (storeCall db result ledger) windowId)) :
    WindowState windowId (storeCall db result ledger) := by
  by_cases linked : task.seriesInstanceId = some windowId
  · obtain ⟨seriesInstance, found, active, unpaid⟩ :=
      state.open_of_linked stored effect forward linked
    have foundStored : (storeCall db result ledger).seriesInstances.find? windowId =
        some seriesInstance := found
    exact .outstanding foundStored active (notEarned linked) unpaid
  · exact state.stored_unlinked stored effect linked

theorem WindowState.submitted {excuseText : String} (state : WindowState windowId db)
    (stored : db.instances.find? task.id = some task)
    (effect : CallEffect clock household definition actor task db.ledger
      (.submitExcuse excuseText) result ledger) :
    WindowState windowId (storeCall db result ledger) := by
  refine state.stored stored effect (by simp) fun linked earned => ?_
  have waiting : result.status = .excusePending := by
    cases effect <;> rfl
  rcases earned.2 result (mem_linkedInstances_stored stored effect linked) with
    status | status <;> rw [waiting] at status <;> cases status

theorem WindowState.completed {note : Option String} {next : Database}
    (state : WindowState windowId db)
    (stored : db.instances.find? task.id = some task)
    (effect : CallEffect clock household definition actor task db.ledger
      (.complete note) result ledger)
    (check : WindowCheck clock result (storeCall db result ledger) next) :
    WindowState windowId next := by
  have sameLink := effect.sameTask.seriesInstanceId
  by_cases linked : task.seriesInstanceId = some windowId
  · obtain ⟨seriesInstance, found, active, unpaid⟩ :=
      state.open_of_linked stored effect (by simp) linked
    have foundStored : (storeCall db result ledger).seriesInstances.find? windowId =
        some seriesInstance := found
    exact WindowState.checked foundStored active unpaid (sameLink.trans linked) check
  · exact (state.stored_unlinked stored effect linked).checked_other
      (by rw [sameLink]; exact linked) check

end Steps

/-! ## Decisions -/

/-- Approving this instance would leave the window earned: every other linked
instance is complete or excused, and it is itself completed, or another one is. -/
def ApprovesLast (windowId : Uuid) (db : Database) (task : TaskInstance) : Prop :=
  task.seriesInstanceId = some windowId ∧
    (∀ other ∈ linkedInstances db windowId, other.id ≠ task.id →
      other.status = .complete ∨ other.status = .excused) ∧
    (task.status = .reviewPending ∨ task.status = .excusePending ∧
      ∃ other ∈ linkedInstances db windowId, other.id ≠ task.id ∧
        other.status = .complete)

instance (windowId : Uuid) (db : Database) (task : TaskInstance) :
    Decidable (ApprovesLast windowId db task) :=
  inferInstanceAs (Decidable (_ ∧ _ ∧ (_ ∨ _ ∧ _)))

section Decision

variable {clock : Clock} {household : Household} {definition : TaskDefinition}
variable {parent : Member} {task result : TaskInstance} {ledger nextLedger : Ledger}
variable {call : ServiceCall} {db : Database} {windowId : Uuid}
variable {approve : Bool} {comment : Option String}

/-- A decision that leaves the instance complete or excused approves it. -/
theorem decision_approves (decision : IsDecision approve comment call)
    (effect : CallEffect clock household definition parent task ledger call result
      nextLedger)
    (done : result.status = .complete ∨ result.status = .excused) :
    approve = true ∧ (task.status = .reviewPending ∨
      task.status = .excusePending ∧ result.status = .excused) := by
  rcases decision with rfl | rfl
  · cases effect with
    | approved inReview => exact ⟨rfl, Or.inl inReview⟩
    | deniedBeforeDue | deniedAfterDue => simp at done
  · cases effect with
    | excuseApproved submitted => exact ⟨rfl, Or.inr ⟨submitted, rfl⟩⟩
    | excuseDeniedInGrace | excuseDeniedExpired => simp at done

/-- Earning the window by a decision takes an approval of its last instance. -/
theorem approvesLast_of_earned
    (stored : db.instances.find? task.id = some task)
    (effect : CallEffect clock household definition parent task db.ledger call result
      ledger)
    (decision : IsDecision approve comment call)
    (linked : task.seriesInstanceId = some windowId)
    (earned : Earned (linkedInstances (storeCall db result ledger) windowId)) :
    approve = true ∧ ApprovesLast windowId db task := by
  have sameId := effect.sameTask.id
  obtain ⟨approved, waiting⟩ := decision_approves decision effect
    (earned.2 result (mem_linkedInstances_stored stored effect linked))
  rw [linkedInstances_storeCall stored effect.sameTask] at earned
  have stays : ∀ other ∈ linkedInstances db windowId, other.id ≠ task.id →
      other ∈ (linkedInstances db windowId).map fun old =>
        if old.id = result.id then result else old := by
    intro other otherMember different
    refine List.mem_map.mpr ⟨other, otherMember, if_neg ?_⟩
    rw [sameId]
    exact different
  refine ⟨approved, linked, ?_, ?_⟩
  · intro other otherMember different
    exact earned.2 other (stays other otherMember different)
  · rcases waiting with inReview | ⟨submitted, excused⟩
    · exact Or.inl inReview
    · right
      refine ⟨submitted, ?_⟩
      obtain ⟨done, doneMember, complete⟩ := earned.1
      obtain ⟨other, otherMember, rfl⟩ := List.mem_map.mp doneMember
      by_cases hit : other.id = result.id
      · rw [if_pos hit, excused] at complete
        cases complete
      · rw [if_neg hit] at complete
        exact ⟨other, otherMember, by rw [← sameId]; exact hit, complete⟩

/-- A decision that does not approve the last instance keeps every window
settled. -/
theorem WindowState.decided (state : WindowState windowId db)
    (stored : db.instances.find? task.id = some task)
    (effect : CallEffect clock household definition parent task db.ledger call result
      ledger)
    (decision : IsDecision approve comment call)
    (notLast : approve = true → ¬ ApprovesLast windowId db task) :
    WindowState windowId (storeCall db result ledger) := by
  refine state.stored stored effect decision.forward fun linked earned => ?_
  obtain ⟨approved, last⟩ :=
    approvesLast_of_earned stored effect decision linked earned
  exact notLast approved last

end Decision

/-! ## The start of a window -/

structure OpenWindow (windowId : Uuid) (db : Database) : Prop where
  active : ∃ seriesInstance,
    db.seriesInstances.find? windowId = some seriesInstance ∧
      seriesInstance.status = .active
  unreferenced : ∀ entry ∈ db.ledger.entries,
    entry.seriesInstanceId ≠ some windowId
  notEarned : ¬ Earned (linkedInstances db windowId)

theorem OpenWindow.state {windowId : Uuid} {db : Database}
    (opened : OpenWindow windowId db) : WindowState windowId db := by
  obtain ⟨seriesInstance, found, active⟩ := opened.active
  refine .outstanding found active opened.notEarned ?_
  simpa [windowPostings, List.filter_eq_nil_iff] using opened.unreferenced

/-- The family with a window of two tasks, due at the same time; the second may
need a review. -/
def sampleWindow (mode : SeriesPayoutMode) (reviewed : Bool) : Database :=
  { sampleDatabase sampleDefinition sampleTask with
    definitions := ⟨[sampleDefinition,
      { sampleDefinition with id := 2, requiresReview := reviewed }],
      by simp [sampleDefinition]⟩
    series := ⟨[{
      id := 1
      householdId := 1
      name := "Kitchen week"
      assigneeId := 2
      bonusPoints := 5
      payoutMode := mode
      windowType := .weekly }], List.nodup_singleton _⟩
    seriesInstances := ⟨[{
      id := 1
      seriesId := 1
      windowStart := 0
      windowEnd := 1000 }], List.nodup_singleton _⟩
    instances := ⟨[{ sampleTask with seriesInstanceId := some 1 },
      { sampleTask with id := 2, definitionId := 2, seriesInstanceId := some 1 }],
      by decide⟩ }

theorem sampleWindow_pending {mode : SeriesPayoutMode} {reviewed : Bool}
    {task : TaskInstance}
    (member : task ∈ linkedInstances (sampleWindow mode reviewed) 1) :
    task.status = .pending := by
  simp [sampleWindow, linkedInstances, sampleTask] at member
  rcases member with rfl | rfl <;> rfl

theorem sampleWindow_open (mode : SeriesPayoutMode) (reviewed : Bool) :
    OpenWindow 1 (sampleWindow mode reviewed) := by
  refine ⟨⟨_, rfl, rfl⟩, ?_, ?_⟩
  · intro entry member
    cases member
  · rintro ⟨⟨task, member, complete⟩, _⟩
    rw [sampleWindow_pending member] at complete
    cases complete

end KidsChores.Properties
