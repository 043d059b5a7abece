import KidsChores.Library.ReadCommitted
import KidsChores.Lifecycle
import KidsChores.Properties.Accounts
import KidsChores.Session

/-!
# Requests and the nightly pass, interleaved

Each writer of an instance reads the row once, decides on its copy, updates the
row by primary key and commits.  The session writes the columns it changed and
inserts the ledger entry of the call; no row lock is taken before the update and
no version is checked.
-/

set_option autoImplicit false

namespace KidsChores.Interleaving

open KidsChores.Models
open KidsChores.Library
open KidsChores.Library.PyDatetime
open KidsChores.Library.ReadCommitted
open KidsChores.Services.Ledger
open KidsChores.Services.StateMachine
open KidsChores.Lifecycle
open KidsChores.Properties
open KidsChores.Session

inductive Writer where
  | request (clock : Clock) (actor : Member) (taskId : Uuid) (call : ServiceCall)
  | nightlyMissed (now : Instant) (taskId : Uuid)
  deriving DecidableEq, Repr

def Writer.taskId : Writer → Uuid
  | .request _ _ taskId _ => taskId
  | .nightlyMissed _ taskId => taskId

/-- The check a writer makes on the status it read. -/
def Writer.Accepts : Writer → TaskStatus → Prop
  | .request _ _ _ call, status => call.Accepts status
  | .nightlyMissed _ _, status => status = .overdue

instance (writer : Writer) (status : TaskStatus) :
    Decidable (writer.Accepts status) := by
  cases writer <;> unfold Writer.Accepts <;> infer_instance

/-! ## The statements of one commit -/

def updateRow (read new committed : TaskInstance) : TaskInstance :=
  { committed with
    status := written read.status new.status committed.status
    completedAt := written read.completedAt new.completedAt committed.completedAt
    completionNote :=
      written read.completionNote new.completionNote committed.completionNote
    excuseText := written read.excuseText new.excuseText committed.excuseText
    excuseSubmittedAt := written read.excuseSubmittedAt new.excuseSubmittedAt
      committed.excuseSubmittedAt
    gracePausedAt :=
      written read.gracePausedAt new.gracePausedAt committed.gracePausedAt
    graceElapsedSeconds := written read.graceElapsedSeconds
      new.graceElapsedSeconds committed.graceElapsedSeconds
    reviewedBy := written read.reviewedBy new.reviewedBy committed.reviewedBy
    reviewedAt := written read.reviewedAt new.reviewedAt committed.reviewedAt
    reviewComment :=
      written read.reviewComment new.reviewComment committed.reviewComment }

theorem updateRow_sameTask (read new committed : TaskInstance) :
    SameTask committed (updateRow read new committed) :=
  ⟨rfl, rfl, rfl, rfl, rfl, rfl⟩

/-- An update that matches no row is an error of the session. -/
def writeBack (taskId : Uuid) (read new : TaskInstance)
    (posted : List LedgerEntry) (db : Database) : Database :=
  match db.instances.find? taskId with
  | none => db
  | some committed => { db with
      instances := db.instances.save (updateRow read new committed)
      ledger := appendPosted db.ledger posted }

def Writer.stage (writer : Writer) (seen : Option Loaded) (db : Database) :
    Option (Database → Database) :=
  match seen with
  | none => none
  | some loaded =>
      match writer with
      | .request clock actor taskId call =>
          match call.run clock loaded.household loaded.definition actor loaded.task
              db.ledger with
          | .error _ => none
          | .ok (task, ledger) => some (writeBack taskId loaded.task task
              (ledger.entries.drop db.ledger.entries.length))
      | .nightlyMissed now taskId =>
          if loaded.task.status = .overdue ∧ loaded.definition.archivedAt = none ∧
              graceRemaining loaded.task loaded.household.gracePeriodHours now ≤ 0
          then some (writeBack taskId loaded.task
            { loaded.task with status := .missed } [])
          else none

def Writer.transaction (writer : Writer) :
    Transaction Uuid (Option Loaded) Database where
  key := writer.taskId
  load := fun db => load? db writer.taskId
  stage := writer.stage

/-! ## What a writer staged -/

inductive Decided (loaded : Loaded) (ledger : Ledger) :
    Writer → TaskInstance → Ledger → Prop where
  | called {clock : Clock} {actor : Member} {taskId : Uuid} {call : ServiceCall}
      {task : TaskInstance} {nextLedger : Ledger}
      (effect : CallEffect clock loaded.household loaded.definition actor
        loaded.task ledger call task nextLedger) :
      Decided loaded ledger (.request clock actor taskId call) task nextLedger
  | swept {now : Instant} {taskId : Uuid}
      (overdue : loaded.task.status = .overdue) :
      Decided loaded ledger (.nightlyMissed now taskId)
        { loaded.task with status := .missed } ledger

theorem stage_ok {writer : Writer} {seen : Option Loaded} {db : Database}
    {change : Database → Database} (staged : writer.stage seen db = some change) :
    ∃ loaded task ledger, seen = some loaded ∧
      Decided loaded db.ledger writer task ledger ∧
      change = writeBack writer.taskId loaded.task task
        (ledger.entries.drop db.ledger.entries.length) := by
  unfold Writer.stage at staged
  cases seen with
  | none => cases staged
  | some loaded =>
      cases writer with
      | request clock actor taskId call =>
          simp only at staged
          split at staged
          · cases staged
          · rename_i task ledger success
            cases staged
            exact ⟨loaded, task, ledger, rfl, .called (run_effect success), rfl⟩
      | nightlyMissed now taskId =>
          simp only at staged
          split at staged
          · rename_i expired
            cases staged
            refine ⟨loaded, _, db.ledger, rfl, .swept expired.1, ?_⟩
            simp [Writer.taskId]
          · cases staged

section Decision

variable {loaded : Loaded} {ledger nextLedger : Ledger} {writer : Writer}
variable {task : TaskInstance}

/-- What a writer posts references its own instance, under a free index key. -/
structure PostsOwn (ledger nextLedger : Ledger) (taskId : Uuid)
    (entry : LedgerEntry) : Prop where
  appended : nextLedger.entries = ledger.entries ++ [entry]
  own : entry.taskInstanceId = some taskId
  noSeries : entry.seriesInstanceId = none
  free : ∀ earlier ∈ ledger.entries, ¬ earlier.Clashes entry

theorem record_postsOwn {clock : Clock} {posting : Posting} {taskId : Uuid}
    (recorded : record ledger clock posting = .ok nextLedger)
    (own : posting.taskInstanceId = some taskId)
    (noSeries : posting.seriesInstanceId = none) :
    ∃ entry, PostsOwn ledger nextLedger taskId entry :=
  ⟨_, (record_ok recorded).1, own, noSeries, (record_ok recorded).2⟩

theorem Decided.posts (decided : Decided loaded ledger writer task nextLedger) :
    nextLedger = ledger ∨
      ∃ entry, PostsOwn ledger nextLedger loaded.task.id entry := by
  cases decided with
  | swept overdue => exact Or.inl rfl
  | called effect =>
      cases effect with
      | completed actionable auto paid => exact Or.inr (record_postsOwn paid rfl rfl)
      | approved inReview paid => exact Or.inr (record_postsOwn paid rfl rfl)
      | excuseApproved submitted paid =>
          unfold awardExcuseIfPolicy at paid
          cases policy : loaded.household.excusedPayoutPolicy with
          | excusedPaysNothing =>
              rw [policy] at paid
              cases paid
              exact Or.inl rfl
          | excusedPaysPartial =>
              rw [policy] at paid
              exact Or.inr (record_postsOwn paid rfl rfl)
          | excusedPaysFull =>
              rw [policy] at paid
              exact Or.inr (record_postsOwn paid rfl rfl)
      | reversedBeforeDue done early posted =>
          exact Or.inr (record_postsOwn posted rfl rfl)
      | reversedAfterDue done late posted =>
          exact Or.inr (record_postsOwn posted rfl rfl)
      | sentToReview | excusedWhilePending | excusedWhileOverdue | deniedBeforeDue
      | deniedAfterDue | excuseDeniedInGrace | excuseDeniedExpired | cancelled =>
          exact Or.inl rfl

theorem Decided.moves (decided : Decided loaded ledger writer task nextLedger) :
    task.status ≠ loaded.task.status := by
  cases decided with
  | called effect => exact effect.moves
  | swept overdue => simp [overdue]

theorem Decided.offered (decided : Decided loaded ledger writer task nextLedger)
    {status : TaskStatus} (accepted : writer.Accepts status) :
    Offered status task.status := by
  cases decided with
  | called effect => exact effect.offered accepted
  | swept overdue =>
      cases accepted
      exact ⟨.graceExpires, rfl⟩

theorem Decided.booked (decided : Decided loaded ledger writer task nextLedger)
    {approved : Option ExcusedPayoutPolicy} {status : TaskStatus}
    (accepted : writer.Accepts status)
    (booked : Booked approved status loaded.task.pointValue
      (postings ledger loaded.task.id)) :
    Booked (some loaded.household.excusedPayoutPolicy) task.status
      loaded.task.pointValue (postings nextLedger loaded.task.id) := by
  cases decided with
  | called effect => exact booked_call effect accepted booked fun _ => rfl
  | swept overdue =>
      have status : status = .overdue := accepted
      subst status
      exact (booked.settled (by decide) (by decide)).booked (by simp) (by simp)

/-! ## The committed ledger -/

/-- An index key that was free when the row was locked is free at the commit. -/
theorem appendPosted_own {entry : LedgerEntry} {taskId : Uuid} {current : Ledger}
    (posts : PostsOwn ledger nextLedger taskId entry)
    (same : postings ledger taskId = postings current taskId) :
    (appendPosted current [entry]).entries = current.entries ++ [entry] := by
  have free : ∀ earlier ∈ current.entries, ¬ earlier.Clashes entry := by
    rintro earlier member ⟨sameType, ⟨_, sameTask⟩ | ⟨isSome, sameSeries⟩⟩
    · have posted : (entry.entryType, earlier.delta) ∈ postings current taskId := by
        refine List.mem_map.mpr ⟨earlier, List.mem_filter.mpr ⟨member, ?_⟩, ?_⟩
        · rw [decide_eq_true_eq, sameTask, posts.own]
        · rw [sameType]
      rw [← same] at posted
      obtain ⟨old, oldMember, samePosted⟩ := List.mem_map.mp posted
      obtain ⟨stored, references⟩ := List.mem_filter.mp oldMember
      have own : old.taskInstanceId = some taskId := of_decide_eq_true references
      refine posts.free old stored ⟨congrArg Prod.fst samePosted, Or.inl ⟨?_, ?_⟩⟩
      · rw [own]
        rfl
      · rw [own, posts.own]
    · rw [sameSeries, posts.noSeries] at isSome
      cases isSome
  exact appendPosted_free free

/-- At the commit the instance's account becomes the one the writer computed,
and no other account changes. -/
theorem postings_committed
    (decided : Decided loaded ledger writer task nextLedger) {current : Ledger}
    (same : postings ledger loaded.task.id = postings current loaded.task.id) :
    postings (appendPosted current (nextLedger.entries.drop ledger.entries.length))
        loaded.task.id = postings nextLedger loaded.task.id ∧
      ∀ taskId, taskId ≠ loaded.task.id →
        postings (appendPosted current
          (nextLedger.entries.drop ledger.entries.length)) taskId =
            postings current taskId := by
  rcases decided.posts with rfl | ⟨entry, posts⟩
  · simp [appendPosted, same]
  · have posted : nextLedger.entries.drop ledger.entries.length = [entry] := by
      rw [posts.appended]
      simp
    rw [posted]
    have appended := appendPosted_own posts same
    constructor
    · rw [postings_appended appended, postings_appended posts.appended, same]
    · intro taskId different
      have other : entry.taskInstanceId ≠ some taskId := by
        rw [posts.own]
        exact fun sameId => different (Option.some.inj sameId).symm
      rw [postings_appended appended, if_neg other, List.append_nil]

end Decision

/-! ## The discipline of the writers -/

/-- What the store says about an instance: its row and its account. -/
def taskView (taskId : Uuid) (db : Database) : Option TaskInstance × List Posted :=
  (db.instances.find? taskId, postings db.ledger taskId)

/-- A copy and the committed row agree in the columns no writer changes. -/
def CopyOf (taskId : Uuid) (seen : Option Loaded)
    (view : Option TaskInstance × List Posted) : Prop :=
  ∀ loaded, seen = some loaded → loaded.task.id = taskId ∧
    ∃ row, view.1 = some row ∧ SameTask loaded.task row

theorem load?_copyOf (taskId : Uuid) (db : Database) :
    CopyOf taskId (load? db taskId) (taskView taskId db) := by
  intro loaded found
  obtain ⟨taskFound, _, _⟩ := load?_ok found
  exact ⟨Table.key_of_find? taskFound, loaded.task, taskFound, SameTask.refl _⟩

/-- The commit of a staged write, seen from the instance and from the others. -/
structure Committed (writer : Writer) (seen : Option Loaded) (db next : Database)
    (loaded : Loaded) (task row : TaskInstance) (ledger nextLedger : Ledger) :
    Prop where
  copied : seen = some loaded
  decided : Decided loaded ledger writer task nextLedger
  found : db.instances.find? writer.taskId = some row
  same : SameTask loaded.task row
  ownRow : (taskView writer.taskId next).1 = some (updateRow loaded.task task row)
  ownPostings : (taskView writer.taskId next).2 =
    postings nextLedger loaded.task.id
  samePostings : postings ledger loaded.task.id = (taskView writer.taskId db).2
  others : ∀ taskId, taskId ≠ writer.taskId →
    taskView taskId next = taskView taskId db

theorem commit_staged {writer : Writer} {seen : Option Loaded}
    {before db : Database} {change : Database → Database}
    (staged : writer.stage seen before = some change)
    (sameView : taskView writer.taskId before = taskView writer.taskId db)
    (copy : CopyOf writer.taskId seen (taskView writer.taskId db)) :
    ∃ loaded task row nextLedger, Committed writer seen db (change db) loaded task
      row before.ledger nextLedger := by
  obtain ⟨loaded, task, ledger, copied, decided, rfl⟩ := stage_ok staged
  obtain ⟨ownId, row, found, same⟩ := copy loaded copied
  have rowFound : db.instances.find? writer.taskId = some row := found
  have rowKey : row.id = writer.taskId := Table.key_of_find? rowFound
  have samePostings : postings before.ledger loaded.task.id =
      postings db.ledger loaded.task.id := by
    rw [ownId]
    exact congrArg Prod.snd sameView
  obtain ⟨own, others⟩ := postings_committed decided samePostings
  refine ⟨loaded, task, row, ledger, copied, decided, rowFound, same, ?_, ?_, ?_, ?_⟩
  · simp only [taskView, writeBack, rowFound]
    exact Table.find?_save_same rowFound rowKey
  · simp only [taskView, writeBack, rowFound]
    rw [← ownId]
    exact own
  · rw [samePostings, ownId]
    rfl
  · intro taskId different
    have apart : (updateRow loaded.task task row).id ≠ taskId := by
      rw [(updateRow_sameTask loaded.task task row).id, rowKey]
      exact Ne.symm different
    simp only [taskView, writeBack, rowFound]
    rw [Table.find?_save_other apart, others taskId (by rw [ownId]; exact different)]

def discipline {Id : Type} (writers : Id → Writer) :
    Discipline (fun id => (writers id).transaction)
      (Option TaskInstance × List Posted) where
  view := taskView
  Linked := CopyOf
  loads := fun id db => load?_copyOf (writers id).taskId db
  frame := by
    intro id seen before change db staged sameView copy
    obtain ⟨loaded, task, row, ledger, committed⟩ :=
      commit_staged staged sameView copy
    exact committed.others
  kept := by
    intro id seen before change db staged sameView copy other otherCopy
    obtain ⟨loaded, task, row, ledger, committed⟩ :=
      commit_staged staged sameView copy
    intro otherLoaded otherCopied
    obtain ⟨ownId, otherRow, found, same⟩ := otherCopy otherLoaded otherCopied
    have sameRow : otherRow = row := by
      have rowFound : (taskView (writers id).taskId db).1 = some row :=
        committed.found
      exact Option.some.inj (found.symm.trans rowFound)
    subst sameRow
    exact ⟨ownId, _, committed.ownRow, same.trans (updateRow_sameTask _ _ _)⟩

end KidsChores.Interleaving
