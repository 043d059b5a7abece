import KidsChores.Library.Groups
import KidsChores.Properties.LedgerProvenance

/-!
# What a balance consists of

The wallet adds up a column; the board shows statuses.  In every state the two say the
same: a balance is the points of the member's completed tasks, what their excused tasks
were paid, and what parents adjusted and handed out for claims.
-/

set_option autoImplicit false

namespace KidsChores.Properties

open KidsChores.Library
open KidsChores.Library.Groups
open KidsChores.Library.Runs
open KidsChores.Models
open KidsChores.Server
open KidsChores.Services.Ledger

/-! ## The parts of a balance -/

def tasksOf (db : Database) (memberId : Uuid) : List TaskInstance :=
  db.instances.rows.filter fun task => task.assigneeId = memberId

def completedPoints (db : Database) (memberId : Uuid) : Int :=
  (((tasksOf db memberId).filter fun task => task.status = .complete).map
    TaskInstance.pointValue).sum

def excusedPoints (db : Database) (memberId : Uuid) : Int :=
  (((tasksOf db memberId).filter fun task => task.status = .excused).map fun task =>
    total (postings db.ledger task.id)).sum

def typedSum (ledger : Ledger) (memberId : Uuid) (entryType : LedgerEntryType) : Int :=
  ((ledger.entries.filter fun entry =>
    entry.memberId = memberId ∧ entry.entryType = entryType).map LedgerEntry.delta).sum

structure WalletEquation (db : Database) : Prop where
  balance : ∀ memberId, currentBalance db.ledger memberId =
    completedPoints db memberId + excusedPoints db memberId +
      typedSum db.ledger memberId .manualAdjustment +
      typedSum db.ledger memberId .claimFulfilled
  excuses : ∀ task ∈ db.instances.rows, task.status = .excused →
    ∃ policy, total (postings db.ledger task.id) = prescribed policy task.pointValue

section Equation

variable {db : Database}

/-- Beside the entries of tasks there are adjustments and debits. -/
theorem Authorized.entryTypes {entry : LedgerEntry} (authorized : Authorized db entry) :
    (entry.taskInstanceId.isSome ∧ entry.entryType ≠ .manualAdjustment ∧
        entry.entryType ≠ .claimFulfilled) ∨
      entry.taskInstanceId = none ∧
        (entry.entryType = .manualAdjustment ∨ entry.entryType = .claimFulfilled) := by
  cases authorized with
  | completed signed entitled pays done entryType delta =>
      exact Or.inl ⟨by simp [pays.named], by simp [entryType], by simp [entryType]⟩
  | excusedFull signed parent pays excused entryType delta =>
      exact Or.inl ⟨by simp [pays.named], by simp [entryType], by simp [entryType]⟩
  | excusedPartial signed parent pays excused entryType delta =>
      exact Or.inl ⟨by simp [pays.named], by simp [entryType], by simp [entryType]⟩
  | fulfilled signed parent stored named owner noTask entryType delta =>
      exact Or.inr ⟨noTask, Or.inr entryType⟩
  | adjusted signed parent noTask entryType => exact Or.inr ⟨noTask, Or.inl entryType⟩

theorem untasked_sum (authorized : LedgerAuthorized db) (memberId : Uuid) :
    (((db.ledger.entries.filter fun entry => entry.memberId = memberId).filter fun entry =>
        ¬ entry.taskInstanceId.isSome).map LedgerEntry.delta).sum =
      typedSum db.ledger memberId .manualAdjustment +
        typedSum db.ledger memberId .claimFulfilled := by
  rw [← List.sum_map_filter_add_sum_map_filter_not
    (fun entry : LedgerEntry => entry.entryType = .manualAdjustment)]
  simp only [List.filter_filter, typedSum]
  congr 3
  · refine List.filter_congr fun entry member => ?_
    rcases (authorized entry member).entryTypes with ⟨_, other, _⟩ | ⟨untasked, _⟩
    · simp [other]
    · simp [untasked, Bool.and_comm]
  · refine List.filter_congr fun entry member => ?_
    rcases (authorized entry member).entryTypes with
      ⟨tasked, _, other⟩ | ⟨untasked, same | same⟩
    · simp [tasked, other]
    · simp [same]
    · simp [untasked, same]

/-- The entries of a task are its assignee's, so its group among them is its account. -/
theorem groupSum_account (settled : SettledRows db) {memberId : Uuid} {task : TaskInstance}
    (assigned : task ∈ tasksOf db memberId) :
    groupSum LedgerEntry.taskInstanceId LedgerEntry.delta
        (db.ledger.entries.filter fun entry => entry.memberId = memberId) task.id =
      total (postings db.ledger task.id) := by
  obtain ⟨stored, own⟩ := List.mem_filter.mp assigned
  have sameRows : (db.ledger.entries.filter fun entry => entry.memberId = memberId).filter
      (fun entry => entry.taskInstanceId = some task.id) =
        db.ledger.entries.filter fun entry => entry.taskInstanceId = some task.id := by
    rw [List.filter_filter]
    refine List.filter_congr fun entry member => ?_
    by_cases named : entry.taskInstanceId = some task.id
    · obtain ⟨other, otherStored, sameId, sameMember⟩ := settled.posted entry member task.id named
      have one : other = task := db.instances.row_unique otherStored stored sameId
      rw [one, of_decide_eq_true own] at sameMember
      simp [named, sameMember]
    · simp [named]
  simp only [groupSum, sameRows, total, postings, List.map_map]
  rfl

theorem tasked_sum (settled : SettledRows db) (memberId : Uuid) :
    (((db.ledger.entries.filter fun entry => entry.memberId = memberId).filter fun entry =>
        entry.taskInstanceId.isSome).map LedgerEntry.delta).sum =
      ((tasksOf db memberId).map fun task => total (postings db.ledger task.id)).sum := by
  have distinct : ((tasksOf db memberId).map TaskInstance.id).Nodup :=
    db.instances.keysNodup.sublist (List.filter_sublist.map TaskInstance.id)
  have listed : ∀ entry ∈ db.ledger.entries.filter fun entry => entry.memberId = memberId,
      ∀ wanted ∈ entry.taskInstanceId, wanted ∈ (tasksOf db memberId).map TaskInstance.id := by
    intro entry member wanted named
    obtain ⟨stored, own⟩ := List.mem_filter.mp member
    obtain ⟨task, taskStored, sameId, sameMember⟩ := settled.posted entry stored wanted named
    have assigned : task.assigneeId = memberId := sameMember.trans (of_decide_eq_true own)
    exact List.mem_map.mpr ⟨task, List.mem_filter.mpr ⟨taskStored, decide_eq_true assigned⟩,
      sameId⟩
  rw [← sum_groupSum distinct listed, List.map_map]
  congr 1
  exact List.map_congr_left fun task assigned => groupSum_account settled assigned

theorem accounts_sum (paid : ∀ taskId, PaidUp (cardOf taskId db)) (memberId : Uuid) :
    ((tasksOf db memberId).map fun task => total (postings db.ledger task.id)).sum =
      completedPoints db memberId + excusedPoints db memberId := by
  have account : ∀ task ∈ tasksOf db memberId,
      Earns task.pointValue task.status (postings db.ledger task.id) := by
    intro task assigned
    have stored := (List.mem_filter.mp assigned).1
    exact paid task.id _ (cardOf_row stored)
  unfold completedPoints excusedPoints
  generalize tasksOf db memberId = tasks at account
  induction tasks with
  | nil => rfl
  | cons task rest ih =>
      have later := ih fun other member => account other (List.mem_cons_of_mem _ member)
      have own := account task List.mem_cons_self
      rw [List.map_cons, List.sum_cons, later]
      generalize status : task.status = current at own
      generalize entries : postings db.ledger task.id = posted at own
      cases own with
      | done => simp [status, total, add_assoc]
      | excused policy => simp [status, entries, add_left_comm]
      | nothing notDone notExcused => simp [status, notDone, notExcused, total]

theorem walletEquation (settled : SettledRows db) (authorized : LedgerAuthorized db)
    (paid : ∀ taskId, PaidUp (cardOf taskId db)) : WalletEquation db := by
  constructor
  · intro memberId
    have split := List.sum_map_filter_add_sum_map_filter_not
      (fun entry : LedgerEntry => entry.taskInstanceId.isSome = true) LedgerEntry.delta
      (db.ledger.entries.filter fun entry => entry.memberId = memberId)
    have untasked := untasked_sum authorized memberId
    have tasked := (tasked_sum settled memberId).trans (accounts_sum paid memberId)
    simp only [Bool.decide_eq_true] at split
    unfold currentBalance
    rw [← split, tasked, untasked]
    ring
  · intro task stored excused
    have account : Earns task.pointValue task.status (postings db.ledger task.id) :=
      paid task.id _ (cardOf_row stored)
    rw [excused] at account
    generalize postings db.ledger task.id = posted at account
    cases account with
    | excused policy => exact ⟨policy, total_excusePostings policy task.pointValue⟩
    | nothing _ notExcused => exact absurd rfl notExcused

end Equation

/-- What the equation rests on. -/
structure Books (db : Database) : Prop where
  settled : SettledRows db
  authorized : LedgerAuthorized db
  paid : ∀ taskId, PaidUp (cardOf taskId db)

theorem books_always (pytz : String → Option PyDatetime.TzInfo)
    (verifyPassword : String → String → Bool) (events : List ServerEvent) :
    Always (serverStep pytz verifyPassword) (fun server => Books server.world.db)
      emptyServer events := by
  have settled := @settled_always pytz verifyPassword events
  have authorized := @writes_always pytz verifyPassword LedgerAuthorized
    (List.forall_mem_nil _) (fun _ _ settled authorized write => authorized.write settled write) events
  have paid := cards_paid_up pytz verifyPassword events
  exact ((settled.and authorized).and paid).imp fun _ held => ⟨held.1.1, held.1.2, held.2⟩

/-- In every state of every run each balance is what the board says it should be. -/
theorem wallet_equation (pytz : String → Option PyDatetime.TzInfo)
    (verifyPassword : String → String → Bool) (events : List ServerEvent) :
    Always (serverStep pytz verifyPassword)
      (fun server => WalletEquation server.world.db) emptyServer events :=
  (books_always pytz verifyPassword events).imp fun _ books =>
    walletEquation books.settled books.authorized books.paid

end KidsChores.Properties
