import KidsChores.Services.CallEffect

/-!
# The account of a task instance

An abstract view of the ledger: the entries that reference one instance form its
account, which is unpaid, paid, reversed, or excused under some policy.  A status
and an account fit each other or they do not; every service call that commits
moves both together.
-/

set_option autoImplicit false

namespace KidsChores.Properties

open KidsChores.Models
open KidsChores.Library.PyDatetime
open KidsChores.Services.Ledger
open KidsChores.Services.StateMachine

abbrev Posted := LedgerEntryType × Int

/-- Type and amount of the entries that reference the instance, oldest first. -/
def postings (ledger : Ledger) (taskId : Uuid) : List Posted :=
  (ledger.entries.filter fun entry => entry.taskInstanceId = some taskId).map
    fun entry => (entry.entryType, entry.delta)

def total (posted : List Posted) : Int := (posted.map Prod.snd).sum

def prescribed (policy : ExcusedPayoutPolicy) (points : Int) : Int :=
  match policy with
  | .excusedPaysNothing => 0
  | .excusedPaysPartial => points / 2
  | .excusedPaysFull => points

def excusePostings (policy : ExcusedPayoutPolicy) (points : Int) : List Posted :=
  match policy with
  | .excusedPaysNothing => []
  | .excusedPaysPartial => [(.excusedPartial, points / 2)]
  | .excusedPaysFull => [(.taskCompleted, points)]

inductive Account where
  | unpaid
  | paid
  | reversed
  | excused (policy : ExcusedPayoutPolicy) (afterReversal : Bool)
  deriving DecidableEq, Repr

namespace Account

def statement (points : Int) : Account → List Posted
  | .unpaid => []
  | .paid => [(.taskCompleted, points)]
  | .reversed => [(.taskCompleted, points), (.reversal, -points)]
  | .excused policy false => excusePostings policy points
  | .excused policy true =>
      [(.taskCompleted, points), (.reversal, -points)] ++
        excusePostings policy points

/-- The statuses an account goes with; `approved` is the policy under which the
instance was excused. -/
def Fits (approved : Option ExcusedPayoutPolicy) (status : TaskStatus) :
    Account → Prop
  | .unpaid => status ≠ .complete ∧ status ≠ .excused
  | .paid => status = .complete
  | .reversed => status ≠ .complete ∧ status ≠ .excused
  | .excused policy _ => status = .excused ∧ approved = some policy

end Account

def Booked (approved : Option ExcusedPayoutPolicy) (status : TaskStatus)
    (points : Int) (posted : List Posted) : Prop :=
  ∃ account : Account,
    posted = account.statement points ∧ account.Fits approved status

theorem total_excusePostings (policy : ExcusedPayoutPolicy) (points : Int) :
    total (excusePostings policy points) = prescribed policy points := by
  cases policy <;> simp [total, excusePostings, prescribed]

theorem Booked.total_eq {approved : Option ExcusedPayoutPolicy}
    {status : TaskStatus} {points : Int} {posted : List Posted}
    (booked : Booked approved status points posted) :
    (status = .complete → total posted = points) ∧
      (status = .excused → ∃ policy, approved = some policy ∧
        total posted = prescribed policy points) ∧
      (status ≠ .complete → status ≠ .excused → total posted = 0) := by
  obtain ⟨account, rfl, fits⟩ := booked
  cases account with
  | unpaid => exact ⟨fun done => absurd done fits.1,
      fun excused => absurd excused fits.2, fun _ _ => rfl⟩
  | paid =>
      have done : status = .complete := fits
      refine ⟨fun _ => by simp [total, Account.statement], ?_,
        fun open_ => absurd done open_⟩
      intro excused
      rw [done] at excused
      cases excused
  | reversed => exact ⟨fun done => absurd done fits.1,
      fun excused => absurd excused fits.2,
      fun _ _ => by simp [total, Account.statement]⟩
  | excused policy afterReversal =>
      obtain ⟨excused, recorded⟩ := fits
      refine ⟨?_, ?_, fun _ open_ => absurd excused open_⟩
      · intro done
        rw [done] at excused
        cases excused
      · intro _
        refine ⟨policy, recorded, ?_⟩
        have payout := total_excusePostings policy points
        cases afterReversal with
        | false => exact payout
        | true =>
            simp only [total] at payout
            simp [total, Account.statement, payout]

/-! ## Accounts that are not owed anything -/

def Settled (points : Int) (posted : List Posted) : Prop :=
  posted = Account.unpaid.statement points ∨
    posted = Account.reversed.statement points

theorem Booked.settled {approved : Option ExcusedPayoutPolicy}
    {status : TaskStatus} {points : Int} {posted : List Posted}
    (booked : Booked approved status points posted)
    (notDone : status ≠ .complete) (notExcused : status ≠ .excused) :
    Settled points posted := by
  obtain ⟨account, rfl, fits⟩ := booked
  cases account with
  | unpaid => exact Or.inl rfl
  | paid => exact absurd fits notDone
  | reversed => exact Or.inr rfl
  | excused policy afterReversal => exact absurd fits.1 notExcused

theorem Settled.booked {approved : Option ExcusedPayoutPolicy}
    {status : TaskStatus} {points : Int} {posted : List Posted}
    (settled : Settled points posted) (notDone : status ≠ .complete)
    (notExcused : status ≠ .excused) : Booked approved status points posted := by
  rcases settled with same | same
  · exact ⟨.unpaid, same, notDone, notExcused⟩
  · exact ⟨.reversed, same, notDone, notExcused⟩

theorem Booked.paid {approved : Option ExcusedPayoutPolicy} {points : Int}
    {posted : List Posted} (booked : Booked approved .complete points posted) :
    posted = Account.paid.statement points := by
  obtain ⟨account, rfl, fits⟩ := booked
  cases account with
  | unpaid => exact absurd rfl fits.1
  | paid => rfl
  | reversed => exact absurd rfl fits.1
  | excused policy afterReversal => cases fits.1

/-! ## What the ledger's writers post -/

theorem postings_appended {first next : Ledger} {entry : LedgerEntry}
    (appended : next.entries = first.entries ++ [entry]) (taskId : Uuid) :
    postings next taskId = postings first taskId ++
      if entry.taskInstanceId = some taskId then
        [(entry.entryType, entry.delta)]
      else [] := by
  simp only [postings, appended, List.filter_append, List.map_append]
  by_cases own : entry.taskInstanceId = some taskId
  · simp [own]
  · simp [own]

section Recorded

variable {ledger next : Ledger} {clock : Clock} {posting : Posting}

theorem postings_record (recorded : record ledger clock posting = .ok next)
    (taskId : Uuid) :
    postings next taskId = postings ledger taskId ++
      if posting.taskInstanceId = some taskId then
        [(posting.entryType, posting.delta)]
      else [] :=
  postings_appended (record_ok recorded).1 taskId

theorem postings_record_other (recorded : record ledger clock posting = .ok next)
    {taskId : Uuid} (other : posting.taskInstanceId ≠ some taskId) :
    postings next taskId = postings ledger taskId := by
  rw [postings_record recorded, if_neg other, List.append_nil]

theorem record_unposted (recorded : record ledger clock posting = .ok next)
    {taskId : Uuid} (own : posting.taskInstanceId = some taskId) (delta : Int) :
    (posting.entryType, delta) ∉ postings ledger taskId := by
  intro posted
  obtain ⟨entry, member, same⟩ := List.mem_map.mp posted
  obtain ⟨stored, references⟩ := List.mem_filter.mp member
  have reference : entry.taskInstanceId = some taskId := of_decide_eq_true references
  apply (record_ok recorded).2 entry stored
  refine ⟨congrArg Prod.fst same, Or.inl ⟨?_, ?_⟩⟩
  · rw [reference]
    rfl
  · rw [reference]
    exact own.symm

end Recorded

theorem postings_excuse {ledger next : Ledger} {clock : Clock}
    {definition : TaskDefinition} {actor : Member} {household : Household}
    {task : TaskInstance}
    (paid : awardExcuseIfPolicy ledger clock definition actor household task =
      .ok next) (taskId : Uuid) :
    postings next taskId = postings ledger taskId ++
      if taskId = task.id then
        excusePostings household.excusedPayoutPolicy task.pointValue
      else [] := by
  unfold awardExcuseIfPolicy at paid
  cases policy : household.excusedPayoutPolicy with
  | excusedPaysNothing =>
      rw [policy] at paid
      cases paid
      simp [excusePostings]
  | excusedPaysPartial =>
      simp only [policy, excusePosting] at paid
      rw [postings_record paid]
      simp [excusePostings, eq_comm]
  | excusedPaysFull =>
      simp only [policy, excusePosting] at paid
      rw [postings_record paid]
      simp [excusePostings, eq_comm]

/-! ## What a service call posts -/

section Call

variable {clock : Clock} {household : Household} {definition : TaskDefinition}
variable {actor : Member} {task next : TaskInstance} {ledger nextLedger : Ledger}
variable {call : ServiceCall}

theorem postings_call_other
    (effect : CallEffect clock household definition actor task ledger call next
      nextLedger) {taskId : Uuid} (other : taskId ≠ task.id) :
    postings nextLedger taskId = postings ledger taskId := by
  have notOwn : some task.id ≠ some taskId :=
    fun same => other (Option.some.inj same).symm
  cases effect with
  | completed actionable auto paid => exact postings_record_other paid notOwn
  | approved inReview paid => exact postings_record_other paid notOwn
  | excuseApproved submitted paid =>
      rw [postings_excuse paid, if_neg (by exact other), List.append_nil]
  | reversedBeforeDue done early posted =>
      exact postings_record_other posted notOwn
  | reversedAfterDue done late posted => exact postings_record_other posted notOwn
  | sentToReview | excusedWhilePending | excusedWhileOverdue | deniedBeforeDue
  | deniedAfterDue | excuseDeniedInGrace | excuseDeniedExpired | cancelled => rfl

/-- Awarding the points of an instance that is owed nothing: a reversed account
has its `task_completed` entry already, so the award is refused. -/
theorem paid_of_settled {ledger next : Ledger} {clock : Clock}
    {definition : TaskDefinition} {actor : Member} {task : TaskInstance}
    (paid : awardTaskCompletion ledger clock definition actor task = .ok next)
    (settled : Settled task.pointValue (postings ledger task.id)) :
    postings next task.id = Account.paid.statement task.pointValue := by
  rw [postings_record paid]
  rcases settled with unpaid | reversed
  · rw [unpaid]
    simp [Account.statement, taskCompletedPosting]
  · have unposted : (LedgerEntryType.taskCompleted, task.pointValue) ∉
        postings ledger task.id := record_unposted paid rfl task.pointValue
    rw [reversed] at unposted
    exact absurd List.mem_cons_self unposted

theorem excused_of_settled {ledger next : Ledger} {clock : Clock}
    {definition : TaskDefinition} {actor : Member} {household : Household}
    {task : TaskInstance}
    (paid : awardExcuseIfPolicy ledger clock definition actor household task =
      .ok next)
    (settled : Settled task.pointValue (postings ledger task.id)) :
    Booked (some household.excusedPayoutPolicy) .excused task.pointValue
      (postings next task.id) := by
  rw [postings_excuse paid, if_pos rfl]
  rcases settled with unpaid | reversed
  · rw [unpaid]
    exact ⟨.excused household.excusedPayoutPolicy false, rfl, rfl, rfl⟩
  · rw [reversed]
    exact ⟨.excused household.excusedPayoutPolicy true, rfl, rfl, rfl⟩

theorem reversed_of_paid {ledger next : Ledger} {clock : Clock} {actor : Member}
    {reason : String} {task : TaskInstance}
    (posted : writeReversal ledger clock actor reason task = .ok next)
    (paid : postings ledger task.id = Account.paid.statement task.pointValue) :
    Settled task.pointValue (postings next task.id) := by
  right
  rw [postings_record posted, paid]
  simp [Account.statement, reversalPosting]

/-- A committed call moves the account with the status.  The status it is booked
against need only pass the call's own check: it may have changed since the call
read it. -/
theorem booked_call {approved : Option ExcusedPayoutPolicy} {status : TaskStatus}
    (effect : CallEffect clock household definition actor task ledger call next
      nextLedger)
    (accepted : call.Accepts status)
    (booked : Booked approved status task.pointValue (postings ledger task.id))
    {nextApproved : Option ExcusedPayoutPolicy}
    (recorded : next.status = .excused →
      nextApproved = some household.excusedPayoutPolicy) :
    Booked nextApproved next.status task.pointValue
      (postings nextLedger task.id) := by
  have settled : status ≠ .complete →
      Settled task.pointValue (postings ledger task.id) := by
    intro notDone
    refine booked.settled notDone ?_
    intro excused
    subst excused
    cases call <;> simp [ServiceCall.Accepts, Actionable] at accepted
  have notDone : status = .complete → ∃ reason, call = .reverseCompletion reason := by
    intro done
    subst done
    cases call <;> simp [ServiceCall.Accepts, Actionable] at accepted ⊢
  cases effect with
  | completed actionable auto paid =>
      have owed := settled fun done => by cases (notDone done).choose_spec
      exact ⟨.paid, paid_of_settled paid owed, rfl⟩
  | approved inReview paid =>
      have owed := settled fun done => by cases (notDone done).choose_spec
      exact ⟨.paid, paid_of_settled paid owed, rfl⟩
  | excuseApproved submitted paid =>
      have owed := settled fun done => by cases (notDone done).choose_spec
      rw [recorded rfl]
      exact excused_of_settled paid owed
  | reversedBeforeDue done early posted =>
      have status : status = .complete := accepted
      subst status
      exact (reversed_of_paid posted booked.paid).booked (by simp) (by simp)
  | reversedAfterDue done late posted =>
      have status : status = .complete := accepted
      subst status
      exact (reversed_of_paid posted booked.paid).booked (by simp) (by simp)
  | sentToReview | excusedWhilePending | excusedWhileOverdue | deniedBeforeDue
  | deniedAfterDue | excuseDeniedInGrace | excuseDeniedExpired | cancelled =>
      have owed := settled fun done => by cases (notDone done).choose_spec
      exact owed.booked (by simp) (by simp)

end Call

end KidsChores.Properties
