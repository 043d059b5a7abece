import KidsChores.Properties.LedgerAgreement
import KidsChores.Services.CallSuccess
import KidsChores.StoredLifecycle

/-!
# Transitions the table offers

A transition is carried by a service call or by one of the two sweeps.  In every
reachable state an offered transition can be taken, unless a column refuses what it
writes, or it would pay an instance again after its completion was reversed: the
reversed award keeps its key in the unique index.
-/

set_option autoImplicit false

namespace KidsChores.Properties

open KidsChores.Lifecycle
open KidsChores.Models
open KidsChores.Library
open KidsChores.Library.PyDatetime
open KidsChores.Library.PyText
open KidsChores.Library.Runs
open KidsChores.Services.Ledger
open KidsChores.Services.StateMachine
open KidsChores.Session
open KidsChores.Workers.GenerateInstances

/-! ## Operations -/

/-- A call of the service, or one of the updates of the nightly job. -/
inductive Operation where
  | call (clock : Clock) (actor : Member) (request : ServiceCall)
  | dueSweep (definitionIds : List Uuid) (now : Instant)
  | graceSweep (definitionIds : List Uuid) (now : Instant)
  deriving DecidableEq, Repr

/-- The trigger a call carries.  `approve` is `review`'s from `review_pending` and
`resolve_excuse`'s from `excuse_pending`. -/
def callTrigger (clock : Clock) (loaded : Loaded) : ServiceCall → Option Trigger
  | .complete _ =>
      if loaded.definition.requiresReview then some .completeReview
      else some .completeAuto
  | .submitExcuse _ => some .excuse
  | .review true _ =>
      if loaded.task.status = .excusePending then none else some .approve
  | .review false _ =>
      if clock.now < loaded.task.dueAt then some .denyBeforeDue else some .denyAfterDue
  | .resolveExcuse true _ =>
      if loaded.task.status = .reviewPending then none else some .approve
  | .resolveExcuse false _ =>
      if 0 < graceRemaining (resumeGrace loaded.task) loaded.household.gracePeriodHours
          clock.now then some .denyGraceRemaining
      else some .denyGraceExpired
  | .cancel _ => some .cancel
  | .reverseCompletion _ =>
      if clock.now < loaded.task.dueAt then some .parentReversesBeforeDue
      else some .parentReversesAfterDue

def Operation.trigger (loaded : Loaded) : Operation → Option Trigger
  | .call clock _ request => callTrigger clock loaded request
  | .dueSweep _ _ => some .duePasses
  | .graceSweep _ _ => some .graceExpires

def ValidArguments : ServiceCall → Prop
  | .submitExcuse excuseText => 10 ≤ (strip excuseText).length
  | .review false comment => truthy comment = true
  | .resolveExcuse false comment => truthy comment = true
  | _ => True

/-- A sweep covers the instance's definition, and what it waits for has happened. -/
def Operation.Valid (loaded : Loaded) : Operation → Prop
  | .call _ _ request => ValidArguments request
  | .dueSweep definitionIds now =>
      loaded.task.definitionId ∈ definitionIds ∧ loaded.task.dueAt ≤ now
  | .graceSweep definitionIds now =>
      loaded.task.definitionId ∈ definitionIds ∧
        graceRemaining loaded.task loaded.household.gracePeriodHours now ≤ 0

def Operation.Returns (db : Database) (loaded : Loaded) (next : TaskStatus) :
    Operation → Prop
  | .call clock actor request => ∃ task ledger,
      sessionCall clock actor loaded db.ledger request = .ok (task, ledger) ∧
        task.status = next
  | .dueSweep definitionIds now =>
      ∃ task ∈ (sweepOverdue definitionIds now db.instances).rows,
        task.id = loaded.task.id ∧ task.status = next
  | .graceSweep definitionIds now =>
      ∃ task ∈ (sweepMissed definitionIds loaded.household.gracePeriodHours now
          db.instances).rows,
        task.id = loaded.task.id ∧ task.status = next

/-- It returns, and its transaction is committed. -/
def Operation.Commits (db : Database) (loaded : Loaded) (next : TaskStatus) :
    Operation → Prop
  | .call clock actor request => ∃ task ledger,
      sessionCall clock actor loaded db.ledger request = .ok (task, ledger) ∧
        task.status = next ∧ Stores task
  | operation => operation.Returns db loaded next

/-- The key `(status, trigger)` of the table is there, with that value, and the
operation carries the trigger. -/
structure Offer (db : Database) (taskId : Uuid) (loaded : Loaded)
    (operation : Operation) (next : TaskStatus) : Prop where
  found : load? db taskId = some loaded
  valid : operation.Valid loaded
  offered : ∃ trigger, operation.trigger loaded = some trigger ∧
    transitions loaded.task.status trigger = some next

def EveryOfferTaken (db : Database) : Prop :=
  ∀ taskId loaded operation next, Offer db taskId loaded operation next →
    operation.Returns db loaded next

/-! ## What an operation posts -/

def callPosting (loaded : Loaded) (actor : Member) : ServiceCall → Option Posting
  | .complete _ =>
      if loaded.definition.requiresReview then none
      else some (taskCompletedPosting loaded.definition actor loaded.task)
  | .review true _ => some (taskCompletedPosting loaded.definition actor loaded.task)
  | .resolveExcuse true _ =>
      excusePosting loaded.definition actor loaded.household.excusedPayoutPolicy
        loaded.task
  | .reverseCompletion reason => some (reversalPosting actor reason loaded.task)
  | _ => none

def Reversed (ledger : Ledger) (taskId : Uuid) : Prop :=
  ∃ entry ∈ ledger.entries, entry.taskInstanceId = some taskId ∧
    entry.entryType = .reversal

def callPay (loaded : Loaded) : ServiceCall → Option (LedgerEntryType × Int)
  | .complete _ =>
      if loaded.definition.requiresReview then none
      else some (.taskCompleted, loaded.task.pointValue)
  | .review true _ => some (.taskCompleted, loaded.task.pointValue)
  | .resolveExcuse true _ =>
      match loaded.household.excusedPayoutPolicy with
      | .excusedPaysNothing => none
      | .excusedPaysPartial => some (.excusedPartial, loaded.task.pointValue / 2)
      | .excusedPaysFull => some (.taskCompleted, loaded.task.pointValue)
  | .reverseCompletion _ => some (.reversal, -loaded.task.pointValue)
  | _ => none

/-- The columns take the text of a call.  An excuse also stores the seconds the instance
has been overdue. -/
def ArgumentsStore (clock : Clock) (loaded : Loaded) : ServiceCall → Prop
  | .complete note => storableText note = true
  | .submitExcuse excuseText => storableText (some excuseText) = true ∧
      (loaded.task.status = .overdue → loaded.task.gracePausedAt = none →
        timedeltaSeconds loaded.task.graceElapsedSeconds +
          (clock.now - loaded.task.dueAt) < timedeltaSeconds 2147483648)
  | .review _ comment => storableText comment = true
  | .resolveExcuse _ comment => storableText comment = true
  | .cancel reason => storableText reason = true
  | .reverseCompletion reason => storableText (some reason) = true

def Operation.Storable (loaded : Loaded) : Operation → Prop
  | .call clock _ request => ArgumentsStore clock loaded request
  | _ => True

/-- The points of the operation fit the columns beside what the assignee has, they are
not the pay of an instance whose completion was reversed, and its text can be stored. -/
def Operation.Postable (db : Database) (loaded : Loaded) : Operation → Prop
  | .call clock _ request => ∀ pay ∈ callPay loaded request,
      FitsInteger pay.2 ∧
        FitsInteger (currentBalance db.ledger loaded.task.assigneeId + pay.2) ∧
        (pay.1 = .taskCompleted → ¬ Reversed db.ledger loaded.task.id) ∧
        ArgumentsStore clock loaded request
  | _ => True

/-! ## The table -/

def Leaves : Trigger → TaskStatus → Prop
  | .completeAuto, status | .completeReview, status | .excuse, status
  | .cancel, status => Actionable status
  | .duePasses, status => status = .pending
  | .graceExpires, status => status = .overdue
  | .approve, status => status = .reviewPending ∨ status = .excusePending
  | .denyBeforeDue, status | .denyAfterDue, status => status = .reviewPending
  | .denyGraceRemaining, status | .denyGraceExpired, status => status = .excusePending
  | .parentReversesBeforeDue, status | .parentReversesAfterDue, status =>
      status = .complete

theorem source_of_transition {status next : TaskStatus} {trigger : Trigger}
    (offered : transitions status trigger = some next) :
    Leaves trigger status := by
  cases trigger <;> cases status <;> cases offered <;> simp [Leaves, Actionable]

section Calls

variable {clock : Clock} {loaded : Loaded} {actor : Member} {ledger : Ledger}
variable {request : ServiceCall}

/-- The operation that carries an offered trigger passes its check of the status. -/
theorem accepts_of_offered {trigger : Trigger} {next : TaskStatus}
    (carried : callTrigger clock loaded request = some trigger)
    (offered : transitions loaded.task.status trigger = some next) :
    request.Accepts loaded.task.status := by
  have source := source_of_transition offered
  cases request with
  | complete note =>
      simp only [callTrigger] at carried
      split at carried
      · cases carried
        exact source
      · cases carried
        exact source
  | submitExcuse text =>
      cases carried
      exact source
  | review approve comment =>
      cases approve with
      | true =>
          simp only [callTrigger] at carried
          split at carried
          · cases carried
          · rename_i notExcuse
            cases carried
            exact source.resolve_right notExcuse
      | false =>
          simp only [callTrigger] at carried
          split at carried
          · cases carried
            exact source
          · cases carried
            exact source
  | resolveExcuse approve comment =>
      cases approve with
      | true =>
          simp only [callTrigger] at carried
          split at carried
          · cases carried
          · rename_i notReview
            cases carried
            exact source.resolve_left notReview
      | false =>
          simp only [callTrigger] at carried
          split at carried
          · cases carried
            exact source
          · cases carried
            exact source
  | cancel reason =>
      cases carried
      exact source
  | reverseCompletion reason =>
      simp only [callTrigger] at carried
      split at carried
      · cases carried
        exact source
      · cases carried
        exact source

theorem status_of_offered {trigger : Trigger} {next : TaskStatus}
    {task : TaskInstance} {nextLedger : Ledger}
    (effect : CallEffect clock loaded.household loaded.definition actor loaded.task
      ledger request task nextLedger)
    (carried : callTrigger clock loaded request = some trigger)
    (offered : transitions loaded.task.status trigger = some next) :
    task.status = next := by
  suffices moved : transitions loaded.task.status trigger = some task.status from
    Option.some.inj (moved.symm.trans offered)
  cases effect with
  | completed actionable auto =>
      simp only [callTrigger, auto, Bool.false_eq_true, if_false] at carried
      cases carried
      rcases actionable with status | status
      · rw [status]
        rfl
      · rw [status]
        rfl
  | sentToReview actionable reviewed =>
      simp only [callTrigger, reviewed, if_true] at carried
      cases carried
      rcases actionable with status | status
      · rw [status]
        rfl
      · rw [status]
        rfl
  | excusedWhilePending pending long =>
      cases carried
      rw [pending]
      rfl
  | excusedWhileOverdue overdue long =>
      cases carried
      rw [overdue]
      rfl
  | approved inReview paid =>
      simp only [callTrigger, inReview, reduceCtorEq, if_false] at carried
      cases carried
      rw [inReview]
      rfl
  | deniedBeforeDue inReview said early =>
      simp only [callTrigger, early, if_true] at carried
      cases carried
      rw [inReview]
      rfl
  | deniedAfterDue inReview said late =>
      simp only [callTrigger, Int.not_lt.mpr late, if_false] at carried
      cases carried
      rw [inReview]
      rfl
  | excuseApproved submitted paid =>
      simp only [callTrigger, submitted, reduceCtorEq, if_false] at carried
      cases carried
      rw [submitted]
      rfl
  | excuseDeniedInGrace submitted said remaining =>
      simp only [callTrigger, remaining, if_true] at carried
      cases carried
      rw [submitted]
      rfl
  | excuseDeniedExpired submitted said expired =>
      simp only [callTrigger, Int.not_lt.mpr expired, if_false] at carried
      cases carried
      rw [submitted]
      rfl
  | cancelled actionable =>
      cases carried
      rcases actionable with status | status
      · rw [status]
        rfl
      · rw [status]
        rfl
  | reversedBeforeDue done early posted =>
      simp only [callTrigger, early, if_true] at carried
      cases carried
      rw [done]
      rfl
  | reversedAfterDue done late posted =>
      simp only [callTrigger, Int.not_lt.mpr late, if_false] at carried
      cases carried
      rw [done]
      rfl

theorem passesChecks_iff_posting (valid : ValidArguments request) :
    request.PassesChecks loaded.household loaded.definition actor loaded.task ledger ↔
      ∀ posting ∈ callPosting loaded actor request, posting.Accepted ledger := by
  cases request with
  | complete note =>
      cases reviewed : loaded.definition.requiresReview with
      | true => simp [ServiceCall.PassesChecks, callPosting, reviewed]
      | false => simp [ServiceCall.PassesChecks, callPosting, reviewed]
  | submitExcuse text => exact iff_of_true valid (by simp [callPosting])
  | review approve comment =>
      cases approve with
      | true => simp [ServiceCall.PassesChecks, callPosting]
      | false => exact iff_of_true valid (by simp [callPosting])
  | resolveExcuse approve comment =>
      cases approve with
      | true => rfl
      | false => exact iff_of_true valid (by simp [callPosting])
  | cancel reason => simp [ServiceCall.PassesChecks, callPosting]
  | reverseCompletion reason => simp [ServiceCall.PassesChecks, callPosting]

end Calls

/-! ## The key of a posting -/

theorem free_iff_unposted {posting : Posting} {ledger : Ledger} {taskId : Uuid}
    (own : posting.taskInstanceId = some taskId)
    (noWindow : posting.seriesInstanceId = none) :
    posting.Free ledger ↔
      posting.entryType ∉ (postings ledger taskId).map Prod.fst := by
  constructor
  · intro free posted
    obtain ⟨pair, listed, sameType⟩ := List.mem_map.mp posted
    obtain ⟨entry, selected, rfl⟩ := List.mem_map.mp listed
    obtain ⟨stored, references⟩ := List.mem_filter.mp selected
    have reference : entry.taskInstanceId = some taskId := of_decide_eq_true references
    refine free entry stored ⟨sameType, Or.inl ⟨by rw [reference]; rfl, ?_⟩⟩
    exact reference.trans own.symm
  · rintro unposted entry stored ⟨sameType, sameTask | ⟨linked, sameWindow⟩⟩
    · apply unposted
      have reference : entry.taskInstanceId = some taskId := sameTask.2.trans own
      refine List.mem_map.mpr ⟨(entry.entryType, entry.delta), ?_, sameType⟩
      exact List.mem_map.mpr
        ⟨entry, List.mem_filter.mpr ⟨stored, decide_eq_true reference⟩, rfl⟩
    · rw [show entry.seriesInstanceId = none from sameWindow.trans noWindow] at linked
      cases linked

theorem reversed_iff_posted {ledger : Ledger} {taskId : Uuid} :
    Reversed ledger taskId ↔
      .reversal ∈ (postings ledger taskId).map Prod.fst := by
  constructor
  · rintro ⟨entry, stored, reference, reversal⟩
    refine List.mem_map.mpr ⟨(entry.entryType, entry.delta), ?_, reversal⟩
    exact List.mem_map.mpr
      ⟨entry, List.mem_filter.mpr ⟨stored, decide_eq_true reference⟩, rfl⟩
  · intro posted
    obtain ⟨pair, listed, reversal⟩ := List.mem_map.mp posted
    obtain ⟨entry, selected, rfl⟩ := List.mem_map.mp listed
    obtain ⟨stored, references⟩ := List.mem_filter.mp selected
    exact ⟨entry, stored, of_decide_eq_true references, reversal⟩

section Account

variable {loaded : Loaded} {actor : Member} {request : ServiceCall} {posting : Posting}

theorem excusePosting_own {definition : TaskDefinition} {policy : ExcusedPayoutPolicy}
    {task : TaskInstance}
    (posts : excusePosting definition actor policy task = some posting) :
    posting.taskInstanceId = some task.id ∧ posting.seriesInstanceId = none ∧
      (posting.entryType = .taskCompleted ∨ posting.entryType = .excusedPartial) := by
  cases policy with
  | excusedPaysNothing => cases posts
  | excusedPaysPartial =>
      cases posts
      exact ⟨rfl, rfl, Or.inr rfl⟩
  | excusedPaysFull =>
      cases posts
      exact ⟨rfl, rfl, Or.inl rfl⟩

/-- What a call posts references its own instance: the pay of an open instance, or
the reversal of a complete one. -/
theorem callPosting_kind (accepted : request.Accepts loaded.task.status)
    (posts : callPosting loaded actor request = some posting) :
    posting.taskInstanceId = some loaded.task.id ∧ posting.seriesInstanceId = none ∧
      ((loaded.task.status = .complete ∧ posting.entryType = .reversal) ∨
        (loaded.task.status ≠ .complete ∧ loaded.task.status ≠ .excused ∧
          (posting.entryType = .taskCompleted ∨
            posting.entryType = .excusedPartial))) := by
  cases request with
  | complete note =>
      simp only [callPosting] at posts
      split at posts
      · cases posts
      · cases posts
        have actionable : Actionable loaded.task.status := accepted
        exact ⟨rfl, rfl, Or.inr
          ⟨actionable.ne (by decide), actionable.ne (by decide), Or.inl rfl⟩⟩
  | review approve comment =>
      have inReview : loaded.task.status = .reviewPending := accepted
      cases approve with
      | true =>
          cases posts
          exact ⟨rfl, rfl, Or.inr ⟨by simp [inReview], by simp [inReview], Or.inl rfl⟩⟩
      | false => cases posts
  | resolveExcuse approve comment =>
      have submitted : loaded.task.status = .excusePending := accepted
      cases approve with
      | true =>
          obtain ⟨own, noWindow, pays⟩ := excusePosting_own posts
          exact ⟨own, noWindow, Or.inr ⟨by simp [submitted], by simp [submitted], pays⟩⟩
      | false => cases posts
  | reverseCompletion reason =>
      cases posts
      exact ⟨rfl, rfl, Or.inl ⟨accepted, rfl⟩⟩
  | submitExcuse text => cases posts
  | cancel reason => cases posts

/-- With a fitting account, only the pay of a reversed instance is refused. -/
theorem free_iff_unreversed {approved : Option ExcusedPayoutPolicy} {ledger : Ledger}
    (booked : Booked approved loaded.task.status loaded.task.pointValue
      (postings ledger loaded.task.id))
    (accepted : request.Accepts loaded.task.status)
    (posts : callPosting loaded actor request = some posting) :
    posting.Free ledger ↔
      (posting.entryType = .taskCompleted → ¬ Reversed ledger loaded.task.id) := by
  obtain ⟨own, noWindow, kind⟩ := callPosting_kind accepted posts
  rw [free_iff_unposted own noWindow, reversed_iff_posted]
  rcases kind with ⟨done, reversal⟩ | ⟨notDone, notExcused, paying⟩
  · rw [done] at booked
    rw [booked.paid, reversal]
    simp [Account.statement]
  · rcases booked.settled notDone notExcused with unpaid | reversed
    · rw [unpaid]
      simp [Account.statement]
    · rw [reversed]
      rcases paying with full | half
      · simp [Account.statement, full]
      · simp [Account.statement, half]

end Account

/-! ## What an operation stores -/

section Stored

variable {clock : Clock} {loaded : Loaded} {actor : Member} {ledger nextLedger : Ledger}
variable {request : ServiceCall} {task : TaskInstance}

theorem callPay_eq (loaded : Loaded) (actor : Member) (request : ServiceCall) :
    callPay loaded request = (callPosting loaded actor request).map fun posting =>
      (posting.entryType, posting.delta) := by
  cases request with
  | complete note =>
      simp only [callPay, callPosting]
      split <;> rfl
  | review approve comment => cases approve <;> rfl
  | resolveExcuse approve comment =>
      cases approve with
      | false => rfl
      | true =>
          simp only [callPay, callPosting, excusePosting]
          cases loaded.household.excusedPayoutPolicy <;> rfl
  | submitExcuse text => rfl
  | cancel reason => rfl
  | reverseCompletion reason => rfl

theorem callPay_of_posting {posting : Posting}
    (posts : callPosting loaded actor request = some posting) :
    callPay loaded request = some (posting.entryType, posting.delta) := by
  rw [callPay_eq loaded actor, posts]
  rfl

theorem callPosting_member {posting : Posting}
    (posts : callPosting loaded actor request = some posting) :
    posting.memberId = loaded.task.assigneeId := by
  cases request with
  | complete note =>
      simp only [callPosting] at posts
      split at posts
      · cases posts
      · cases posts
        rfl
  | review approve comment =>
      cases approve with
      | false => cases posts
      | true =>
          cases posts
          rfl
  | resolveExcuse approve comment =>
      cases approve with
      | false => cases posts
      | true =>
          simp only [callPosting, excusePosting] at posts
          split at posts
          · cases posts
          · cases posts
            rfl
          · cases posts
            rfl
  | submitExcuse text => cases posts
  | cancel reason => cases posts
  | reverseCompletion reason =>
      cases posts
      rfl

/-- The pause of an overdue instance counts seconds that fit their column as long as it
has been overdue for less than 2^31 of them. -/
theorem suspendGrace_fits_iff (fits : FitsInteger loaded.task.graceElapsedSeconds)
    (now : Instant) :
    FitsInteger (suspendGrace loaded.task now).graceElapsedSeconds ↔
      (loaded.task.gracePausedAt = none →
        timedeltaSeconds loaded.task.graceElapsedSeconds + (now - loaded.task.dueAt) <
          timedeltaSeconds 2147483648) := by
  unfold suspendGrace
  by_cases running : loaded.task.gracePausedAt = none
  · simp only [running, if_true, forall_const]
    unfold FitsInteger timedeltaSeconds at *
    dsimp only [Instant, Timedelta] at *
    rw [Int.tdiv_eq_ediv]
    split
    · omega
    · rename_i negative
      rw [Int.sign_eq_one_of_pos (by decide)]
      omega
  · simp only [running, if_false, false_imp_iff, iff_true]
    exact fits

theorem stores_iff (stores : Stores loaded.task)
    (effect : CallEffect clock loaded.household loaded.definition actor loaded.task ledger
      request task nextLedger) :
    Stores task ↔ ArgumentsStore clock loaded request := by
  obtain ⟨texts, fits⟩ := stores
  simp only [storableTask, Bool.and_eq_true] at texts
  obtain ⟨⟨note, excuse⟩, review⟩ := texts
  cases effect with
  | completed | sentToReview =>
      simp [Stores, storableTask, completionRow, ArgumentsStore, excuse, review, fits]
  | excusedWhilePending pending =>
      simp [Stores, storableTask, excuseRow, ArgumentsStore, note, review, fits, pending]
  | excusedWhileOverdue overdue =>
      have counted := suspendGrace_fits_iff fits clock.now
      simp only [Stores, storableTask, excuseRow, ArgumentsStore, overdue, forall_const,
        ← counted]
      simp [suspendGrace, note, review]
  | approved | deniedBeforeDue | deniedAfterDue | excuseApproved | excuseDeniedInGrace
  | excuseDeniedExpired | cancelled | reversedBeforeDue | reversedAfterDue =>
      simp [Stores, storableTask, decisionRow, resumeGrace, ArgumentsStore, note, excuse, fits]

theorem callPay_none_iff
    (ran : request.run clock loaded.household loaded.definition actor loaded.task ledger =
      .ok (task, nextLedger)) :
    callPay loaded request = none ↔
      nextLedger.entries.length = ledger.entries.length := by
  have paid {posting : Posting} (recorded : record ledger clock posting = .ok nextLedger) :
      nextLedger.entries.length ≠ ledger.entries.length := by
    rw [(record_ok recorded).1, List.length_append]
    simp
  cases run_effect ran with
  | completed _ auto awarded => exact iff_of_false (by simp [callPay, auto]) (paid awarded)
  | approved _ awarded => exact iff_of_false (by simp [callPay]) (paid awarded)
  | reversedBeforeDue _ _ posted | reversedAfterDue _ _ posted =>
      exact iff_of_false (by simp [callPay]) (paid posted)
  | excuseApproved _ awarded =>
      unfold awardExcuseIfPolicy at awarded
      cases policy : loaded.household.excusedPayoutPolicy with
      | excusedPaysNothing =>
          simp only [policy, excusePosting] at awarded
          cases awarded
          exact iff_of_true (by simp [callPay, policy]) rfl
      | excusedPaysPartial | excusedPaysFull =>
          simp only [policy, excusePosting] at awarded
          exact iff_of_false (by simp [callPay, policy]) (paid awarded)
  | sentToReview _ reviewed => exact iff_of_true (by simp [callPay, reviewed]) rfl
  | excusedWhilePending | excusedWhileOverdue | deniedBeforeDue | deniedAfterDue
  | excuseDeniedInGrace | excuseDeniedExpired | cancelled => exact iff_of_true rfl rfl

end Stored

/-! ## Every run -/

theorem call_returns_iff (clock : Clock) (actor : Member) {loaded : Loaded} {db : Database}
    {request : ServiceCall} {approved : Option ExcusedPayoutPolicy}
    (valid : ValidArguments request) (accepted : request.Accepts loaded.task.status)
    (booked : Booked approved loaded.task.status loaded.task.pointValue
      (postings db.ledger loaded.task.id))
    (stores : Stores loaded.task) :
    (∃ task ledger, sessionCall clock actor loaded db.ledger request = .ok (task, ledger)) ↔
      (Operation.call clock actor request).Postable db loaded := by
  have success := @run_isOk_iff clock loaded.household loaded.definition actor
    loaded.task db.ledger request
  rw [passesChecks_iff_posting valid] at success
  constructor
  · rintro ⟨task, ledger, returned⟩ pay asked
    obtain ⟨ran, flushed⟩ := sessionCall_ok_iff.mp returned
    have unpaid := callPay_none_iff ran
    rw [asked] at unpaid
    have written : Stores task := flushed.resolve_left fun same =>
      Option.some_ne_none pay (unpaid.mpr same)
    rw [callPay_eq loaded actor] at asked
    obtain ⟨posting, posts, rfl⟩ := Option.map_eq_some_iff.mp asked
    have taken := (success.mp ⟨task, ledger, ran⟩).2 posting posts
    rw [Posting.accepted_iff, free_iff_unreversed booked accepted posts,
      callPosting_member posts] at taken
    exact ⟨taken.1, taken.2.1, taken.2.2, (stores_iff stores (run_effect ran)).mp written⟩
  · intro postable
    have ran : ∃ task ledger, request.run clock loaded.household loaded.definition actor
        loaded.task db.ledger = .ok (task, ledger) := by
      refine success.mpr ⟨accepted, fun posting posts => ?_⟩
      obtain ⟨fits, balanceFits, unreversed, _⟩ := postable _ (callPay_of_posting posts)
      rw [Posting.accepted_iff, free_iff_unreversed booked accepted posts,
        callPosting_member posts]
      exact ⟨fits, balanceFits, unreversed⟩
    obtain ⟨task, ledger, ran⟩ := ran
    refine ⟨task, ledger, sessionCall_ok_iff.mpr ⟨ran, ?_⟩⟩
    cases asked : callPay loaded request with
    | none => exact Or.inl ((callPay_none_iff ran).mp asked)
    | some pay =>
        exact Or.inr ((stores_iff stores (run_effect ran)).mpr (postable pay asked).2.2.2)

/-- In a state whose accounts fit and whose rows are stored, an offer is taken exactly when
what it posts can be posted, and committed when its text can be stored as well. -/
theorem returns_iff_postable {db : Database}
    {approvedUnder : Uuid → Option ExcusedPayoutPolicy}
    (accounted : Accounted ⟨db, approvedUnder⟩) (rows : RowsStore db) {taskId : Uuid}
    {loaded : Loaded} {operation : Operation} {next : TaskStatus}
    (offer : Offer db taskId loaded operation next) :
    (operation.Returns db loaded next ↔ operation.Postable db loaded) ∧
      (operation.Commits db loaded next ↔
        operation.Postable db loaded ∧ operation.Storable loaded) := by
  obtain ⟨trigger, carried, offered⟩ := offer.offered
  have member := Table.mem_of_find? (load?_ok offer.found).1
  cases operation with
  | call clock actor request =>
      have accepted := accepts_of_offered carried offered
      have booked := accounted.booked loaded.task member
      have returns := call_returns_iff clock actor offer.valid accepted booked
        (rows loaded.task member)
      constructor
      · constructor
        · rintro ⟨task, ledger, returned, _⟩
          exact returns.mp ⟨task, ledger, returned⟩
        · intro postable
          obtain ⟨task, ledger, returned⟩ := returns.mpr postable
          exact ⟨task, ledger, returned, status_of_offered
            (run_effect (sessionCall_ok_iff.mp returned).1) carried offered⟩
      · constructor
        · rintro ⟨task, ledger, returned, _, stores⟩
          exact ⟨returns.mp ⟨task, ledger, returned⟩, (stores_iff (rows loaded.task member)
            (run_effect (sessionCall_ok_iff.mp returned).1)).mp stores⟩
        · rintro ⟨postable, storable⟩
          obtain ⟨task, ledger, returned⟩ := returns.mpr postable
          have effect := run_effect (sessionCall_ok_iff.mp returned).1
          exact ⟨task, ledger, returned, status_of_offered effect carried offered,
            (stores_iff (rows loaded.task member) effect).mpr storable⟩
  | dueSweep definitionIds now =>
      have returns : (Operation.dueSweep definitionIds now).Returns db loaded next := by
        cases carried
        have pending : loaded.task.status = .pending := source_of_transition offered
        rw [pending] at offered
        cases offered
        refine ⟨_, Table.mem_updateWhere.mpr ⟨loaded.task, member, rfl⟩, ?_, ?_⟩
        · split <;> rfl
        · simp [pending, offer.valid.1, offer.valid.2]
      exact ⟨iff_of_true returns trivial, iff_of_true returns ⟨trivial, trivial⟩⟩
  | graceSweep definitionIds now =>
      have returns : (Operation.graceSweep definitionIds now).Returns db loaded next := by
        cases carried
        have overdue : loaded.task.status = .overdue := source_of_transition offered
        rw [overdue] at offered
        cases offered
        refine ⟨_, Table.mem_updateWhere.mpr ⟨loaded.task, member, rfl⟩, ?_, ?_⟩
        · split <;> rfl
        · simp [overdue, offer.valid.1, offer.valid.2]
      exact ⟨iff_of_true returns trivial, iff_of_true returns ⟨trivial, trivial⟩⟩

/-- An offer is returned from exactly when what it posts can be posted, and committed
exactly when what it stores can be stored as well, in every state of every run from an
empty ledger. -/
theorem offers_taken_iff (pytz : String → Option TzInfo) (db : Database)
    (fresh : FreshStart db) (stored : RowsStore db) (events : List LifecycleEvent) :
    Always (storedStep pytz)
      (fun db => ∀ taskId loaded operation next, Offer db taskId loaded operation next →
        (operation.Returns db loaded next ↔ operation.Postable db loaded) ∧
          (operation.Commits db loaded next ↔
            operation.Postable db loaded ∧ operation.Storable loaded))
      db events := by
  have accounted : Always (storedStep pytz)
      (fun db => (∃ approvedUnder, Accounted ⟨db, approvedUnder⟩) ∧ RowsStore db)
      db events := by
    refine invariant_always _ ?_ ⟨⟨_, fresh.accounted⟩, stored⟩ events
    rintro state event ⟨⟨approvedUnder, kept⟩, rows⟩
    refine ⟨?_, rows.step event⟩
    rcases storedStep_cases pytz state event with same | same
    · rw [same]
      exact ⟨approvedUnder, kept⟩
    · rw [same]
      exact ⟨_, step_preserves_accounted kept event⟩
  refine accounted.imp ?_
  rintro state ⟨⟨approvedUnder, kept⟩, rows⟩ taskId loaded operation next offer
  exact returns_iff_postable kept rows offer

def reversedEarly : List LifecycleEvent :=
  [.call ⟨-9, -9⟩ sampleTeen 1 (.complete none),
    .call ⟨-8, -8⟩ sampleParent 1 (.reverseCompletion "not done")]

theorem offers_taken_reversed_early :
    Always (storedStep fun _ => none)
      (fun db => ∀ taskId loaded operation next, Offer db taskId loaded operation next →
        (operation.Returns db loaded next ↔ operation.Postable db loaded) ∧
          (operation.Commits db loaded next ↔
            operation.Postable db loaded ∧ operation.Storable loaded))
      (sampleDatabase sampleDefinition sampleTask) reversedEarly :=
  offers_taken_iff _ _
    ⟨rfl, fun task member => by
      rw [List.mem_singleton.mp member]
      exact Or.inl rfl⟩
    (fun task member => by
      rw [List.mem_singleton.mp member]
      decide) reversedEarly

/-- The instance as the reversal leaves it: overdue, to be completed again. -/
def reopened : Loaded where
  household := sampleHousehold
  definition := sampleDefinition
  task := decisionRow ⟨-8, -8⟩ sampleParent
    (completionRow ⟨-9, -9⟩ sampleTask none .complete) (some "not done") .overdue

def completeAgain : Operation := .call ⟨-7, -7⟩ sampleTeen (.complete none)

theorem reopened_cannot_be_completed :
    ¬ Always (storedStep fun _ => none) EveryOfferTaken
      (sampleDatabase sampleDefinition sampleTask) reversedEarly := by
  intro always
  have offer : Offer (runFrom (storedStep fun _ => none)
      (sampleDatabase sampleDefinition sampleTask) reversedEarly) 1 reopened completeAgain
        .complete :=
    ⟨by decide +kernel, trivial, .completeAuto, rfl, rfl⟩
  obtain ⟨task, ledger, returned, _⟩ := always.at_end 1 reopened completeAgain _ offer
  have refused : (sessionCall ⟨-7, -7⟩ sampleTeen reopened
      (runFrom (storedStep fun _ => none) (sampleDatabase sampleDefinition sampleTask)
        reversedEarly).ledger (.complete none)).map Prod.fst =
      .error (.duplicateLedgerEntry
        ("A ledger entry of type 'task_completed' already exists for this " ++
          "task/series instance. Points were already awarded.")) := by
    decide +kernel
  have success := congrArg (Except.map Prod.fst) returned
  cases success.symm.trans refused

end KidsChores.Properties
