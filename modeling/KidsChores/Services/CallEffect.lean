import KidsChores.Services.StateMachine

/-!
# What a successful service call did

Inversion of the state machine: one case per branch of the source, with the
guard that was passed, the row that was written and the ledger that is left.
Every invariant of the task lifecycle is a case analysis on `CallEffect`.
-/

set_option autoImplicit false

namespace KidsChores.Services.StateMachine

open KidsChores.Models
open KidsChores.Library.PyDatetime
open KidsChores.Services.Ledger
open KidsChores.Library.PyText

/-- The guard `complete`, `submit_excuse` and `cancel` share. -/
def Actionable (status : TaskStatus) : Prop :=
  status = .pending ∨ status = .overdue

instance (status : TaskStatus) : Decidable (Actionable status) :=
  inferInstanceAs (Decidable (_ ∨ _))

theorem Actionable.ne {status other : TaskStatus} (actionable : Actionable status)
    (closed : ¬ Actionable other) : status ≠ other := by
  rintro rfl
  exact closed actionable

/-- The status check at the head of each call. -/
def ServiceCall.Accepts : ServiceCall → TaskStatus → Prop
  | .complete _, status => Actionable status
  | .submitExcuse _, status => Actionable status
  | .review _ _, status => status = .reviewPending
  | .resolveExcuse _ _, status => status = .excusePending
  | .cancel _, status => Actionable status
  | .reverseCompletion _, status => status = .complete

instance (call : ServiceCall) (status : TaskStatus) :
    Decidable (call.Accepts status) := by
  cases call <;> unfold ServiceCall.Accepts <;> infer_instance

section Rows

variable (clock : Clock) (actor : Member) (task : TaskInstance)

def completionRow (note : Option String) (status : TaskStatus) : TaskInstance :=
  { task with
    completedAt := some clock.now
    completionNote := note
    status := status }

def excuseRow (excuseText : String) : TaskInstance :=
  { task with
    excuseText := some excuseText
    excuseSubmittedAt := some clock.now
    status := .excusePending }

/-- The row after a parent's decision. -/
def decisionRow (comment : Option String) (status : TaskStatus) : TaskInstance :=
  { task with
    reviewedBy := some actor.id
    reviewedAt := some clock.now
    reviewComment := comment
    status := status }

@[simp] theorem completionRow_status (note : Option String) (status : TaskStatus) :
    (completionRow clock task note status).status = status := rfl

@[simp] theorem excuseRow_status (excuseText : String) :
    (excuseRow clock task excuseText).status = .excusePending := rfl

@[simp] theorem decisionRow_status (comment : Option String) (status : TaskStatus) :
    (decisionRow clock actor task comment status).status = status := rfl

end Rows

inductive CallEffect (clock : Clock) (household : Household)
    (definition : TaskDefinition) (actor : Member) (task : TaskInstance)
    (ledger : Ledger) : ServiceCall → TaskInstance → Ledger → Prop where
  | completed {note : Option String} {nextLedger : Ledger}
      (actionable : Actionable task.status)
      (auto : definition.requiresReview = false)
      (paid : awardTaskCompletion ledger clock definition actor
        (completionRow clock task note .complete) = .ok nextLedger) :
      CallEffect clock household definition actor task ledger (.complete note)
        (completionRow clock task note .complete) nextLedger
  | sentToReview {note : Option String}
      (actionable : Actionable task.status)
      (reviewed : definition.requiresReview = true) :
      CallEffect clock household definition actor task ledger (.complete note)
        (completionRow clock task note .reviewPending) ledger
  | excusedWhilePending {text : String} (pending : task.status = .pending)
      (long : 10 ≤ (strip text).length) :
      CallEffect clock household definition actor task ledger
        (.submitExcuse text) (excuseRow clock task text) ledger
  | excusedWhileOverdue {text : String} (overdue : task.status = .overdue)
      (long : 10 ≤ (strip text).length) :
      CallEffect clock household definition actor task ledger
        (.submitExcuse text)
        (excuseRow clock (suspendGrace task clock.now) text) ledger
  | approved {comment : Option String} {nextLedger : Ledger}
      (inReview : task.status = .reviewPending)
      (paid : awardTaskCompletion ledger clock definition actor
        (decisionRow clock actor task comment .complete) = .ok nextLedger) :
      CallEffect clock household definition actor task ledger
        (.review true comment)
        (decisionRow clock actor task comment .complete) nextLedger
  | deniedBeforeDue {comment : Option String}
      (inReview : task.status = .reviewPending) (said : truthy comment = true)
      (early : clock.now < task.dueAt) :
      CallEffect clock household definition actor task ledger
        (.review false comment)
        (decisionRow clock actor task comment .pending) ledger
  | deniedAfterDue {comment : Option String}
      (inReview : task.status = .reviewPending) (said : truthy comment = true)
      (late : task.dueAt ≤ clock.now) :
      CallEffect clock household definition actor task ledger
        (.review false comment)
        (decisionRow clock actor (resumeGrace task) comment .overdue) ledger
  | excuseApproved {comment : Option String} {nextLedger : Ledger}
      (submitted : task.status = .excusePending)
      (paid : awardExcuseIfPolicy ledger clock definition actor household
        (decisionRow clock actor task comment .excused) = .ok nextLedger) :
      CallEffect clock household definition actor task ledger
        (.resolveExcuse true comment)
        (decisionRow clock actor task comment .excused) nextLedger
  | excuseDeniedInGrace {comment : Option String}
      (submitted : task.status = .excusePending) (said : truthy comment = true)
      (remaining : 0 < graceRemaining (resumeGrace task)
        household.gracePeriodHours clock.now) :
      CallEffect clock household definition actor task ledger
        (.resolveExcuse false comment)
        (decisionRow clock actor (resumeGrace task) comment .overdue) ledger
  | excuseDeniedExpired {comment : Option String}
      (submitted : task.status = .excusePending) (said : truthy comment = true)
      (expired : graceRemaining (resumeGrace task)
        household.gracePeriodHours clock.now ≤ 0) :
      CallEffect clock household definition actor task ledger
        (.resolveExcuse false comment)
        (decisionRow clock actor (resumeGrace task) comment .missed) ledger
  | cancelled {reason : Option String} (actionable : Actionable task.status) :
      CallEffect clock household definition actor task ledger (.cancel reason)
        (decisionRow clock actor task reason .cancelled) ledger
  | reversedBeforeDue {reason : String} {nextLedger : Ledger}
      (done : task.status = .complete) (early : clock.now < task.dueAt)
      (posted : writeReversal ledger clock actor reason
        (decisionRow clock actor task (some reason) .overdue) = .ok nextLedger) :
      CallEffect clock household definition actor task ledger
        (.reverseCompletion reason)
        (decisionRow clock actor task (some reason) .overdue) nextLedger
  | reversedAfterDue {reason : String} {nextLedger : Ledger}
      (done : task.status = .complete) (late : task.dueAt ≤ clock.now)
      (posted : writeReversal ledger clock actor reason
        (decisionRow clock actor task (some reason) .missed) = .ok nextLedger) :
      CallEffect clock household definition actor task ledger
        (.reverseCompletion reason)
        (decisionRow clock actor task (some reason) .missed) nextLedger

section Inversion

variable {clock : Clock} {household : Household} {definition : TaskDefinition}
variable {actor : Member} {task next : TaskInstance} {ledger nextLedger : Ledger}

theorem complete_effect {note : Option String}
    (success : complete clock definition actor note task ledger =
      .ok (next, nextLedger)) :
    CallEffect clock household definition actor task ledger (.complete note)
      next nextLedger := by
  simp only [complete, bind, Except.bind, pure, Except.pure, throw, throwThe,
    MonadExceptOf.throw] at success
  split at success
  · cases success
  · rename_i guard
    have actionable : Actionable task.status := by
      unfold Actionable
      tauto
    cases reviewed : definition.requiresReview with
    | true =>
        have moved : transition task.status .completeReview = .ok .reviewPending := by
          rcases actionable with status | status <;> rw [status] <;> rfl
        simp only [reviewed, if_true, moved, reduceCtorEq, if_false] at success
        cases success
        exact .sentToReview actionable reviewed
    | false =>
        have moved : transition task.status .completeAuto = .ok .complete := by
          rcases actionable with status | status <;> rw [status] <;> rfl
        simp only [reviewed, Bool.false_eq_true, if_false, moved, if_true] at success
        split at success
        · cases success
        · rename_i result paid
          cases success
          exact .completed actionable reviewed paid

theorem submitExcuse_effect {text : String}
    (success : submitExcuse clock text task ledger = .ok (next, nextLedger)) :
    CallEffect clock household definition actor task ledger (.submitExcuse text)
      next nextLedger := by
  simp only [submitExcuse, bind, Except.bind, pure, Except.pure, throw, throwThe,
    MonadExceptOf.throw] at success
  split at success
  · cases success
  · rename_i guard
    split at success
    · cases success
    · rename_i short
      have long : 10 ≤ (strip text).length := Nat.le_of_not_lt short
      have actionable : Actionable task.status := by
        unfold Actionable
        tauto
      rcases actionable with pending | overdue
      · simp only [pending, transition, transitions, reduceCtorEq,
          if_false] at success
        cases success
        exact .excusedWhilePending pending long
      · simp only [overdue, if_true, suspendGrace, transition, transitions] at success
        cases success
        exact .excusedWhileOverdue overdue long

theorem review_effect {approve : Bool} {comment : Option String}
    (success : review clock definition actor approve comment task ledger =
      .ok (next, nextLedger)) :
    CallEffect clock household definition actor task ledger
      (.review approve comment) next nextLedger := by
  simp only [review, bind, Except.bind, pure, Except.pure, throw, throwThe,
    MonadExceptOf.throw, transition, transitions] at success
  split at success
  · cases success
  · rename_i guard
    have inReview : task.status = .reviewPending := not_not.mp guard
    split at success
    · cases success
    · rename_i comments
      cases approve with
      | true =>
          simp only [if_true] at success
          split at success
          · cases success
          · rename_i result paid
            cases success
            exact .approved inReview paid
      | false =>
          have said : truthy comment = true := by simpa using comments
          simp only [Bool.false_eq_true, if_false] at success
          by_cases early : clock.now < task.dueAt
          · simp only [early, if_true, reduceCtorEq, if_false] at success
            cases success
            exact .deniedBeforeDue inReview said early
          · simp only [early, if_false, if_true, resumeGrace] at success
            cases success
            exact .deniedAfterDue inReview said (Int.not_lt.mp early)

theorem resolveExcuse_effect {approve : Bool} {comment : Option String}
    (success : resolveExcuse clock definition actor household approve comment
      task ledger = .ok (next, nextLedger)) :
    CallEffect clock household definition actor task ledger
      (.resolveExcuse approve comment) next nextLedger := by
  simp only [resolveExcuse, bind, Except.bind, pure, Except.pure, throw,
    throwThe, MonadExceptOf.throw, transition, transitions] at success
  split at success
  · cases success
  · rename_i guard
    have submitted : task.status = .excusePending := not_not.mp guard
    split at success
    · cases success
    · rename_i comments
      cases approve with
      | true =>
          simp only [if_true] at success
          split at success
          · cases success
          · rename_i result paid
            cases success
            exact .excuseApproved submitted paid
      | false =>
          have said : truthy comment = true := by simpa using comments
          simp only [Bool.false_eq_true, if_false] at success
          by_cases remaining : 0 < graceRemaining (resumeGrace task)
              household.gracePeriodHours clock.now
          · have running := remaining
            simp only [graceRemaining, resumeGrace, if_true] at running success
            simp only [gt_iff_lt, running, if_true] at success
            cases success
            exact .excuseDeniedInGrace submitted said remaining
          · have running := remaining
            simp only [graceRemaining, resumeGrace, if_true] at running success
            simp only [gt_iff_lt, running, if_false] at success
            cases success
            exact .excuseDeniedExpired submitted said (Int.not_lt.mp remaining)

theorem cancel_effect {reason : Option String}
    (success : cancel clock actor reason task ledger = .ok (next, nextLedger)) :
    CallEffect clock household definition actor task ledger (.cancel reason)
      next nextLedger := by
  simp only [cancel, bind, Except.bind, pure, Except.pure, throw, throwThe,
    MonadExceptOf.throw] at success
  split at success
  · cases success
  · rename_i guard
    have actionable : Actionable task.status := by
      unfold Actionable
      tauto
    have moved : transition task.status .cancel = .ok .cancelled := by
      rcases actionable with status | status <;> rw [status] <;> rfl
    simp only [moved] at success
    cases success
    exact .cancelled actionable

theorem reverseCompletion_effect {reason : String}
    (success : reverseCompletion clock actor reason task ledger =
      .ok (next, nextLedger)) :
    CallEffect clock household definition actor task ledger
      (.reverseCompletion reason) next nextLedger := by
  simp only [reverseCompletion, bind, Except.bind, pure, Except.pure, throw,
    throwThe, MonadExceptOf.throw] at success
  split at success
  · cases success
  · rename_i guard
    have done : task.status = .complete := not_not.mp guard
    by_cases early : clock.now < task.dueAt
    · simp only [early, if_true, transition, transitions] at success
      split at success
      · cases success
      · rename_i result posted
        cases success
        exact .reversedBeforeDue done early posted
    · simp only [early, if_false, transition, transitions] at success
      split at success
      · cases success
      · rename_i result posted
        cases success
        exact .reversedAfterDue done (Int.not_lt.mp early) posted

theorem run_effect {call : ServiceCall}
    (success : call.run clock household definition actor task ledger =
      .ok (next, nextLedger)) :
    CallEffect clock household definition actor task ledger call next
      nextLedger := by
  cases call with
  | complete note => exact complete_effect success
  | submitExcuse text => exact submitExcuse_effect success
  | review approve comment => exact review_effect success
  | resolveExcuse approve comment => exact resolveExcuse_effect success
  | cancel reason => exact cancel_effect success
  | reverseCompletion reason => exact reverseCompletion_effect success

end Inversion

/-! ## What every call has in common -/

section Common

variable {clock : Clock} {household : Household} {definition : TaskDefinition}
variable {actor : Member} {task next : TaskInstance} {ledger nextLedger : Ledger}
variable {call : ServiceCall}

/-- The columns no service call writes. -/
structure SameTask (task next : TaskInstance) : Prop where
  id : next.id = task.id
  definitionId : next.definitionId = task.definitionId
  assigneeId : next.assigneeId = task.assigneeId
  dueAt : next.dueAt = task.dueAt
  pointValue : next.pointValue = task.pointValue
  seriesInstanceId : next.seriesInstanceId = task.seriesInstanceId

theorem SameTask.refl (task : TaskInstance) : SameTask task task :=
  ⟨rfl, rfl, rfl, rfl, rfl, rfl⟩

theorem SameTask.trans {first second third : TaskInstance}
    (before : SameTask first second) (after : SameTask second third) :
    SameTask first third :=
  ⟨after.id.trans before.id, after.definitionId.trans before.definitionId,
    after.assigneeId.trans before.assigneeId, after.dueAt.trans before.dueAt,
    after.pointValue.trans before.pointValue,
    after.seriesInstanceId.trans before.seriesInstanceId⟩

theorem CallEffect.sameTask
    (effect : CallEffect clock household definition actor task ledger call next
      nextLedger) : SameTask task next := by
  cases effect <;> exact ⟨rfl, rfl, rfl, rfl, rfl, rfl⟩

theorem CallEffect.accepts
    (effect : CallEffect clock household definition actor task ledger call next
      nextLedger) : call.Accepts task.status := by
  cases effect with
  | completed actionable | sentToReview actionable => exact actionable
  | excusedWhilePending pending => exact Or.inl pending
  | excusedWhileOverdue overdue => exact Or.inr overdue
  | approved inReview | deniedBeforeDue inReview | deniedAfterDue inReview =>
      exact inReview
  | excuseApproved submitted | excuseDeniedInGrace submitted
  | excuseDeniedExpired submitted => exact submitted
  | cancelled actionable => exact actionable
  | reversedBeforeDue done | reversedAfterDue done => exact done

/-- Every call that returns changes the status. -/
theorem CallEffect.moves
    (effect : CallEffect clock household definition actor task ledger call next
      nextLedger) : next.status ≠ task.status := by
  cases effect with
  | completed actionable | sentToReview actionable | cancelled actionable =>
      rcases actionable with status | status <;> simp [status]
  | excusedWhilePending status | excusedWhileOverdue status | approved status
  | deniedBeforeDue status | deniedAfterDue status | excuseApproved status
  | excuseDeniedInGrace status | excuseDeniedExpired status
  | reversedBeforeDue status | reversedAfterDue status => simp [status]

/-- The new status is offered from every status that passes the call's check,
not only from the one that was read. -/
theorem CallEffect.offered {status : TaskStatus}
    (effect : CallEffect clock household definition actor task ledger call next
      nextLedger) (accepted : call.Accepts status) : Offered status next.status := by
  cases effect with
  | completed =>
      rcases accepted with rfl | rfl <;> exact ⟨.completeAuto, rfl⟩
  | sentToReview =>
      rcases accepted with rfl | rfl <;> exact ⟨.completeReview, rfl⟩
  | excusedWhilePending | excusedWhileOverdue =>
      rcases accepted with rfl | rfl <;> exact ⟨.excuse, rfl⟩
  | approved =>
      cases accepted
      exact ⟨.approve, rfl⟩
  | deniedBeforeDue =>
      cases accepted
      exact ⟨.denyBeforeDue, rfl⟩
  | deniedAfterDue =>
      cases accepted
      exact ⟨.denyAfterDue, rfl⟩
  | excuseApproved =>
      cases accepted
      exact ⟨.approve, rfl⟩
  | excuseDeniedInGrace =>
      cases accepted
      exact ⟨.denyGraceRemaining, rfl⟩
  | excuseDeniedExpired =>
      cases accepted
      exact ⟨.denyGraceExpired, rfl⟩
  | cancelled =>
      rcases accepted with rfl | rfl <;> exact ⟨.cancel, rfl⟩
  | reversedBeforeDue =>
      cases accepted
      exact ⟨.parentReversesBeforeDue, rfl⟩
  | reversedAfterDue =>
      cases accepted
      exact ⟨.parentReversesAfterDue, rfl⟩

/-- The reviewer of the row is who it was, or who acted. -/
theorem CallEffect.reviewer
    (effect : CallEffect clock household definition actor task ledger call next
      nextLedger) :
    next.reviewedBy = task.reviewedBy ∨ next.reviewedBy = some actor.id := by
  cases effect with
  | completed | sentToReview | excusedWhilePending => exact Or.inl rfl
  | excusedWhileOverdue => exact Or.inl rfl
  | approved | deniedBeforeDue | deniedAfterDue | excuseApproved | excuseDeniedInGrace
  | excuseDeniedExpired | cancelled | reversedBeforeDue | reversedAfterDue =>
      exact Or.inr rfl

/-- A call posts nothing, or one entry of the assignee in the name of who acted, about
the instance. -/
theorem CallEffect.posts
    (effect : CallEffect clock household definition actor task ledger call next
      nextLedger) :
    nextLedger = ledger ∨ ∃ posting, record ledger clock posting = .ok nextLedger ∧
      posting.memberId = task.assigneeId ∧ posting.createdBy = actor.id ∧
        posting.taskInstanceId = some task.id := by
  cases effect with
  | sentToReview | excusedWhilePending | excusedWhileOverdue | deniedBeforeDue
  | deniedAfterDue | excuseDeniedInGrace | excuseDeniedExpired | cancelled =>
      exact Or.inl rfl
  | completed _ _ paid | approved _ paid => exact Or.inr ⟨_, paid, rfl, rfl, rfl⟩
  | reversedBeforeDue _ _ posted | reversedAfterDue _ _ posted =>
      exact Or.inr ⟨_, posted, rfl, rfl, rfl⟩
  | excuseApproved _ paid =>
      unfold awardExcuseIfPolicy at paid
      cases policy : household.excusedPayoutPolicy with
      | excusedPaysNothing =>
          simp only [policy, excusePosting] at paid
          cases paid
          exact Or.inl rfl
      | excusedPaysPartial =>
          simp only [policy, excusePosting] at paid
          exact Or.inr ⟨_, paid, rfl, rfl, rfl⟩
      | excusedPaysFull =>
          simp only [policy, excusePosting] at paid
          exact Or.inr ⟨_, paid, rfl, rfl, rfl⟩

end Common

end KidsChores.Services.StateMachine
