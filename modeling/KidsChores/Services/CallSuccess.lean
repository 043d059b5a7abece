import KidsChores.Services.CallEffect

/-!
# When a service call succeeds

Beside the check of the status, each call has its own: a text that is long
enough, a comment that is there, a ledger entry that is accepted.  A call
returns exactly when it passes both.
-/

set_option autoImplicit false

namespace KidsChores.Services.StateMachine

open KidsChores.Models
open KidsChores.Library.PyDatetime
open KidsChores.Library.PyText
open KidsChores.Services.Ledger

/-- What a call checks beside the status. -/
def ServiceCall.PassesChecks (household : Household) (definition : TaskDefinition)
    (actor : Member) (task : TaskInstance) (ledger : Ledger) : ServiceCall → Prop
  | .complete _ => definition.requiresReview = true ∨
      (taskCompletedPosting definition actor task).Accepted ledger
  | .submitExcuse excuseText => 10 ≤ (strip excuseText).length
  | .review true _ => (taskCompletedPosting definition actor task).Accepted ledger
  | .review false comment => truthy comment = true
  | .resolveExcuse true _ =>
      ∀ posting ∈ excusePosting definition actor household.excusedPayoutPolicy task,
        posting.Accepted ledger
  | .resolveExcuse false comment => truthy comment = true
  | .cancel _ => True
  | .reverseCompletion reason => (reversalPosting actor reason task).Accepted ledger

instance (household : Household) (definition : TaskDefinition) (actor : Member)
    (task : TaskInstance) (ledger : Ledger) : (call : ServiceCall) →
      Decidable (call.PassesChecks household definition actor task ledger)
  | .complete _ => inferInstanceAs (Decidable (_ ∨ _))
  | .submitExcuse _ => inferInstanceAs (Decidable (_ ≤ _))
  | .review true _ => inferInstanceAs (Decidable (Posting.Accepted _ _))
  | .review false _ => inferInstanceAs (Decidable (_ = _))
  | .resolveExcuse true _ =>
      inferInstanceAs (Decidable (∀ posting ∈ excusePosting _ _ _ _, posting.Accepted _))
  | .resolveExcuse false _ => inferInstanceAs (Decidable (_ = _))
  | .cancel _ => inferInstanceAs (Decidable True)
  | .reverseCompletion _ => inferInstanceAs (Decidable (Posting.Accepted _ _))

section Success

variable {clock : Clock} {household : Household} {definition : TaskDefinition}
variable {actor : Member} {task : TaskInstance} {ledger : Ledger}

theorem awardTaskCompletion_isOk_iff :
    (∃ next, awardTaskCompletion ledger clock definition actor task = .ok next) ↔
      (taskCompletedPosting definition actor task).Accepted ledger :=
  record_isOk_iff

theorem awardExcuseIfPolicy_isOk_iff :
    (∃ next, awardExcuseIfPolicy ledger clock definition actor household task =
        .ok next) ↔
      ∀ posting ∈ excusePosting definition actor household.excusedPayoutPolicy task,
        posting.Accepted ledger := by
  unfold awardExcuseIfPolicy
  cases excusePosting definition actor household.excusedPayoutPolicy task with
  | none => simp
  | some posting => simp [record_isOk_iff]

theorem complete_isOk (note : Option String) (actionable : Actionable task.status)
    (passes : (ServiceCall.complete note).PassesChecks household definition actor task
      ledger) :
    ∃ next nextLedger, complete clock definition actor note task ledger =
      .ok (next, nextLedger) := by
  cases reviewed : definition.requiresReview with
  | true =>
      rcases actionable with status | status
      · simp [complete, status, reviewed, transition, transitions, bind, Except.bind,
          pure, Except.pure]
      · simp [complete, status, reviewed, transition, transitions, bind, Except.bind,
          pure, Except.pure]
  | false =>
      have accepted := passes.resolve_left (by simp [reviewed])
      obtain ⟨next, paid⟩ : ∃ next, awardTaskCompletion ledger clock definition actor
          (completionRow clock task note .complete) = .ok next :=
        awardTaskCompletion_isOk_iff.mpr accepted
      unfold completionRow at paid
      rcases actionable with status | status
      · simp only [complete, status, reviewed, transition, transitions, bind,
          Except.bind, pure, Except.pure, ne_eq, not_true, false_and, if_false,
          Bool.false_eq_true, if_true, paid]
        exact ⟨_, _, rfl⟩
      · simp only [complete, status, reviewed, transition, transitions, bind,
          Except.bind, pure, Except.pure, ne_eq, not_true, and_false, if_false,
          Bool.false_eq_true, if_true, paid]
        exact ⟨_, _, rfl⟩

theorem submitExcuse_isOk {excuseText : String} (actionable : Actionable task.status)
    (long : 10 ≤ (strip excuseText).length) :
    ∃ next nextLedger, submitExcuse clock excuseText task ledger =
      .ok (next, nextLedger) := by
  have notShort : ¬ (strip excuseText).length < 10 := Nat.not_lt.mpr long
  rcases actionable with status | status
  · simp [submitExcuse, status, notShort, transition, transitions, bind, Except.bind,
      pure, Except.pure]
  · simp [submitExcuse, status, notShort, suspendGrace, transition, transitions, bind,
      Except.bind, pure, Except.pure]

theorem cancel_isOk (reason : Option String) (actionable : Actionable task.status) :
    ∃ next nextLedger, cancel clock actor reason task ledger =
      .ok (next, nextLedger) := by
  rcases actionable with status | status
  · simp [cancel, status, transition, transitions, bind, Except.bind, pure, Except.pure]
  · simp [cancel, status, transition, transitions, bind, Except.bind, pure, Except.pure]

theorem review_isOk {approve : Bool} {comment : Option String}
    (inReview : task.status = .reviewPending)
    (passes : (ServiceCall.review approve comment).PassesChecks household definition
      actor task ledger) :
    ∃ next nextLedger, review clock definition actor approve comment task ledger =
      .ok (next, nextLedger) := by
  cases approve with
  | true =>
      obtain ⟨next, paid⟩ : ∃ next, awardTaskCompletion ledger clock definition actor
          (decisionRow clock actor task comment .complete) = .ok next :=
        awardTaskCompletion_isOk_iff.mpr passes
      unfold decisionRow at paid
      simp only [review, inReview, transition, transitions, bind, Except.bind, pure,
        Except.pure, ne_eq, not_true, false_and, if_false, if_true, paid]
      exact ⟨_, _, rfl⟩
  | false =>
      have said : truthy comment = true := passes
      by_cases early : clock.now < task.dueAt
      · simp [review, inReview, said, early, transition, transitions, bind, Except.bind,
          pure, Except.pure]
      · simp [review, inReview, said, early, transition, transitions, bind, Except.bind,
          pure, Except.pure]

/-- An excuse is denied to overdue while grace is left, and to missed after. -/
theorem resolveExcuse_denied {comment : Option String}
    (submitted : task.status = .excusePending)
    (said : truthy comment = true) :
    resolveExcuse clock definition actor household false comment task ledger =
      .ok (decisionRow clock actor (resumeGrace task) comment
        (if 0 < graceRemaining (resumeGrace task) household.gracePeriodHours
            clock.now then .overdue else .missed), ledger) := by
  have row : ∀ status, decisionRow clock actor (resumeGrace task) comment status =
      { task with
        reviewedBy := some actor.id
        reviewedAt := some clock.now
        reviewComment := comment
        gracePausedAt := none
        status := status } := fun _ => rfl
  simp only [resolveExcuse, submitted, said, bind, Except.bind, pure, Except.pure,
    ne_eq, not_true, if_false, and_false, Bool.false_eq_true, row]
  by_cases remaining : 0 < graceRemaining (resumeGrace task)
      household.gracePeriodHours clock.now
  · have running := remaining
    simp only [graceRemaining, resumeGrace, if_true] at running ⊢
    simp only [gt_iff_lt, running, if_true, transition, transitions]
  · have running := remaining
    simp only [graceRemaining, resumeGrace, if_true] at running ⊢
    simp only [gt_iff_lt, running, if_false, transition, transitions]

theorem resolveExcuse_isOk {approve : Bool} {comment : Option String}
    (submitted : task.status = .excusePending)
    (passes : (ServiceCall.resolveExcuse approve comment).PassesChecks household
      definition actor task ledger) :
    ∃ next nextLedger, resolveExcuse clock definition actor household approve comment
      task ledger = .ok (next, nextLedger) := by
  cases approve with
  | true =>
      obtain ⟨next, paid⟩ : ∃ next, awardExcuseIfPolicy ledger clock definition actor
          household (decisionRow clock actor task comment .excused) = .ok next :=
        awardExcuseIfPolicy_isOk_iff.mpr passes
      unfold decisionRow at paid
      simp only [resolveExcuse, submitted, transition, transitions, bind, Except.bind,
        pure, Except.pure, ne_eq, not_true, false_and, if_false, if_true, paid]
      exact ⟨_, _, rfl⟩
  | false => exact ⟨_, _, resolveExcuse_denied submitted passes⟩

theorem reverseCompletion_isOk {reason : String} (done : task.status = .complete)
    (accepted : (reversalPosting actor reason task).Accepted ledger) :
    ∃ next nextLedger, reverseCompletion clock actor reason task ledger =
      .ok (next, nextLedger) := by
  by_cases early : clock.now < task.dueAt
  · obtain ⟨next, posted⟩ : ∃ next, record ledger clock (reversalPosting actor reason
        (decisionRow clock actor task (some reason) .overdue)) = .ok next :=
      record_isOk_iff.mpr accepted
    change writeReversal ledger clock actor reason _ = .ok next at posted
    unfold decisionRow at posted
    simp only [reverseCompletion, done, early, transition, transitions, bind,
      Except.bind, pure, Except.pure, ne_eq, not_true, if_false, if_true, posted]
    exact ⟨_, _, rfl⟩
  · obtain ⟨next, posted⟩ : ∃ next, record ledger clock (reversalPosting actor reason
        (decisionRow clock actor task (some reason) .missed)) = .ok next :=
      record_isOk_iff.mpr accepted
    change writeReversal ledger clock actor reason _ = .ok next at posted
    unfold decisionRow at posted
    simp only [reverseCompletion, done, early, transition, transitions, bind,
      Except.bind, pure, Except.pure, ne_eq, not_true, if_false, posted]
    exact ⟨_, _, rfl⟩

theorem CallEffect.passesChecks {next : TaskInstance} {nextLedger : Ledger}
    {call : ServiceCall}
    (effect : CallEffect clock household definition actor task ledger call next
      nextLedger) : call.PassesChecks household definition actor task ledger := by
  cases effect with
  | completed _ _ paid => exact Or.inr (awardTaskCompletion_isOk_iff.mp ⟨_, paid⟩)
  | sentToReview _ reviewed => exact Or.inl reviewed
  | excusedWhilePending _ long | excusedWhileOverdue _ long => exact long
  | approved _ paid => exact awardTaskCompletion_isOk_iff.mp ⟨_, paid⟩
  | deniedBeforeDue _ said | deniedAfterDue _ said => exact said
  | excuseApproved _ paid => exact awardExcuseIfPolicy_isOk_iff.mp ⟨_, paid⟩
  | excuseDeniedInGrace _ said | excuseDeniedExpired _ said => exact said
  | cancelled => trivial
  | reversedBeforeDue _ _ posted | reversedAfterDue _ _ posted =>
      exact record_isOk_iff.mp ⟨_, posted⟩

/-- A call returns exactly when the instance has the status it expects and its
other checks pass. -/
theorem run_isOk_iff {call : ServiceCall} :
    (∃ next nextLedger, call.run clock household definition actor task ledger =
        .ok (next, nextLedger)) ↔
      call.Accepts task.status ∧
        call.PassesChecks household definition actor task ledger := by
  constructor
  · rintro ⟨next, nextLedger, success⟩
    have effect := run_effect success
    exact ⟨effect.accepts, effect.passesChecks⟩
  · rintro ⟨accepted, passes⟩
    cases call with
    | complete note => exact complete_isOk note accepted passes
    | submitExcuse text => exact submitExcuse_isOk accepted passes
    | review approve comment => exact review_isOk accepted passes
    | resolveExcuse approve comment => exact resolveExcuse_isOk accepted passes
    | cancel reason => exact cancel_isOk reason accepted
    | reverseCompletion reason => exact reverseCompletion_isOk accepted passes

theorem run_error_iff {call : ServiceCall} :
    (∃ raised, call.run clock household definition actor task ledger =
        .error raised) ↔
      ¬ (call.Accepts task.status ∧
        call.PassesChecks household definition actor task ledger) := by
  rw [← @run_isOk_iff clock]
  cases call.run clock household definition actor task ledger with
  | error raised => simp
  | ok outcome =>
      obtain ⟨next, nextLedger⟩ := outcome
      simp

end Success

end KidsChores.Services.StateMachine
