import KidsChores.Properties.ParentDelay
import KidsChores.Routers.Tasks
import KidsChores.Services.CallSuccess

/-!
# Calls before and after the sweep

The interactive calls look at the stored status only, the nightly job at the
clock.  Whether the job has reached an instance shows in two places: an instance
past its grace can still be acted on until it is swept, and an excuse counts the
time overdue only on an instance that was.
-/

set_option autoImplicit false

namespace KidsChores.Properties

open KidsChores.Models
open KidsChores.Library.PyDatetime
open KidsChores.Library.PyText
open KidsChores.Services.StateMachine
open KidsChores.Workers.GenerateInstances
open KidsChores.Lifecycle
open KidsChores.Routers.Tasks

/-- The calls made on an open instance. -/
inductive OpenCall where
  | complete (note : Option String)
  | submitExcuse (excuseText : String)
  | cancel (reason : Option String)
  deriving DecidableEq, Repr

def OpenCall.call : OpenCall → ServiceCall
  | .complete note => .complete note
  | .submitExcuse excuseText => .submitExcuse excuseText
  | .cancel reason => .cancel reason

/-- Both sweeps of a run at `now` on an instance of a live definition. -/
def nightlyRule (gracePeriodHours : Int) (now : Instant) (task : TaskInstance) :
    TaskInstance :=
  sweepRow [task.definitionId] gracePeriodHours ⟨now, now, now⟩ task

/-- The status after a parent's denial, where there is something to deny. -/
def statusAfterDenial (clock : Clock) (household : Household)
    (definition : TaskDefinition) (parent : Member) (comment : Option String)
    (task : TaskInstance) (ledger : Ledger) : Option TaskStatus :=
  match reviewCall clock false comment household definition parent task ledger with
  | some (.ok (result, _)) => some result.status
  | _ => none

/-- Both calls fail, or both return with one status, one ledger, and one status
after whatever denial follows. -/
def SameOutcome (now : Instant) (household : Household) (definition : TaskDefinition) :
    Except ServiceError (TaskInstance × Ledger) →
      Except ServiceError (TaskInstance × Ledger) → Prop
  | .ok (first, firstLedger), .ok (second, secondLedger) =>
      first.status = second.status ∧ firstLedger.entries = secondLedger.entries ∧
        ∀ clock : Clock, now ≤ clock.now → ∀ parent comment,
          statusAfterDenial clock household definition parent comment first
              firstLedger =
            statusAfterDenial clock household definition parent comment second
              secondLedger
  | .error _, .error _ => True
  | _, _ => False

def PastGrace (gracePeriodHours : Int) (now : Instant) (task : TaskInstance) : Prop :=
  Actionable task.status ∧ (task.status = .pending → task.dueAt ≤ now) ∧
    graceRemaining task gracePeriodHours now ≤ 0

/-- The instance is not past its grace unless the call is refused anyway, and an
excuse for an instance that is due leaves grace also when the time since is
counted on top. -/
structure SweepHarmless (clock : Clock) (household : Household)
    (definition : TaskDefinition) (actor : Member) (call : OpenCall)
    (task : TaskInstance) (ledger : Ledger) : Prop where
  refusedAnyway : PastGrace household.gracePeriodHours clock.now task →
    ¬ call.call.PassesChecks household definition actor task ledger
  graceAfterExcuse : ∀ text, call = .submitExcuse text → 10 ≤ (strip text).length →
    task.status = .pending → task.dueAt ≤ clock.now → task.gracePausedAt = none →
    0 < graceRemaining task household.gracePeriodHours clock.now →
    0 < graceRemaining (resumeGrace (suspendGrace task clock.now))
      household.gracePeriodHours clock.now

/-! ## The nightly rule -/

theorem nightlyRule_missed {hours : Int} {now : Instant} {task : TaskInstance}
    (past : PastGrace hours now task) :
    nightlyRule hours now task = { task with status := .missed } := by
  obtain ⟨status | status, due, expired⟩ := past
  · have overdue : graceRemaining { task with status := .overdue } hours now ≤ 0 :=
      expired
    simp [nightlyRule, sweepRow, status, due status, overdue]
  · simp [nightlyRule, sweepRow, status, expired]

theorem nightlyRule_overdue {hours : Int} {now : Instant} {task : TaskInstance}
    (pending : task.status = .pending) (due : task.dueAt ≤ now)
    (left : 0 < graceRemaining task hours now) :
    nightlyRule hours now task = { task with status := .overdue } := by
  have overdue : ¬ graceRemaining { task with status := .overdue } hours now ≤ 0 :=
    Int.not_le.mpr left
  simp [nightlyRule, sweepRow, pending, due, overdue]

theorem nightlyRule_same {hours : Int} {now : Instant} {task : TaskInstance}
    (inGrace : ¬ PastGrace hours now task)
    (notDue : ¬ (task.status = .pending ∧ task.dueAt ≤ now)) :
    nightlyRule hours now task = task := by
  have stays : ¬ (task.status = .overdue ∧ graceRemaining task hours now ≤ 0) := by
    rintro ⟨overdue, expired⟩
    refine inGrace ⟨Or.inr overdue, fun pending => ?_, expired⟩
    rw [overdue] at pending
    cases pending
  simp only [nightlyRule, sweepRow, List.mem_singleton, and_true, notDue, if_false,
    true_and, stays]

/-! ## The calls on an instance that turned overdue -/

section Calls

variable {clock : Clock} {household : Household} {definition : TaskDefinition}
variable {actor : Member} {task : TaskInstance} {ledger : Ledger}

theorem complete_overdue (note : Option String) (pending : task.status = .pending) :
    complete clock definition actor note { task with status := .overdue } ledger =
      complete clock definition actor note task ledger := by
  cases reviewed : definition.requiresReview <;>
    simp [complete, pending, reviewed, transition, transitions, bind, Except.bind]

theorem cancel_overdue (reason : Option String) (pending : task.status = .pending) :
    cancel clock actor reason { task with status := .overdue } ledger =
      cancel clock actor reason task ledger := by
  simp [cancel, pending, transition, transitions, bind, Except.bind]

theorem submitExcuse_pending {text : String} (pending : task.status = .pending)
    (long : 10 ≤ (strip text).length) :
    submitExcuse clock text task ledger = .ok (excuseRow clock task text, ledger) := by
  have notShort : ¬ (strip text).length < 10 := Nat.not_lt.mpr long
  simp [submitExcuse, pending, notShort, transition, transitions, bind, Except.bind, pure,
    Except.pure, excuseRow]

theorem submitExcuse_overdue {text : String} (overdue : task.status = .overdue)
    (long : 10 ≤ (strip text).length) :
    submitExcuse clock text task ledger =
      .ok (excuseRow clock (suspendGrace task clock.now) text, ledger) := by
  have notShort : ¬ (strip text).length < 10 := Nat.not_lt.mpr long
  simp [submitExcuse, overdue, notShort, suspendGrace, transition, transitions, bind,
    Except.bind, pure, Except.pure, excuseRow]

/-- A submitted excuse is denied to overdue while grace is left. -/
theorem statusAfterDenial_excuse {parent : Member} {comment : Option String}
    (submitted : task.status = .excusePending) :
    statusAfterDenial clock household definition parent comment task ledger =
      if truthy comment then
        some (if 0 < graceRemaining (resumeGrace task) household.gracePeriodHours
          clock.now then .overdue else .missed)
      else none := by
  have notReview : task.status ≠ .reviewPending := by
    rw [submitted]
    decide
  unfold statusAfterDenial reviewCall
  rw [if_neg notReview, if_pos submitted]
  cases said : truthy comment with
  | true =>
      rw [resolveExcuse_denied submitted said]
      rfl
  | false =>
      simp [resolveExcuse, submitted, said, bind, Except.bind, throw, throwThe,
        MonadExceptOf.throw]

end Calls

theorem SameOutcome.refl (now : Instant) (household : Household)
    (definition : TaskDefinition)
    (outcome : Except ServiceError (TaskInstance × Ledger)) :
    SameOutcome now household definition outcome outcome := by
  cases outcome with
  | error raised => trivial
  | ok result => exact ⟨rfl, rfl, fun _ _ _ _ => rfl⟩

theorem graceRemaining_resumed (task : TaskInstance) (hours : Int) (now : Instant) :
    graceRemaining (resumeGrace task) hours now =
      timedeltaHours hours - max (timedeltaSeconds task.graceElapsedSeconds)
        (now - task.dueAt) :=
  graceRemaining_running rfl

theorem suspendGrace_paused {task : TaskInstance} {now : Instant}
    (paused : task.gracePausedAt ≠ none) :
    (suspendGrace task now).graceElapsedSeconds = task.graceElapsedSeconds := by
  simp [suspendGrace, paused]

/-! ## Exactly when the sweep does not show -/

section Exact

variable {clock : Clock} {household : Household} {definition : TaskDefinition}
variable {task : TaskInstance} {ledger : Ledger}

/-- The grace after a denial depends on the time put down and on the time since
the due time only. -/
theorem denial_after_excuse {later : Clock} {parent : Member}
    {comment : Option String} {text : String} (row : TaskInstance) :
    statusAfterDenial later household definition parent comment
        (excuseRow clock row text) ledger =
      if truthy comment then
        some (if 0 < timedeltaHours household.gracePeriodHours -
          max (timedeltaSeconds row.graceElapsedSeconds) (later.now - row.dueAt)
          then .overdue else .missed)
      else none := by
  rw [statusAfterDenial_excuse (excuseRow_status clock row text),
    graceRemaining_resumed]
  rfl

theorem sameOutcome_excuse {text : String}
    (left : 0 < graceRemaining task household.gracePeriodHours clock.now) :
    SameOutcome clock.now household definition
        (.ok (excuseRow clock task text, ledger))
        (.ok (excuseRow clock
          (suspendGrace { task with status := .overdue } clock.now) text, ledger)) ↔
      (task.gracePausedAt = none →
        0 < graceRemaining (resumeGrace (suspendGrace task clock.now))
          household.gracePeriodHours clock.now) := by
  have putDown : (suspendGrace { task with status := .overdue }
      clock.now).graceElapsedSeconds =
        (suspendGrace task clock.now).graceElapsedSeconds := rfl
  have sameDue : (suspendGrace task clock.now).dueAt = task.dueAt := rfl
  have sameDue' : (suspendGrace { task with status := .overdue } clock.now).dueAt =
      task.dueAt := rfl
  constructor
  · intro same running
    have now := same.2.2 clock (Int.le_refl _) sampleParent (some "no")
    have said : truthy (some "no") = true := by decide
    rw [graceRemaining_running running, graceUsed] at left
    rw [denial_after_excuse, denial_after_excuse, if_pos said, if_pos said, putDown,
      sameDue', if_pos left] at now
    rw [graceRemaining_resumed, sameDue]
    by_contra none
    rw [if_neg none] at now
    cases now
  · intro kept
    refine ⟨rfl, rfl, ?_⟩
    intro later order parent comment
    rw [denial_after_excuse, denial_after_excuse, putDown, sameDue']
    by_cases running : task.gracePausedAt = none
    · have keeps := kept running
      rw [graceRemaining_running running, graceUsed] at left
      rw [graceRemaining_resumed, sameDue] at keeps
      have sameSide : 0 < timedeltaHours household.gracePeriodHours -
            max (timedeltaSeconds task.graceElapsedSeconds) (later.now - task.dueAt) ↔
          0 < timedeltaHours household.gracePeriodHours -
            max (timedeltaSeconds (suspendGrace task clock.now).graceElapsedSeconds)
              (later.now - task.dueAt) := by
        dsimp only [Instant, Timedelta] at *
        omega
      simp only [sameSide]
    · rw [suspendGrace_paused running]

theorem OpenCall.accepts_iff {call : OpenCall} {status : TaskStatus} :
    call.call.Accepts status ↔ Actionable status := by
  cases call <;> exact Iff.rfl

theorem sameOutcome_error {now : Instant} {raised : ServiceError}
    {outcome : Except ServiceError (TaskInstance × Ledger)} :
    SameOutcome now household definition outcome (.error raised) ↔
      ∃ other, outcome = .error other := by
  cases outcome with
  | error other => exact iff_of_true trivial ⟨other, rfl⟩
  | ok result => exact iff_of_false id (by simp)

theorem sameOutcome_past {actor : Member} {call : OpenCall}
    (past : PastGrace household.gracePeriodHours clock.now task) :
    SameOutcome clock.now household definition
        (call.call.run clock household definition actor task ledger)
        (call.call.run clock household definition actor { task with status := .missed }
          ledger) ↔
      ¬ call.call.PassesChecks household definition actor task ledger := by
  have refused : ¬ (call.call.Accepts ({ task with status := .missed } :
        TaskInstance).status ∧
      call.call.PassesChecks household definition actor
        { task with status := .missed } ledger) := by
    rintro ⟨accepted, _⟩
    have closed : ¬ Actionable .missed := by decide
    exact closed (OpenCall.accepts_iff.mp accepted)
  obtain ⟨raised, fails⟩ := (@run_error_iff clock _ _ _ _ _ _).mpr refused
  have accepted : call.call.Accepts task.status := OpenCall.accepts_iff.mpr past.1
  rw [fails, sameOutcome_error, run_error_iff, and_iff_right accepted]

theorem sameOutcome_overdue_excuse {actor : Member} {text : String}
    (pending : task.status = .pending)
    (left : 0 < graceRemaining task household.gracePeriodHours clock.now) :
    SameOutcome clock.now household definition
        ((ServiceCall.submitExcuse text).run clock household definition actor task ledger)
        ((ServiceCall.submitExcuse text).run clock household definition actor
          { task with status := .overdue } ledger) ↔
      (10 ≤ (strip text).length → task.gracePausedAt = none →
        0 < graceRemaining (resumeGrace (suspendGrace task clock.now))
          household.gracePeriodHours clock.now) := by
  by_cases long : 10 ≤ (strip text).length
  · simp only [ServiceCall.run]
    rw [submitExcuse_pending pending long, submitExcuse_overdue rfl long,
      sameOutcome_excuse left]
    exact (imp_iff_right long).symm
  · have short : ∀ row, ¬ ((ServiceCall.submitExcuse text).Accepts row.status ∧
        (ServiceCall.submitExcuse text).PassesChecks household definition actor
          row ledger) := fun _ both => long both.2
    obtain ⟨raised, fails⟩ := (@run_error_iff clock _ _ _ _ _ _).mpr (short task)
    obtain ⟨raised', fails'⟩ := (@run_error_iff clock _ _ _ _ _ _).mpr
      (short { task with status := .overdue })
    rw [fails, fails']
    exact iff_of_true trivial fun longer => (long longer).elim

/-- Whether the nightly job has been at the instance makes no difference exactly
when the instance is not past its grace while the call would go through, and
counting the time overdue does not use up the grace of an excuse. -/
theorem sweep_unobservable_iff (clock : Clock) (household : Household)
    (definition : TaskDefinition) (actor : Member) (call : OpenCall)
    (task : TaskInstance) (ledger : Ledger) :
    SameOutcome clock.now household definition
        (call.call.run clock household definition actor task ledger)
        (call.call.run clock household definition actor
          (nightlyRule household.gracePeriodHours clock.now task) ledger) ↔
      SweepHarmless clock household definition actor call task ledger := by
  by_cases past : PastGrace household.gracePeriodHours clock.now task
  · rw [nightlyRule_missed past, sameOutcome_past past]
    constructor
    · intro refused
      refine ⟨fun _ => refused, ?_⟩
      intro _ _ _ _ _ _ left
      exact absurd past.2.2 (Int.not_le.mpr left)
    · exact fun harmless => harmless.refusedAnyway past
  · by_cases dueNow : task.status = .pending ∧ task.dueAt ≤ clock.now
    · obtain ⟨pending, due⟩ := dueNow
      have left : 0 < graceRemaining task household.gracePeriodHours clock.now := by
        by_contra expired
        exact past ⟨Or.inl pending, fun _ => due, Int.not_lt.mp expired⟩
      rw [nightlyRule_overdue pending due left]
      cases call with
      | complete note =>
          simp only [OpenCall.call, ServiceCall.run, complete_overdue note pending]
          refine iff_of_true (SameOutcome.refl ..) ⟨fun expired => (past expired).elim, ?_⟩
          intro text other
          cases other
      | cancel reason =>
          simp only [OpenCall.call, ServiceCall.run, cancel_overdue reason pending]
          refine iff_of_true (SameOutcome.refl ..) ⟨fun expired => (past expired).elim, ?_⟩
          intro text other
          cases other
      | submitExcuse text =>
          refine (sameOutcome_overdue_excuse pending left).trans ?_
          constructor
          · intro kept
            refine ⟨fun expired => (past expired).elim, ?_⟩
            intro other same long _ _ running _
            cases same
            exact kept long running
          · intro harmless long running
            exact harmless.graceAfterExcuse text rfl long pending due running left
    · rw [nightlyRule_same past dueNow]
      refine iff_of_true (SameOutcome.refl ..) ⟨fun expired => (past expired).elim, ?_⟩
      intro _ _ _ pending due
      exact (dueNow ⟨pending, due⟩).elim

theorem SameOutcome.isOk {now : Instant}
    {first second : Except ServiceError (TaskInstance × Ledger)}
    (same : SameOutcome now household definition first second) :
    first.isOk = second.isOk := by
  cases first with
  | error raised =>
      cases second with
      | error other => rfl
      | ok result => exact same.elim
  | ok result =>
      cases second with
      | error other => exact same.elim
      | ok other => rfl

end Exact

/-- An hour after the end of its grace, an instance the job has not reached is
completed and paid, and one it has reached is refused. -/
theorem late_completion_depends_on_sweep :
    let late : Clock := ⟨timedeltaHours 25, timedeltaHours 25⟩
    let stored := complete late sampleDefinition sampleTeen none sampleTask Ledger.empty
    let swept := complete late sampleDefinition sampleTeen none
      (nightlyRule sampleHousehold.gracePeriodHours late.now sampleTask) Ledger.empty
    stored.isOk = true ∧ swept.isOk = false ∧
      ¬ SameOutcome late.now sampleHousehold sampleDefinition stored swept := by
  intro late stored swept
  have completed : stored.isOk = true := by decide +kernel
  have refused : swept.isOk = false := by decide +kernel
  refine ⟨completed, refused, fun same => ?_⟩
  have differs := same.isOk
  rw [completed, refused] at differs
  cases differs

end KidsChores.Properties
