import KidsChores.Library.PyText
import KidsChores.Services.Ledger

/-!
# Task state machine

`app/services/state_machine.py`.  A service call maps the loaded row and the
ledger to the row and the ledger it leaves; raising leaves neither, since the
caller's transaction is rolled back.  `_TRANSITIONS` is a partial function, and
a missing key raises.
-/

set_option autoImplicit false

namespace KidsChores.Services.StateMachine

open KidsChores.Models
open KidsChores.Library.PyDatetime
open KidsChores.Services.Ledger
open KidsChores.Library.PyText

inductive Trigger where
  | completeAuto
  | completeReview
  | excuse
  | duePasses
  | cancel
  | graceExpires
  | approve
  | denyBeforeDue
  | denyAfterDue
  | denyGraceRemaining
  | denyGraceExpired
  | parentReversesBeforeDue
  | parentReversesAfterDue
  deriving DecidableEq, Repr

/-- `_TRANSITIONS`. -/
def transitions : TaskStatus → Trigger → Option TaskStatus
  | .pending, .completeAuto => some .complete
  | .pending, .completeReview => some .reviewPending
  | .pending, .excuse => some .excusePending
  | .pending, .duePasses => some .overdue
  | .pending, .cancel => some .cancelled
  | .overdue, .completeAuto => some .complete
  | .overdue, .completeReview => some .reviewPending
  | .overdue, .excuse => some .excusePending
  | .overdue, .graceExpires => some .missed
  | .overdue, .cancel => some .cancelled
  | .reviewPending, .approve => some .complete
  | .reviewPending, .denyBeforeDue => some .pending
  | .reviewPending, .denyAfterDue => some .overdue
  | .excusePending, .approve => some .excused
  | .excusePending, .denyGraceRemaining => some .overdue
  | .excusePending, .denyGraceExpired => some .missed
  | .complete, .parentReversesBeforeDue => some .overdue
  | .complete, .parentReversesAfterDue => some .missed
  | _, _ => none

/-- `TERMINAL_STATES`. -/
def terminalStates : List TaskStatus := [.missed, .excused, .cancelled]

def transition (status : TaskStatus) (trigger : Trigger) :
    Except ServiceError TaskStatus :=
  match transitions status trigger with
  | some next => .ok next
  | none => .error .keyError

/-- The triggers `_TRANSITIONS` has a row for. -/
def triggers : List Trigger :=
  [.completeAuto, .completeReview, .excuse, .duePasses, .cancel, .graceExpires,
    .approve, .denyBeforeDue, .denyAfterDue, .denyGraceRemaining,
    .denyGraceExpired, .parentReversesBeforeDue, .parentReversesAfterDue]

/-- The table offers a move between the two statuses under some trigger. -/
def Offered (status next : TaskStatus) : Prop :=
  ∃ trigger, transitions status trigger = some next

instance (status next : TaskStatus) : Decidable (Offered status next) :=
  decidable_of_iff (∃ trigger ∈ triggers, transitions status trigger = some next)
    ⟨fun ⟨trigger, _, offered⟩ => ⟨trigger, offered⟩,
      fun ⟨trigger, offered⟩ => ⟨trigger, by cases trigger <;> decide, offered⟩⟩

theorem not_offered_from_terminal {status next : TaskStatus}
    (terminal : status ∈ terminalStates) : ¬ Offered status next := by
  rintro ⟨trigger, offered⟩
  simp only [terminalStates, List.mem_cons, List.not_mem_nil, or_false] at terminal
  rcases terminal with rfl | rfl | rfl <;> cases trigger <;> cases offered

/-! ## Grace period -/

/-- `_suspend_grace`.  `int()` cuts the fraction of a second; the sum is never
negative on the rows the code writes, where this is the floor. -/
def suspendGrace (task : TaskInstance) (now : Instant) : TaskInstance :=
  let counted :=
    if task.gracePausedAt = none then
      let elapsed := max 0 (now - task.dueAt)
      (timedeltaSeconds task.graceElapsedSeconds + elapsed).tdiv 1000000
    else task.graceElapsedSeconds
  { task with graceElapsedSeconds := counted, gracePausedAt := some now }

/-- `_resume_grace`. -/
def resumeGrace (task : TaskInstance) : TaskInstance :=
  { task with gracePausedAt := none }

/-- `grace_remaining`. -/
def graceRemaining (task : TaskInstance) (gracePeriodHours : Int)
    (now : Instant) : Timedelta :=
  let totalGrace := timedeltaHours gracePeriodHours
  let used := timedeltaSeconds task.graceElapsedSeconds
  if task.gracePausedAt = none then
    let extra := max 0 (now - task.dueAt - used)
    totalGrace - (used + extra)
  else totalGrace - used

/-! ## The service calls -/

def complete (clock : Clock) (definition : TaskDefinition) (actor : Member)
    (note : Option String) (task : TaskInstance) (ledger : Ledger) :
    Except ServiceError (TaskInstance × Ledger) := do
  if task.status ≠ .pending ∧ task.status ≠ .overdue then
    throw (.invalidTransition ("Cannot complete a task in status '" ++
      task.status.value ++ "'. Task must be pending or overdue."))
  let task := { task with
    completedAt := some clock.now
    completionNote := note }
  let trigger :=
    if definition.requiresReview then Trigger.completeReview
    else Trigger.completeAuto
  let newStatus ← transition task.status trigger
  let task := { task with status := newStatus }
  if newStatus = .complete then
    let ledger ← awardTaskCompletion ledger clock definition actor task
    return (task, ledger)
  else
    return (task, ledger)

def submitExcuse (clock : Clock) (excuseText : String) (task : TaskInstance)
    (ledger : Ledger) : Except ServiceError (TaskInstance × Ledger) := do
  if task.status ≠ .pending ∧ task.status ≠ .overdue then
    throw (.invalidTransition ("Cannot submit excuse for task in status '" ++
      task.status.value ++ "'."))
  if (strip excuseText).length < 10 then
    throw (.valueError "Excuse must be at least 10 characters.")
  let task := { task with
    excuseText := some excuseText
    excuseSubmittedAt := some clock.now }
  let task :=
    if task.status = .overdue then suspendGrace task clock.now else task
  let newStatus ← transition task.status .excuse
  return ({ task with status := newStatus }, ledger)

def review (clock : Clock) (definition : TaskDefinition) (reviewer : Member)
    (approve : Bool) (comment : Option String) (task : TaskInstance)
    (ledger : Ledger) : Except ServiceError (TaskInstance × Ledger) := do
  if task.status ≠ .reviewPending then
    throw (.invalidTransition ("Task is not in review_pending (current: '" ++
      task.status.value ++ "')."))
  if ¬ approve ∧ ¬ truthy comment then
    throw (.valueError "A comment is required when denying a completion.")
  let task := { task with
    reviewedBy := some reviewer.id
    reviewedAt := some clock.now
    reviewComment := comment }
  if approve then
    let newStatus ← transition .reviewPending .approve
    let task := { task with status := newStatus }
    let ledger ← awardTaskCompletion ledger clock definition reviewer task
    return (task, ledger)
  else
    let trigger :=
      if clock.now < task.dueAt then Trigger.denyBeforeDue
      else Trigger.denyAfterDue
    let newStatus ← transition .reviewPending trigger
    let task := { task with status := newStatus }
    let task := if task.status = .overdue then resumeGrace task else task
    return (task, ledger)

def resolveExcuse (clock : Clock) (definition : TaskDefinition)
    (reviewer : Member) (household : Household) (approve : Bool)
    (comment : Option String) (task : TaskInstance) (ledger : Ledger) :
    Except ServiceError (TaskInstance × Ledger) := do
  if task.status ≠ .excusePending then
    throw (.invalidTransition ("Task is not in excuse_pending (current: '" ++
      task.status.value ++ "')."))
  if ¬ approve ∧ ¬ truthy comment then
    throw (.valueError "A comment is required when denying an excuse.")
  let task := { task with
    reviewedBy := some reviewer.id
    reviewedAt := some clock.now
    reviewComment := comment }
  if approve then
    let newStatus ← transition .excusePending .approve
    let task := { task with status := newStatus }
    let ledger ←
      awardExcuseIfPolicy ledger clock definition reviewer household task
    return (task, ledger)
  else
    let task := resumeGrace task
    let remaining := graceRemaining task household.gracePeriodHours clock.now
    let trigger :=
      if remaining > 0 then Trigger.denyGraceRemaining
      else Trigger.denyGraceExpired
    let newStatus ← transition .excusePending trigger
    return ({ task with status := newStatus }, ledger)

def cancel (clock : Clock) (actor : Member) (reason : Option String)
    (task : TaskInstance) (ledger : Ledger) :
    Except ServiceError (TaskInstance × Ledger) := do
  if task.status ≠ .pending ∧ task.status ≠ .overdue then
    throw (.invalidTransition ("Cannot cancel a task in status '" ++
      task.status.value ++ "'. Task must be pending or overdue."))
  let newStatus ← transition task.status .cancel
  return ({ task with
    status := newStatus
    reviewedBy := some actor.id
    reviewedAt := some clock.now
    reviewComment := reason }, ledger)

def reverseCompletion (clock : Clock) (reviewer : Member) (reason : String)
    (task : TaskInstance) (ledger : Ledger) :
    Except ServiceError (TaskInstance × Ledger) := do
  if task.status ≠ .complete then
    throw (.invalidTransition "Can only reverse a completed task.")
  let trigger :=
    if clock.now < task.dueAt then Trigger.parentReversesBeforeDue
    else Trigger.parentReversesAfterDue
  let newStatus ← transition .complete trigger
  let task := { task with
    status := newStatus
    reviewedBy := some reviewer.id
    reviewedAt := some clock.now
    reviewComment := some reason }
  let ledger ← writeReversal ledger clock reviewer reason task
  return (task, ledger)

/-! ## One call of the service -/

inductive ServiceCall where
  | complete (note : Option String)
  | submitExcuse (excuseText : String)
  | review (approve : Bool) (comment : Option String)
  | resolveExcuse (approve : Bool) (comment : Option String)
  | cancel (reason : Option String)
  | reverseCompletion (reason : String)
  deriving DecidableEq, Repr

def ServiceCall.run (clock : Clock) (household : Household)
    (definition : TaskDefinition) (actor : Member) (task : TaskInstance)
    (ledger : Ledger) : ServiceCall → Except ServiceError (TaskInstance × Ledger)
  | .complete note =>
      StateMachine.complete clock definition actor note task ledger
  | .submitExcuse excuseText =>
      StateMachine.submitExcuse clock excuseText task ledger
  | .review approve comment =>
      StateMachine.review clock definition actor approve comment task ledger
  | .resolveExcuse approve comment =>
      StateMachine.resolveExcuse clock definition actor household approve
        comment task ledger
  | .cancel reason => StateMachine.cancel clock actor reason task ledger
  | .reverseCompletion reason =>
      StateMachine.reverseCompletion clock actor reason task ledger

end KidsChores.Services.StateMachine
