import KidsChores.Properties.GraceClock
import KidsChores.Services.CallSuccess

/-!
# What a parent's delay does to the grace clock

An instance is suspended, by an excuse or by a completion that needs a review,
and later denied.  The clock of a resumed instance is read from its due time
again, so the time the parent took is used up all the same.
-/

set_option autoImplicit false

namespace KidsChores.Properties

open KidsChores.Models
open KidsChores.Library
open KidsChores.Library.PyDatetime
open KidsChores.Library.PyText
open KidsChores.Library.Runs
open KidsChores.Services.StateMachine
open KidsChores.Workers.GenerateInstances
open KidsChores.Lifecycle

inductive Pause where
  | excuse (text : String)
  | completion (note : Option String)
  deriving DecidableEq, Repr

namespace Pause

def submit : Pause → ServiceCall
  | .excuse text => .submitExcuse text
  | .completion note => .complete note

def deny (comment : Option String) : Pause → ServiceCall
  | .excuse _ => .resolveExcuse false comment
  | .completion _ => .review false comment

def ByExcuse : Pause → Prop
  | .excuse _ => True
  | .completion _ => False

instance (pause : Pause) : Decidable pause.ByExcuse := by
  cases pause <;> unfold ByExcuse <;> infer_instance

end Pause

structure Parties where
  household : Household
  definition : TaskDefinition
  teen : Member
  parent : Member
  comment : Option String

/-- The instance after a submission and its denial, each at its own time. -/
def suspendAndDeny (parties : Parties) (pause : Pause) (ledger : Ledger)
    (task : TaskInstance) (submitted denied : Clock) :
    Except ServiceError TaskInstance :=
  match pause.submit.run submitted parties.household parties.definition
      parties.teen task ledger with
  | .error raised => .error raised
  | .ok (suspended, posted) =>
      match (pause.deny parties.comment).run denied parties.household
          parties.definition parties.parent suspended posted with
      | .error raised => .error raised
      | .ok (result, _) => .ok result

/-- The denial leaves the grace the instance had when it was submitted, up to a
second, and an excuse is denied to the status it would have had at once. -/
structure PauseNeutral (parties : Parties) (pause : Pause) (ledger : Ledger)
    (task : TaskInstance) (submitted denied : Clock) (result : TaskInstance) :
    Prop where
  notLess : graceRemaining task parties.household.gracePeriodHours submitted.now <
    graceRemaining result parties.household.gracePeriodHours denied.now +
      timedeltaSeconds 1
  notMore : graceRemaining result parties.household.gracePeriodHours denied.now <
    graceRemaining task parties.household.gracePeriodHours submitted.now +
      timedeltaSeconds 1
  sameOutcome : pause.ByExcuse →
    (suspendAndDeny parties pause ledger task submitted submitted).map
      TaskInstance.status = .ok result.status

/-! ## The condition -/

def timeOverdue (task : TaskInstance) (now : Instant) : Timedelta :=
  max 0 (now - task.dueAt)

def graceUsed (task : TaskInstance) (now : Instant) : Timedelta :=
  max (timedeltaSeconds task.graceElapsedSeconds) (now - task.dueAt)

/-- The grace a suspension at `now` puts down as used. -/
def gracePutDown (task : TaskInstance) (now : Instant) : Timedelta :=
  if task.status = .overdue then
    timedeltaSeconds task.graceElapsedSeconds + timeOverdue task now -
      timeOverdue task now % timedeltaSeconds 1
  else timedeltaSeconds task.graceElapsedSeconds

/-- The denial comes before the due time has receded past the grace used; an
excuse does not count an overdue stretch on top of an earlier one; and the end
of the grace period does not fall between submission and denial. -/
structure DenialInTime (household : Household) (pause : Pause)
    (task : TaskInstance) (submitted denied : Instant) : Prop where
  prompt : denied - task.dueAt < graceUsed task submitted + timedeltaSeconds 1
  countedOnce : pause.ByExcuse → task.status = .overdue →
    min (timedeltaSeconds task.graceElapsedSeconds) (timeOverdue task submitted) <
      timedeltaSeconds 1 + timeOverdue task submitted % timedeltaSeconds 1
  sameSide : pause.ByExcuse →
    gracePutDown task submitted < timedeltaHours household.gracePeriodHours →
      submitted < task.dueAt + timedeltaHours household.gracePeriodHours →
        denied < task.dueAt + timedeltaHours household.gracePeriodHours

/-! ## The grace left on each path -/

theorem graceRemaining_running {task : TaskInstance} {hours : Int}
    {now : Instant} (running : task.gracePausedAt = none) :
    graceRemaining task hours now = timedeltaHours hours - graceUsed task now := by
  unfold graceRemaining graceUsed
  simp only [running, if_true]
  dsimp only [Instant, Timedelta] at *
  omega

theorem suspendGrace_seconds {task : TaskInstance} {now : Instant}
    (running : task.gracePausedAt = none)
    (counted : 0 ≤ task.graceElapsedSeconds) (overdue : task.status = .overdue) :
    timedeltaSeconds (suspendGrace task now).graceElapsedSeconds =
      gracePutDown task now := by
  unfold suspendGrace gracePutDown timeOverdue timedeltaSeconds
  simp only [running, if_true, overdue]
  dsimp only [Instant, Timedelta] at *
  rw [Int.tdiv_eq_ediv_of_nonneg (by omega)]
  omega

theorem review_denied {clock : Clock} (household : Household)
    {definition : TaskDefinition} {actor : Member} {comment : Option String}
    {task result : TaskInstance} {ledger nextLedger : Ledger}
    (running : task.gracePausedAt = none)
    (denied : review clock definition actor false comment task ledger =
      .ok (result, nextLedger)) :
    result.gracePausedAt = none ∧
      result.graceElapsedSeconds = task.graceElapsedSeconds ∧
      result.dueAt = task.dueAt := by
  have effect : CallEffect clock household definition actor task ledger
      (.review false comment) result nextLedger := review_effect denied
  cases effect with
  | deniedBeforeDue inReview said early => exact ⟨running, rfl, rfl⟩
  | deniedAfterDue inReview said late => exact ⟨rfl, rfl, rfl⟩

/-! ## Suspensions -/

section Suspended

variable {parties : Parties} {ledger : Ledger} {task result : TaskInstance}
variable {submitted denied : Clock}

structure ExcuseDenied (parties : Parties) (task result : TaskInstance)
    (submitted denied : Clock) : Prop where
  remaining : graceRemaining result parties.household.gracePeriodHours denied.now =
    timedeltaHours parties.household.gracePeriodHours -
      max (gracePutDown task submitted.now) (denied.now - task.dueAt)
  status : result.status = if 0 < timedeltaHours parties.household.gracePeriodHours -
      max (gracePutDown task submitted.now) (denied.now - task.dueAt) then .overdue
    else .missed

theorem excuse_denied {text : String} (actionable : Actionable task.status)
    (running : task.gracePausedAt = none)
    (counted : 0 ≤ task.graceElapsedSeconds) (long : 10 ≤ (strip text).length)
    (said : truthy parties.comment = true) :
    ∃ result, suspendAndDeny parties (.excuse text) ledger task submitted denied =
        .ok result ∧
      ExcuseDenied parties task result submitted denied := by
  obtain ⟨suspended, accepted, excusePending, sameDue, putDown⟩ :
      ∃ suspended, submitExcuse submitted text task ledger =
          .ok (suspended, ledger) ∧
        suspended.status = .excusePending ∧ suspended.dueAt = task.dueAt ∧
        timedeltaSeconds suspended.graceElapsedSeconds =
          gracePutDown task submitted.now := by
    have short : ¬ (strip text).length < 10 := Nat.not_lt.mpr long
    rcases actionable with pending | overdue
    · refine ⟨excuseRow submitted task text, ?_, rfl, rfl, ?_⟩
      · simp [submitExcuse, pending, short, transition, transitions, excuseRow,
          bind, Except.bind, pure, Except.pure]
      · simp [gracePutDown, pending, excuseRow]
    · refine ⟨excuseRow submitted (suspendGrace task submitted.now) text, ?_, rfl,
        rfl, suspendGrace_seconds running counted overdue⟩
      simp [submitExcuse, overdue, short, transition, transitions, excuseRow,
        suspendGrace, bind, Except.bind, pure, Except.pure]
  have resumed : graceRemaining (resumeGrace suspended)
      parties.household.gracePeriodHours denied.now =
        timedeltaHours parties.household.gracePeriodHours -
          max (gracePutDown task submitted.now) (denied.now - task.dueAt) := by
    rw [graceRemaining_running rfl]
    simp only [graceUsed, resumeGrace, putDown, sameDue]
  refine ⟨decisionRow denied parties.parent (resumeGrace suspended) parties.comment
    (if 0 < graceRemaining (resumeGrace suspended)
        parties.household.gracePeriodHours denied.now then .overdue else .missed),
    ?_, ?_, ?_⟩
  · simp only [suspendAndDeny, Pause.submit, Pause.deny, ServiceCall.run, accepted,
      resolveExcuse_denied excusePending said]
  · rw [graceRemaining_running rfl]
    simp only [graceUsed, decisionRow, resumeGrace, putDown, sameDue]
  · rw [resumed]
    rfl

theorem suspendAndDeny_ok {pause : Pause}
    (returned : suspendAndDeny parties pause ledger task submitted denied = .ok result) :
    ∃ suspended posted later,
      CallEffect submitted parties.household parties.definition parties.teen task ledger
        pause.submit suspended posted ∧
      (pause.deny parties.comment).run denied parties.household parties.definition
        parties.parent suspended posted = .ok (result, later) := by
  unfold suspendAndDeny at returned
  split at returned
  · cases returned
  · rename_i suspended posted accepted
    split at returned
    · cases returned
    · rename_i row later resolved
      cases returned
      exact ⟨suspended, posted, later, run_effect accepted, resolved⟩

theorem excuse_checks {text : String}
    (returned : suspendAndDeny parties (.excuse text) ledger task submitted denied =
      .ok result) :
    Actionable task.status ∧ 10 ≤ (strip text).length ∧
      truthy parties.comment = true := by
  obtain ⟨suspended, posted, later, submission, resolved⟩ := suspendAndDeny_ok returned
  have denial : CallEffect denied parties.household parties.definition parties.parent
      suspended posted (.resolveExcuse false parties.comment) result later :=
    run_effect resolved
  have said : truthy parties.comment = true := by
    cases denial with
    | excuseDeniedInGrace submitted said remaining => exact said
    | excuseDeniedExpired submitted said expired => exact said
  cases submission with
  | excusedWhilePending pending long => exact ⟨Or.inl pending, long, said⟩
  | excusedWhileOverdue overdue long => exact ⟨Or.inr overdue, long, said⟩

theorem completion_denied {note : Option String}
    (running : task.gracePausedAt = none)
    (returned : suspendAndDeny parties (.completion note) ledger task submitted
      denied = .ok result) :
    graceRemaining result parties.household.gracePeriodHours denied.now =
      timedeltaHours parties.household.gracePeriodHours -
        graceUsed task denied.now := by
  obtain ⟨suspended, posted, later, submission, reviewed⟩ := suspendAndDeny_ok returned
  have same : suspended.gracePausedAt = none ∧
      suspended.graceElapsedSeconds = task.graceElapsedSeconds ∧
      suspended.dueAt = task.dueAt := by
    cases submission with
    | completed actionable auto paid => exact ⟨running, rfl, rfl⟩
    | sentToReview actionable reviewed => exact ⟨running, rfl, rfl⟩
  have kept := review_denied parties.household same.1 reviewed
  rw [graceRemaining_running kept.1]
  simp only [graceUsed, kept.2, same.2]

end Suspended

/-! ## Both paths -/

section Arithmetic

variable {task : TaskInstance} {hours : Int} {submitted denied : Instant}

/-- The second suspension of an overdue stretch is what can put down too much. -/
theorem gracePutDown_lt_iff :
    gracePutDown task submitted < graceUsed task submitted + timedeltaSeconds 1 ↔
      (task.status = .overdue →
        min (timedeltaSeconds task.graceElapsedSeconds) (timeOverdue task submitted) <
          timedeltaSeconds 1 + timeOverdue task submitted % timedeltaSeconds 1) := by
  unfold gracePutDown graceUsed timeOverdue timedeltaSeconds
  dsimp only [Instant, Timedelta]
  by_cases overdue : task.status = .overdue
  · simp only [overdue, if_true, forall_const]
    omega
  · simp only [overdue, if_false, false_implies, iff_true]
    omega

theorem graceUsed_le (order : submitted ≤ denied) :
    graceUsed task submitted <
      max (gracePutDown task submitted) (denied - task.dueAt) +
        timedeltaSeconds 1 := by
  unfold gracePutDown graceUsed timeOverdue timedeltaSeconds
  dsimp only [Instant, Timedelta] at *
  split <;> omega

theorem excuse_outcome_iff (order : submitted ≤ denied) :
    ((0 < timedeltaHours hours -
          max (gracePutDown task submitted) (submitted - task.dueAt)) ↔
        0 < timedeltaHours hours -
          max (gracePutDown task submitted) (denied - task.dueAt)) ↔
      (gracePutDown task submitted < timedeltaHours hours →
        submitted < task.dueAt + timedeltaHours hours →
          denied < task.dueAt + timedeltaHours hours) := by
  generalize gracePutDown task submitted = putDown
  dsimp only [Instant, Timedelta] at *
  omega

end Arithmetic

theorem status_eq_iff {first second : Prop} [Decidable first] [Decidable second] :
    (if first then TaskStatus.overdue else .missed) =
        (if second then TaskStatus.overdue else .missed) ↔ (first ↔ second) := by
  by_cases holds : first <;> by_cases other : second <;> simp [holds, other]

section Neutral

variable {parties : Parties} {ledger : Ledger} {task result : TaskInstance}
variable {submitted denied : Clock}

/-- A denied completion has used what its clock shows at the denial. -/
theorem completion_neutral_iff {note : Option String}
    (running : task.gracePausedAt = none) (order : submitted.now ≤ denied.now)
    (returned : suspendAndDeny parties (.completion note) ledger task submitted
      denied = .ok result) :
    PauseNeutral parties (.completion note) ledger task submitted denied result ↔
      graceUsed task denied.now < graceUsed task submitted.now + timedeltaSeconds 1 := by
  have before : graceRemaining task parties.household.gracePeriodHours
      submitted.now = timedeltaHours parties.household.gracePeriodHours -
        graceUsed task submitted.now := graceRemaining_running running
  have after := completion_denied running returned
  constructor
  · intro neutral
    have less := neutral.notLess
    rw [before, after] at less
    dsimp only [Instant, Timedelta] at *
    omega
  · intro prompt
    refine ⟨?_, ?_, False.elim⟩
    · rw [before, after]
      dsimp only [Instant, Timedelta] at *
      omega
    · rw [before, after]
      simp only [graceUsed, timedeltaSeconds]
      dsimp only [Instant, Timedelta] at *
      omega

theorem completion_in_time_iff {note : Option String} :
    DenialInTime parties.household (.completion note) task submitted.now denied.now ↔
      graceUsed task denied.now < graceUsed task submitted.now + timedeltaSeconds 1 := by
  constructor
  · intro inTime
    refine Int.max_lt.mpr ⟨?_, inTime.prompt⟩
    exact Int.lt_of_le_of_lt (Int.le_max_left _ (submitted.now - task.dueAt))
      (Int.lt_add_of_pos_right _ (by decide))
  · intro prompt
    refine ⟨?_, False.elim, False.elim⟩
    exact Int.lt_of_le_of_lt (Int.le_max_right _ _) prompt

theorem excuse_same_outcome_iff {text : String}
    (actionable : Actionable task.status) (running : task.gracePausedAt = none)
    (counted : 0 ≤ task.graceElapsedSeconds) (long : 10 ≤ (strip text).length)
    (said : truthy parties.comment = true) (order : submitted.now ≤ denied.now)
    (after : ExcuseDenied parties task result submitted denied) :
    (suspendAndDeny parties (.excuse text) ledger task submitted submitted).map
        TaskInstance.status = .ok result.status ↔
      (gracePutDown task submitted.now <
          timedeltaHours parties.household.gracePeriodHours →
        submitted.now < task.dueAt +
          timedeltaHours parties.household.gracePeriodHours →
        denied.now < task.dueAt +
          timedeltaHours parties.household.gracePeriodHours) := by
  obtain ⟨early, returned, atOnce⟩ : ∃ early,
      suspendAndDeny parties (.excuse text) ledger task submitted submitted =
        .ok early ∧ ExcuseDenied parties task early submitted submitted :=
    excuse_denied actionable running counted long said
  rw [returned]
  simp only [Except.map, Except.ok.injEq, atOnce.status, after.status]
  exact status_eq_iff.trans (excuse_outcome_iff order)

theorem excuse_neutral_iff {text : String} (running : task.gracePausedAt = none)
    (counted : 0 ≤ task.graceElapsedSeconds) (order : submitted.now ≤ denied.now)
    (returned : suspendAndDeny parties (.excuse text) ledger task submitted denied =
      .ok result) :
    PauseNeutral parties (.excuse text) ledger task submitted denied result ↔
      DenialInTime parties.household (.excuse text) task submitted.now denied.now := by
  obtain ⟨actionable, long, said⟩ := excuse_checks returned
  obtain ⟨late, lateReturned, after⟩ : ∃ late,
      suspendAndDeny parties (.excuse text) ledger task submitted denied =
        .ok late ∧ ExcuseDenied parties task late submitted denied :=
    excuse_denied actionable running counted long said
  rw [returned] at lateReturned
  cases lateReturned
  have before : graceRemaining task parties.household.gracePeriodHours
      submitted.now = timedeltaHours parties.household.gracePeriodHours -
        graceUsed task submitted.now := graceRemaining_running running
  have sameOutcome : (suspendAndDeny parties (.excuse text) ledger task submitted
      submitted).map TaskInstance.status = .ok result.status ↔ _ :=
    excuse_same_outcome_iff actionable running counted long said order after
  have putDown : gracePutDown task submitted.now <
      graceUsed task submitted.now + timedeltaSeconds 1 ↔ _ :=
    gracePutDown_lt_iff
  have notMore : graceUsed task submitted.now <
      max (gracePutDown task submitted.now) (denied.now - task.dueAt) +
        timedeltaSeconds 1 := graceUsed_le order
  constructor
  · intro neutral
    have less := neutral.notLess
    rw [before, after.remaining] at less
    refine ⟨?_, fun _ => putDown.mp ?_,
      fun _ => sameOutcome.mp (neutral.sameOutcome trivial)⟩
    · dsimp only [Instant, Timedelta] at *
      omega
    · dsimp only [Instant, Timedelta] at *
      omega
  · intro inTime
    have prompt := inTime.prompt
    have once := putDown.mpr (inTime.countedOnce trivial)
    refine ⟨?_, ?_, fun _ => sameOutcome.mpr (inTime.sameSide trivial)⟩
    · rw [before, after.remaining]
      dsimp only [Instant, Timedelta] at *
      omega
    · rw [before, after.remaining]
      dsimp only [Instant, Timedelta] at *
      omega

end Neutral

theorem pause_neutral_iff (parties : Parties) (pause : Pause) (ledger : Ledger)
    (task : TaskInstance) (submitted denied : Clock) (result : TaskInstance)
    (running : task.gracePausedAt = none)
    (counted : 0 ≤ task.graceElapsedSeconds)
    (order : submitted.now ≤ denied.now)
    (returned : suspendAndDeny parties pause ledger task submitted denied =
      .ok result) :
    PauseNeutral parties pause ledger task submitted denied result ↔
      DenialInTime parties.household pause task submitted.now denied.now := by
  cases pause with
  | completion note =>
      exact (completion_neutral_iff running order returned).trans
        completion_in_time_iff.symm
  | excuse text => exact excuse_neutral_iff running counted order returned

def sampleParties : Parties :=
  ⟨sampleHousehold, sampleDefinition, sampleTeen, sampleParent, some "no"⟩

/-- Submitted one hour after the due time and denied after thirty: the excuse is
denied to missed, where a denial at once leaves twenty-three hours of grace. -/
theorem late_denial_consumes_grace :
    ∃ result, suspendAndDeny sampleParties (.excuse "I was at the dentist")
        Ledger.empty overdueTask (afterHours 1) (afterHours 30) = .ok result ∧
      result.status = .missed ∧
      (suspendAndDeny sampleParties (.excuse "I was at the dentist") Ledger.empty
        overdueTask (afterHours 1) (afterHours 1)).map TaskInstance.status =
          .ok .overdue ∧
      ¬ PauseNeutral sampleParties (.excuse "I was at the dentist") Ledger.empty
        overdueTask (afterHours 1) (afterHours 30) result :=
  ⟨_, rfl, rfl, rfl, fun neutral => absurd neutral.notLess (by decide)⟩

/-- Denied at once an hour after the due time, and two hours later before it. -/
theorem denial_in_time_is_neutral :
    (∃ result, suspendAndDeny sampleParties (.excuse "I was at the dentist")
        Ledger.empty overdueTask (afterHours 1) (afterHours 1) = .ok result ∧
      PauseNeutral sampleParties (.excuse "I was at the dentist") Ledger.empty
        overdueTask (afterHours 1) (afterHours 1) result) ∧
    ∃ result, suspendAndDeny sampleParties (.excuse "I was at the dentist")
        Ledger.empty sampleTask (afterHours (-3)) (afterHours (-1)) = .ok result ∧
      result.status = .overdue ∧
      PauseNeutral sampleParties (.excuse "I was at the dentist") Ledger.empty
        sampleTask (afterHours (-3)) (afterHours (-1)) result := by
  refine ⟨⟨_, rfl, ?_⟩, _, rfl, rfl, ?_⟩
  · exact (pause_neutral_iff _ _ _ _ _ _ _ rfl (by decide) (by decide) rfl).mpr
      ⟨by decide, fun _ _ => by decide, fun _ _ same => same⟩
  · exact (pause_neutral_iff _ _ _ _ _ _ _ rfl (by decide) (by decide) rfl).mpr
      ⟨by decide, nofun, fun _ _ _ => by decide⟩

/-! ## The instances a suspension finds -/

/-- Only a submitted excuse stops the clock, and nothing counted is negative. -/
def ClockRuns (task : TaskInstance) : Prop :=
  0 ≤ task.graceElapsedSeconds ∧
    (task.gracePausedAt = none ∨ task.status = .excusePending ∨
      task.status = .excused)

theorem ClockRuns.running {task : TaskInstance} (runs : ClockRuns task)
    (actionable : Actionable task.status) : task.gracePausedAt = none := by
  rcases runs.2 with running | submitted | excused
  · exact running
  · exact absurd submitted (actionable.ne (by decide))
  · exact absurd excused (actionable.ne (by decide))

theorem clockRuns_call {clock : Clock} {household : Household}
    {definition : TaskDefinition} {actor : Member} {task next : TaskInstance}
    {ledger nextLedger : Ledger} {call : ServiceCall}
    (effect : CallEffect clock household definition actor task ledger call next
      nextLedger) (runs : ClockRuns task) : ClockRuns next := by
  obtain ⟨counted, paused⟩ := runs
  have running : task.status ≠ .excusePending → task.status ≠ .excused →
      task.gracePausedAt = none := by tauto
  cases effect with
  | completed actionable | sentToReview actionable | cancelled actionable =>
      exact ⟨counted, Or.inl (running (actionable.ne (by decide))
        (actionable.ne (by decide)))⟩
  | excusedWhilePending => exact ⟨counted, Or.inr (Or.inl rfl)⟩
  | excusedWhileOverdue overdue long =>
      refine ⟨?_, Or.inr (Or.inl rfl)⟩
      simp only [excuseRow, suspendGrace, timedeltaSeconds]
      dsimp only [Instant, Timedelta] at *
      split
      · exact Int.tdiv_nonneg (by omega) (by decide)
      · exact counted
  | approved inReview | deniedBeforeDue inReview =>
      exact ⟨counted, Or.inl (running (by rw [inReview]; decide)
        (by rw [inReview]; decide))⟩
  | deniedAfterDue | excuseDeniedInGrace | excuseDeniedExpired =>
      exact ⟨counted, Or.inl rfl⟩
  | excuseApproved => exact ⟨counted, Or.inr (Or.inr rfl)⟩
  | reversedBeforeDue done | reversedAfterDue done =>
      exact ⟨counted, Or.inl (running (by rw [done]; decide)
        (by rw [done]; decide))⟩

theorem clockRuns_sweep {definitionIds : List Uuid} {hours : Int}
    {clock : JobClock} {task next : TaskInstance}
    (effect : SweepEffect definitionIds hours clock task next)
    (runs : ClockRuns task) : ClockRuns next := by
  cases effect with
  | unchanged => exact runs
  | overdue pending due => exact ⟨runs.1, Or.inl (runs.running (Or.inl pending))⟩
  | missed open_ live expired => exact ⟨runs.1, Or.inl (runs.running open_)⟩

def ClocksRun (db : Database) : Prop :=
  ∀ task ∈ db.instances.rows, ClockRuns task

theorem clocks_always_run (pytz : String → Option TzInfo) (db : Database)
    (initial : ClocksRun db) (events : List LifecycleEvent) :
    Always (lifecycleStep pytz) ClocksRun db events :=
  invariant_always ClocksRun
    (fun _ event kept => step_preserves_rows ClockRuns
      (fun _ _ _ _ => ⟨Int.le_refl 0, Or.inl rfl⟩) clockRuns_call clockRuns_sweep
      kept event) initial events

end KidsChores.Properties
