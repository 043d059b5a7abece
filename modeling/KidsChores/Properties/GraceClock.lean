import KidsChores.Lifecycle
import KidsChores.Planning
import KidsChores.Properties.LedgerAgreement

/-!
# The grace clock over runs

`grace_elapsed_seconds` is measured from the due time at every suspension, so it
counts the time before the first suspension again at the second one.  As long as
each suspension finds it at zero, it never runs ahead of the clock, and no
instance is marked missed before its grace period has passed.
-/

set_option autoImplicit false

namespace KidsChores.Properties

open KidsChores.Models
open KidsChores.Library
open KidsChores.Library.Runs
open KidsChores.Library.PyDatetime
open KidsChores.Library.PyText
open KidsChores.Services.StateMachine
open KidsChores.Workers.GenerateInstances
open KidsChores.Lifecycle
open KidsChores.Planning
open KidsChores.Session

/-! ## Runs with a clock -/

structure Timed where
  db : Database
  clock : Instant

/-- The event's last clock reading; a policy change reads none. -/
def lastReading (earlier : Instant) : LifecycleEvent → Instant
  | .call clock _ _ _ => clock.now
  | .nightly clock _ => clock.now
  | .setPayoutPolicy _ _ => earlier

def timedStep (pytz : String → Option TzInfo) (timed : Timed)
    (event : LifecycleEvent) : Timed where
  db := lifecycleStep pytz timed.db event
  clock := lastReading timed.clock event

def InOrder (timed : Timed) : LifecycleEvent → Prop
  | .call clock _ _ _ => timed.clock ≤ clock.now
  | .nightly clock _ => timed.clock ≤ clock.generation ∧
      clock.generation ≤ clock.dueNow ∧ clock.dueNow ≤ clock.now
  | .setPayoutPolicy _ _ => True

instance (timed : Timed) (event : LifecycleEvent) :
    Decidable (InOrder timed event) := by
  cases event <;> unfold InOrder <;> infer_instance

theorem InOrder.later {timed : Timed} {event : LifecycleEvent}
    (order : InOrder timed event) : timed.clock ≤ lastReading timed.clock event := by
  cases event with
  | call clock actor taskId call => exact order
  | nightly clock householdId =>
      exact Int.le_trans order.1 (Int.le_trans order.2.1 order.2.2)
  | setPayoutPolicy householdId policy => exact Int.le_refl _

def NotReversal : LifecycleEvent → Prop
  | .call _ _ _ (.reverseCompletion _) => False
  | _ => True

instance (event : LifecycleEvent) : Decidable (NotReversal event) := by
  unfold NotReversal
  split <;> infer_instance

/-- A submitted excuse that stops the clock of an overdue instance finds nothing
counted yet. -/
def SuspendsFromZero (timed : Timed) : LifecycleEvent → Prop
  | .call _ _ taskId (.submitExcuse excuseText) =>
      10 ≤ (strip excuseText).length → ∀ task ∈ timed.db.instances.find? taskId,
        task.status = .overdue → task.graceElapsedSeconds = 0
  | _ => True

instance (timed : Timed) (event : LifecycleEvent) :
    Decidable (SuspendsFromZero timed event) := by
  unfold SuspendsFromZero
  split <;> infer_instance

def householdOf? (db : Database) (task : TaskInstance) : Option Household := do
  let definition ← db.definitions.find? task.definitionId
  db.households.find? definition.householdId

/-- An instance the event marks missed is past its due time by the grace period
of its household. -/
def MissedInTime (pytz : String → Option TzInfo) (timed : Timed)
    (event : LifecycleEvent) : Prop :=
  ∀ task ∈ (timedStep pytz timed event).db.instances.rows,
    task.status = .missed → statusOf timed.db task.id ≠ some .missed →
      ∃ household ∈ householdOf? timed.db task,
        task.dueAt + timedeltaHours household.gracePeriodHours ≤
          lastReading timed.clock event

instance (pytz : String → Option TzInfo) (timed : Timed) (event : LifecycleEvent) :
    Decidable (MissedInTime pytz timed event) := by
  unfold MissedInTime
  infer_instance

/-! ## One row -/

def CountedBy (clock : Instant) (task : TaskInstance) : Prop :=
  task.graceElapsedSeconds = 0 ∨
    task.dueAt + timedeltaSeconds task.graceElapsedSeconds ≤ clock

theorem CountedBy.later {clock later : Instant} {task : TaskInstance}
    (counted : CountedBy clock task) (order : clock ≤ later) :
    CountedBy later task :=
  counted.imp_right fun bound => Int.le_trans bound order

theorem CountedBy.of_same {clock : Instant} {task next : TaskInstance}
    (counted : CountedBy clock task) (sameDue : next.dueAt = task.dueAt)
    (sameElapsed : next.graceElapsedSeconds = task.graceElapsedSeconds) :
    CountedBy clock next := by
  unfold CountedBy
  rw [sameDue, sameElapsed]
  exact counted

theorem expired_after_grace {task : TaskInstance} {hours : Int} {now : Instant}
    (positive : 1 ≤ hours) (counted : CountedBy now task)
    (expired : graceRemaining task hours now ≤ 0) :
    task.dueAt + timedeltaHours hours ≤ now := by
  unfold graceRemaining at expired
  unfold CountedBy at counted
  simp only [timedeltaHours, timedeltaSeconds] at expired counted ⊢
  dsimp only [Instant, Timedelta] at *
  split at expired
  · omega
  · omega

theorem suspendGrace_counted {task : TaskInstance} {now : Instant}
    (fromZero : task.graceElapsedSeconds = 0) :
    CountedBy now (suspendGrace task now) := by
  unfold CountedBy suspendGrace
  simp only [timedeltaSeconds, fromZero]
  dsimp only [Instant, Timedelta] at *
  split
  · rw [Int.tdiv_eq_ediv_of_nonneg (by omega)]
    omega
  · exact Or.inl rfl

/-- A call's row is counted by the reading it takes, and a row it marks missed
has run out its grace period. -/
theorem counted_call {clock : Clock} {household : Household}
    {definition : TaskDefinition} {actor : Member} {task next : TaskInstance}
    {ledger nextLedger : Ledger} {call : ServiceCall}
    (effect : CallEffect clock household definition actor task ledger call next
      nextLedger)
    (forward : ∀ reason, call ≠ .reverseCompletion reason)
    (positive : 1 ≤ household.gracePeriodHours)
    (counted : CountedBy clock.now task)
    (fromZero : ∀ text, call = .submitExcuse text → 10 ≤ (strip text).length →
      task.status = .overdue → task.graceElapsedSeconds = 0) :
    CountedBy clock.now next ∧ (next.status = .missed →
      next.dueAt + timedeltaHours household.gracePeriodHours ≤ clock.now) := by
  cases effect with
  | excusedWhileOverdue overdue long =>
      have suspended : CountedBy clock.now (suspendGrace task clock.now) :=
        suspendGrace_counted (fromZero _ rfl long overdue)
      exact ⟨suspended.of_same rfl rfl, fun missed => by cases missed⟩
  | excuseDeniedExpired submitted said expired =>
      have resumed : CountedBy clock.now (resumeGrace task) :=
        counted.of_same rfl rfl
      exact ⟨counted.of_same rfl rfl,
        fun _ => expired_after_grace positive resumed expired⟩
  | reversedBeforeDue | reversedAfterDue => exact absurd rfl (forward _)
  | completed | sentToReview | excusedWhilePending | approved | deniedBeforeDue
  | deniedAfterDue | excuseApproved | excuseDeniedInGrace | cancelled =>
      exact ⟨counted.of_same rfl rfl, fun missed => by cases missed⟩

theorem counted_sweep {definitionIds : List Uuid} {household : Household}
    {clock : JobClock} {task next : TaskInstance}
    (effect : SweepEffect definitionIds household.gracePeriodHours clock task next)
    (positive : 1 ≤ household.gracePeriodHours)
    (counted : CountedBy clock.now task) :
    CountedBy clock.now next ∧ (next.status = .missed → task.status ≠ .missed →
      next.dueAt + timedeltaHours household.gracePeriodHours ≤ clock.now ∧
        task.definitionId ∈ definitionIds) := by
  cases effect with
  | unchanged => exact ⟨counted, fun missed open_ => absurd missed open_⟩
  | overdue pending due =>
      exact ⟨counted.of_same rfl rfl, fun missed => by cases missed⟩
  | missed open_ live expired =>
      exact ⟨counted.of_same rfl rfl,
        fun _ _ => ⟨expired_after_grace positive counted expired, live⟩⟩

/-! ## One event -/

structure GraceCounted (timed : Timed) : Prop where
  counted : ∀ task ∈ timed.db.instances.rows, CountedBy timed.clock task
  positive : ∀ household ∈ timed.db.households.rows,
    1 ≤ household.gracePeriodHours

section Preservation

variable {pytz : String → Option TzInfo} {timed : Timed}

theorem not_missed_before {db : Database} {task : TaskInstance}
    (member : task ∈ db.instances.rows) {taskId : Uuid} (same : taskId = task.id)
    (change : statusOf db taskId ≠ some .missed) : task.status ≠ .missed := by
  subst same
  intro missed
  rw [statusOf_row member, missed] at change
  exact change rfl

theorem call_counts (grace : GraceCounted timed) {clock : Clock}
    {actor : Member} {taskId : Uuid} {call : ServiceCall} {next : Database}
    (committed : callTransaction timed.db clock actor taskId call = some next)
    (order : timed.clock ≤ clock.now)
    (forward : NotReversal (.call clock actor taskId call))
    (fromZero : SuspendsFromZero timed (.call clock actor taskId call)) :
    GraceCounted ⟨next, clock.now⟩ ∧
      ∀ task ∈ next.instances.rows, task.status = .missed →
        statusOf timed.db task.id ≠ some .missed →
        ∃ household, householdOf? timed.db task = some household ∧
          task.dueAt + timedeltaHours household.gracePeriodHours ≤ clock.now := by
  obtain ⟨loaded, task, ledger, found, effect, rfl⟩ := callTransaction_ok committed
  obtain ⟨taskFound, definitionFound, householdFound⟩ := load?_ok found
  obtain ⟨loadedMember, loadedId⟩ := Table.find?_eq_some_iff.mp taskFound
  have same := effect.sameTask
  have result := counted_call effect
    (by rintro reason rfl; exact forward)
    (grace.positive _ (Table.mem_of_find? householdFound))
    ((grace.counted _ loadedMember).later order)
    (by rintro text rfl long; exact fromZero long loaded.task taskFound)
  refine ⟨⟨?_, grace.positive⟩, ?_⟩
  · intro row member
    rcases Table.mem_save.mp member with ⟨rfl, _⟩ | ⟨oldMember, _⟩
    · exact result.1
    · exact (grace.counted row oldMember).later order
  · intro row member missed change
    rcases Table.mem_save.mp member with ⟨rfl, _⟩ | ⟨oldMember, _⟩
    · refine ⟨loaded.household, ?_, result.2 missed⟩
      simp [householdOf?, same.definitionId, definitionFound, householdFound]
    · exact absurd missed (not_missed_before oldMember rfl change)

theorem nightly_counts (grace : GraceCounted timed) {clock : JobClock}
    {householdId : Uuid} {next : Database}
    (success : generateForHousehold pytz clock householdId timed.db = .ok next)
    (order : timed.clock ≤ clock.now) :
    GraceCounted ⟨next, clock.now⟩ ∧
      ∀ task ∈ next.instances.rows, task.status = .missed →
        statusOf timed.db task.id ≠ some .missed →
        ∃ household, householdOf? timed.db task = some household ∧
          task.dueAt + timedeltaHours household.gracePeriodHours ≤ clock.now := by
  obtain ⟨household, definitionIds, generated, found, rows⟩ := nightly_rows success
  have positive := grace.positive household (Table.mem_of_find? found)
  have counted : ∀ task ∈ generated.rows, CountedBy clock.now task := by
    intro task member
    rcases rows.grown.adds task member with old | ⟨⟨defn, due, built⟩, _⟩
    · exact (grace.counted task old).later order
    · rw [built]
      exact Or.inl rfl
  refine ⟨⟨?_, ?_⟩, ?_⟩
  · intro row member
    obtain ⟨old, oldMember, rfl⟩ := (rows.swept row).mp member
    exact (counted_sweep (sweepRow_effect _ _ _ _) positive
      (counted old oldMember)).1
  · dsimp only
    rw [rows.sameHouseholds]
    exact grace.positive
  · intro row member missed change
    obtain ⟨old, oldMember, rfl⟩ := (rows.swept row).mp member
    have effect := sweepRow_effect definitionIds household.gracePeriodHours clock old
    have same := effect.sameTask
    have openBefore : old.status ≠ .missed := by
      rcases rows.grown.adds old oldMember with stored | ⟨⟨defn, due, built⟩, _⟩
      · exact not_missed_before stored same.id change
      · rw [built]
        exact (newInstance_actionable defn due _ _).ne (by decide)
    obtain ⟨bound, live⟩ := (counted_sweep effect positive
      (counted old oldMember)).2 missed openBefore
    obtain ⟨definition, definitionFound, belongs⟩ := rows.live _ live
    refine ⟨household, ?_, bound⟩
    have householdFound : timed.db.households.find? household.id = some household := by
      rw [Table.key_of_find? found]
      exact found
    simp [householdOf?, same.definitionId, definitionFound, belongs, householdFound]

theorem step_counts (grace : GraceCounted timed) {event : LifecycleEvent}
    (order : InOrder timed event) (forward : NotReversal event)
    (fromZero : SuspendsFromZero timed event) :
    GraceCounted (timedStep pytz timed event) ∧ MissedInTime pytz timed event := by
  have idle : ∀ later, timed.clock ≤ later → GraceCounted ⟨timed.db, later⟩ :=
    fun later order =>
      ⟨fun task member => (grace.counted task member).later order, grace.positive⟩
  have unmoved : ∀ (db : Database) (later : Instant),
      db.instances = timed.db.instances →
      ∀ task ∈ db.instances.rows, task.status = .missed →
        statusOf timed.db task.id ≠ some .missed →
        ∃ household, householdOf? timed.db task = some household ∧
          task.dueAt + timedeltaHours household.gracePeriodHours ≤ later := by
    intro db later same task member missed change
    rw [same] at member
    exact absurd missed (not_missed_before member rfl change)
  have effect := lifecycleStep_effect pytz timed.db event
  unfold MissedInTime timedStep
  generalize lifecycleStep pytz timed.db event = next at effect ⊢
  cases effect with
  | unchanged => exact ⟨idle _ order.later, unmoved timed.db _ rfl⟩
  | called committed => exact call_counts grace committed order forward fromZero
  | swept success => exact nightly_counts grace success order.later
  | @policySet householdId policy household found =>
      refine ⟨⟨grace.counted, ?_⟩, unmoved _ timed.clock rfl⟩
      intro row member
      rcases Table.mem_save.mp member with ⟨rfl, _⟩ | ⟨old, _⟩
      · exact grace.positive household (Table.mem_of_find? found)
      · exact grace.positive row old

end Preservation

/-! ## Every run -/

/-- Instances as generation leaves them, and the grace periods the schema
admits. -/
structure FreshGrace (db : Database) : Prop where
  freshTasks : ∀ task ∈ db.instances.rows,
    Actionable task.status ∧ task.graceElapsedSeconds = 0 ∧
      task.gracePausedAt = none
  positive : ∀ household ∈ db.households.rows, 1 ≤ household.gracePeriodHours

theorem missed_in_time_when_suspended_from_zero (pytz : String → Option TzInfo)
    (db : Database) (fresh : FreshGrace db) (start : Instant)
    (events : List LifecycleEvent)
    (chronological : EachMeets (timedStep pytz) InOrder ⟨db, start⟩ events)
    (forward : ∀ event ∈ events, NotReversal event)
    (fromZero : EachMeets (timedStep pytz) SuspendsFromZero ⟨db, start⟩ events) :
    EachMeets (timedStep pytz) (MissedInTime pytz) ⟨db, start⟩ events := by
  have initial : GraceCounted ⟨db, start⟩ :=
    ⟨fun task member => Or.inl (fresh.freshTasks task member).2.1, fresh.positive⟩
  have meets := (chronological.and
    (eachMeets_of_forall (fun _ event member => forward event member) _)).and
    fromZero
  exact guarded_eachMeets GraceCounted
    (fun _ _ grace condition =>
      (step_counts grace condition.1.1 condition.1.2 condition.2).1)
    (fun _ _ grace condition =>
      (step_counts grace condition.1.1 condition.1.2 condition.2).2)
    initial meets

def afterHours (hours : Int) : Clock := ⟨timedeltaHours hours, timedeltaHours hours⟩

/-- Excused thirteen hours after the due time, denied, and excused and denied
again at once: the thirteen hours are counted twice. -/
def twoExcuses : List LifecycleEvent :=
  [.call (afterHours 13) sampleTeen 1 (.submitExcuse "I was at the dentist"),
    .call (afterHours 13) sampleParent 1 (.resolveExcuse false (some "no")),
    .call (afterHours 13) sampleTeen 1 (.submitExcuse "I was at the dentist"),
    .call (afterHours 13) sampleParent 1 (.resolveExcuse false (some "no"))]

def overdueTask : TaskInstance := { sampleTask with status := .overdue }

def overdueDatabase : Database := sampleDatabase sampleDefinition overdueTask

theorem freshGrace_overdueDatabase : FreshGrace overdueDatabase := by
  constructor
  · decide
  · decide

theorem second_excuse_misses_early :
    FreshGrace overdueDatabase ∧
      EachMeets (timedStep fun _ => none) InOrder ⟨overdueDatabase, 0⟩ twoExcuses ∧
      (∀ event ∈ twoExcuses, NotReversal event) ∧
      ¬ EachMeets (timedStep fun _ => none) (MissedInTime fun _ => none)
        ⟨overdueDatabase, 0⟩ twoExcuses :=
  ⟨freshGrace_overdueDatabase, by decide, by decide, by decide⟩

/-- The first excuse and its denial, and the run of the job a day later. -/
def oneExcuse : List LifecycleEvent :=
  twoExcuses.take 2 ++ [.nightly ⟨timedeltaHours 37, timedeltaHours 37, timedeltaHours 37⟩ 1]

theorem one_excuse_missed_in_time :
    statusOf (runFrom (timedStep utcOnly) ⟨overdueDatabase, 0⟩ oneExcuse).db 1 =
        some .missed ∧
      EachMeets (timedStep utcOnly) (MissedInTime utcOnly) ⟨overdueDatabase, 0⟩ oneExcuse :=
  ⟨by decide +kernel, missed_in_time_when_suspended_from_zero utcOnly _
    freshGrace_overdueDatabase 0 _ (by decide +kernel) (by decide) (by decide +kernel)⟩

end KidsChores.Properties
