import KidsChores.Properties.ParentDelay
import KidsChores.Properties.TaskRuns

/-!
# Overdue and past due

Four places of the source decide that an instance is overdue.  Generation, the nightly
update and the denial of a completion compare the time with the due time; the denial of
an excuse looks at the grace only, and before the due time all of it is left.
-/

set_option autoImplicit false

namespace KidsChores.Properties

open KidsChores.Library
open KidsChores.Library.PyDatetime
open KidsChores.Library.PyText
open KidsChores.Library.Runs
open KidsChores.Lifecycle
open KidsChores.Models
open KidsChores.Services.StateMachine
open KidsChores.Session
open KidsChores.Workers.GenerateInstances

def Lapsed (status : TaskStatus) : Prop :=
  status = .overdue ∨ status = .missed

instance (status : TaskStatus) : Decidable (Lapsed status) :=
  inferInstanceAs (Decidable (_ ∨ _))

def LapsedPastDue (timed : Timed) : Prop :=
  ∀ task ∈ timed.db.instances.rows, Lapsed task.status → task.dueAt ≤ timed.clock

instance (timed : Timed) : Decidable (LapsedPastDue timed) :=
  inferInstanceAs (Decidable (∀ task ∈ timed.db.instances.rows, _))

def IsDenial : ServiceCall → Prop
  | .review false _ => True
  | .resolveExcuse false _ => True
  | _ => False

def EarlyDenialRetried (timed : Timed) : TaskEvent → Prop
  | .lifecycle (.call clock actor taskId call) =>
      IsDenial call → ∀ loaded ∈ load? timed.db taskId, clock.now < loaded.task.dueAt →
        ∀ next ∈ callTransaction timed.db clock actor taskId call,
          statusOf next taskId = some .pending
  | _ => True

def ExcuseDeniedWhenDue (timed : Timed) : TaskEvent → Prop
  | .lifecycle (.call clock _ taskId (.resolveExcuse false comment)) =>
      ∀ loaded ∈ load? timed.db taskId, loaded.task.status = .excusePending →
        truthy comment = true → loaded.task.dueAt ≤ clock.now
  | _ => True

instance (timed : Timed) (event : TaskEvent) : Decidable (ExcuseDeniedWhenDue timed event) := by
  unfold ExcuseDeniedWhenDue
  split <;> infer_instance

def TakesNothingBack : TaskEvent → Prop
  | .lifecycle event => NotReversal event
  | _ => True

instance (event : TaskEvent) : Decidable (TakesNothingBack event) :=
  match event with
  | .lifecycle event => inferInstanceAs (Decidable (NotReversal event))
  | .createDefinition _ | .updateDefinition _ | .updateHousehold _ => .isTrue trivial

/-! ## One row -/

section Rows

variable {task next : TaskInstance}

theorem sweepRow_lapsed {definitionIds : List Uuid} {hours : Int} {clock : JobClock}
    (lapsed : Lapsed (sweepRow definitionIds hours clock task).status) :
    Lapsed task.status ∨ task.dueAt ≤ clock.dueNow := by
  by_cases due : task.dueAt ≤ clock.dueNow
  · exact Or.inr due
  · refine Or.inl ?_
    unfold sweepRow at lapsed
    simp only [due, false_and, and_false, if_false] at lapsed
    split at lapsed
    · rename_i expired
      exact Or.inl expired.1
    · exact lapsed

theorem sweepRow_dueAt (definitionIds : List Uuid) (hours : Int) (clock : JobClock)
    (task : TaskInstance) : (sweepRow definitionIds hours clock task).dueAt = task.dueAt :=
  (sweepRow_effect definitionIds hours clock task).sameTask.dueAt

theorem newInstance_lapsed {defn : TaskDefinition} {due now : Instant} {id : Uuid}
    (lapsed : Lapsed (newInstance defn due now id).status) : due ≤ now := by
  by_contra early
  unfold newInstance at lapsed
  rw [if_neg early] at lapsed
  rcases lapsed with overdue | missed
  · cases overdue
  · cases missed

/-- Of the calls a denial alone makes an instance overdue or missed, reversals apart. -/
theorem call_lapsed {clock : Clock} {household : Household} {definition : TaskDefinition}
    {actor : Member} {ledger nextLedger : Ledger} {call : ServiceCall}
    (effect : CallEffect clock household definition actor task ledger call next nextLedger)
    (forward : ∀ reason, call ≠ .reverseCompletion reason)
    (whenDue : ∀ comment, call = .resolveExcuse false comment →
      task.status = .excusePending → truthy comment = true → task.dueAt ≤ clock.now)
    (lapsed : Lapsed next.status) : next.dueAt ≤ clock.now := by
  cases effect with
  | deniedAfterDue inReview said late => exact late
  | excuseDeniedInGrace submitted said remaining => exact whenDue _ rfl submitted said
  | excuseDeniedExpired submitted said expired => exact whenDue _ rfl submitted said
  | reversedBeforeDue => exact absurd rfl (forward _)
  | reversedAfterDue => exact absurd rfl (forward _)
  | _ => rcases lapsed with overdue | missed <;> contradiction

end Rows

/-! ## One event -/

section Steps

variable {pytz : String → Option TzInfo} {timed : Timed} {event : TaskEvent}

theorem lapsed_step (order : TaskInOrder timed event) (forward : TakesNothingBack event)
    (pastDue : LapsedPastDue timed) (whenDue : ExcuseDeniedWhenDue timed event) :
    LapsedPastDue (timedTaskStep pytz timed event) := by
  intro row member lapsed
  have later := order.later
  cases taskStep_origin event member with
  | kept stored => exact Int.le_trans (pastDue row stored lapsed) later
  | called found effect _ =>
      refine call_lapsed effect ?_ ?_ lapsed
      · rintro reason rfl
        exact forward
      · rintro comment rfl
        exact whenDue _ found
  | swept stored =>
      rw [sweepRow_dueAt]
      rcases sweepRow_lapsed lapsed with old | due
      · exact Int.le_trans (pastDue _ stored old) later
      · exact Int.le_trans due order.2.2
  | generated fresh =>
      rw [sweepRow_dueAt]
      rcases sweepRow_lapsed lapsed with old | due
      · exact Int.le_trans (newInstance_lapsed old) (Int.le_trans order.2.1 order.2.2)
      · exact Int.le_trans due order.2.2
  | created fresh => exact newInstance_lapsed lapsed

theorem denial_commits {db : Database} {clock : Clock} {actor : Member} {taskId : Uuid}
    {comment : Option String} {loaded : Loaded} (found : load? db taskId = some loaded)
    (submitted : loaded.task.status = .excusePending) (said : truthy comment = true) :
    ∃ status, Lapsed status ∧
      callTransaction db clock actor taskId (.resolveExcuse false comment) =
        some (storeCall db (decisionRow clock actor (resumeGrace loaded.task) comment status)
          db.ledger) := by
  have lapsed : Lapsed (if 0 < graceRemaining (resumeGrace loaded.task)
      loaded.household.gracePeriodHours clock.now then .overdue else .missed) := by
    split
    · exact Or.inl rfl
    · exact Or.inr rfl
  refine ⟨_, lapsed, ?_⟩
  simp only [callTransaction, found, ServiceCall.run, resolveExcuse_denied submitted said]

theorem whenDue_of_lapsed (pastDue : LapsedPastDue (timedTaskStep pytz timed event)) :
    ExcuseDeniedWhenDue timed event := by
  unfold ExcuseDeniedWhenDue
  split
  · rename_i clock actor taskId comment
    intro loaded found submitted said
    obtain ⟨status, lapsed, denied⟩ := @denial_commits timed.db clock actor taskId comment
      loaded found submitted said
    simp only [timedTaskStep, taskStep, lifecycleStep, denied] at pastDue
    have stored := Table.mem_of_find? (load?_ok found).1
    have row : decisionRow clock actor (resumeGrace loaded.task) comment status ∈
        (storeCall timed.db (decisionRow clock actor (resumeGrace loaded.task) comment status)
          timed.db.ledger).instances.rows :=
      Table.mem_save.mpr (Or.inl ⟨rfl, loaded.task, stored, rfl⟩)
    have bound := pastDue _ row lapsed
    exact bound
  · trivial

/-- A completion denied early is pending again, and no excuse is denied early. -/
theorem retried_of_whenDue (whenDue : ExcuseDeniedWhenDue timed event) :
    EarlyDenialRetried timed event := by
  unfold EarlyDenialRetried
  split
  · rename_i clock actor taskId call
    intro denial loaded found early next committed
    obtain ⟨other, task, ledger, otherFound, effect, rfl⟩ := callTransaction_ok committed
    have same : loaded = other := Option.some.inj (found.symm.trans otherFound)
    subst same
    have stored := (load?_ok found).1
    have late : ¬ loaded.task.dueAt ≤ clock.now := Int.not_le.mpr early
    have saved : statusOf (storeCall timed.db task ledger) taskId = some task.status := by
      have sameId : task.id = loaded.task.id := effect.sameTask.id
      simp only [statusOf, storeCall]
      rw [Table.find?_save_same stored (sameId.trans (Table.key_of_find? stored))]
      rfl
    rw [saved]
    cases effect with
    | deniedBeforeDue => rfl
    | deniedAfterDue inReview said due => exact absurd due late
    | excuseDeniedInGrace submitted said => exact absurd (whenDue _ found submitted said) late
    | excuseDeniedExpired submitted said => exact absurd (whenDue _ found submitted said) late
    | _ => exact denial.elim
  · trivial

end Steps

/-- In a run in order of time that takes no completion back, overdue and missed instances
are past due and early denials leave them pending exactly if every excuse is denied at its
due time or later. -/
theorem lapsed_past_due_iff (pytz : String → Option TzInfo) (db : Database) (start : Instant)
    (initial : LapsedPastDue ⟨db, start⟩) (events : List TaskEvent)
    (order : EachMeets (timedTaskStep pytz) TaskInOrder ⟨db, start⟩ events)
    (forward : ∀ event ∈ events, TakesNothingBack event) :
    (Always (timedTaskStep pytz) LapsedPastDue ⟨db, start⟩ events ∧
        EachMeets (timedTaskStep pytz) EarlyDenialRetried ⟨db, start⟩ events) ↔
      EachMeets (timedTaskStep pytz) ExcuseDeniedWhenDue ⟨db, start⟩ events := by
  have guarded := order.and
    (eachMeets_of_forall (fun _ event member => forward event member) _)
  have exact_ : Always (timedTaskStep pytz) LapsedPastDue ⟨db, start⟩ events ↔
      EachMeets (timedTaskStep pytz) ExcuseDeniedWhenDue ⟨db, start⟩ events := by
    refine always_iff_of_broken LapsedPastDue (fun _ pastDue => pastDue) ?_ ?_ initial guarded
    · intro timed event guard pastDue whenDue
      exact lapsed_step guard.1 guard.2 pastDue whenDue
    · intro timed event guard pastDue after
      exact whenDue_of_lapsed after
  constructor
  · rintro ⟨always, _⟩
    exact exact_.mp always
  · intro whenDue
    exact ⟨exact_.mpr whenDue, whenDue.imp fun _ _ => retried_of_whenDue⟩

/-- An excuse sent in two hours before the due time and denied one hour before it. -/
def deniedEarly : List TaskEvent :=
  [.lifecycle (.call (afterHours (-2)) sampleTeen 1 (.submitExcuse "I was at the dentist")),
    .lifecycle (.call (afterHours (-1)) sampleParent 1 (.resolveExcuse false (some "no")))]

def deniedWhenDue : List TaskEvent :=
  [.lifecycle (.call (afterHours (-2)) sampleTeen 1 (.submitExcuse "I was at the dentist")),
    .lifecycle (.call (afterHours 0) sampleParent 1 (.resolveExcuse false (some "no")))]

def undecidedFamily : Timed := ⟨sampleDatabase sampleDefinition sampleTask, timedeltaHours (-3)⟩

theorem overdue_before_due :
    LapsedPastDue undecidedFamily ∧
      EachMeets (timedTaskStep fun _ => none) TaskInOrder undecidedFamily deniedEarly ∧
      (∀ event ∈ deniedEarly, TakesNothingBack event) ∧
      statusOf (runFrom (timedTaskStep fun _ => none) undecidedFamily deniedEarly).db 1 =
        some .overdue ∧
      ¬ Always (timedTaskStep fun _ => none) LapsedPastDue undecidedFamily deniedEarly := by
  refine ⟨by decide, by decide, by decide, by decide, ?_⟩
  decide

theorem overdue_when_due :
    Always (timedTaskStep fun _ => none) LapsedPastDue undecidedFamily deniedWhenDue ∧
      EachMeets (timedTaskStep fun _ => none) EarlyDenialRetried undecidedFamily deniedWhenDue :=
  (lapsed_past_due_iff (fun _ => none) (sampleDatabase sampleDefinition sampleTask)
    (timedeltaHours (-3)) (by decide) deniedWhenDue (by decide) (by decide)).mpr (by decide)

end KidsChores.Properties
