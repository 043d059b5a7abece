import KidsChores.Lifecycle
import KidsChores.Properties.Accounts

/-!
# The ledger agrees with the statuses

Over every run of service calls, nightly runs and policy changes.  The trace
keeps, beside the database, the payout policy that was in force when an instance
became excused.
-/

set_option autoImplicit false

namespace KidsChores.Properties

open KidsChores.Models
open KidsChores.Library
open KidsChores.Library.Runs
open KidsChores.Library.PyDatetime
open KidsChores.Services.Ledger
open KidsChores.Services.StateMachine
open KidsChores.Workers.GenerateInstances
open KidsChores.Lifecycle
open KidsChores.Session

structure Traced where
  db : Database
  approvedUnder : Uuid → Option ExcusedPayoutPolicy

def statusOf (db : Database) (taskId : Uuid) : Option TaskStatus :=
  (db.instances.find? taskId).map TaskInstance.status

def policyInForce (db : Database) (taskId : Uuid) : Option ExcusedPayoutPolicy :=
  (load? db taskId).map fun loaded => loaded.household.excusedPayoutPolicy

def recordApproval (before after : Database)
    (approvedUnder : Uuid → Option ExcusedPayoutPolicy) (taskId : Uuid) :
    Option ExcusedPayoutPolicy :=
  if statusOf after taskId = some .excused ∧
      statusOf before taskId ≠ some .excused then
    policyInForce before taskId
  else approvedUnder taskId

def tracedStep (pytz : String → Option TzInfo) (traced : Traced)
    (event : LifecycleEvent) : Traced where
  db := lifecycleStep pytz traced.db event
  approvedUnder := recordApproval traced.db (lifecycleStep pytz traced.db event)
    traced.approvedUnder

/-- An empty ledger, and instances as generation leaves them. -/
structure FreshStart (db : Database) : Prop where
  emptyLedger : db.ledger.entries = []
  freshTasks : ∀ task ∈ db.instances.rows, Actionable task.status

def tracedStart (db : Database) : Traced := ⟨db, fun _ => none⟩

/-- The entries of an instance add up to what its status says, and no two of
them have the same type. -/
structure AgreesWithLedger (traced : Traced) (task : TaskInstance) : Prop where
  complete : task.status = .complete →
    total (postings traced.db.ledger task.id) = task.pointValue
  excused : task.status = .excused →
    ∃ policy, traced.approvedUnder task.id = some policy ∧
      total (postings traced.db.ledger task.id) =
        prescribed policy task.pointValue
  otherwise : task.status ≠ .complete → task.status ≠ .excused →
    total (postings traced.db.ledger task.id) = 0
  oneOfEachType : ∀ entryType, (traced.db.ledger.entries.countP fun entry =>
    entry.taskInstanceId = some task.id ∧ entry.entryType = entryType) ≤ 1

def Agreement (traced : Traced) : Prop :=
  ∀ task ∈ traced.db.instances.rows, AgreesWithLedger traced task

/-! ## The invariant -/

structure Accounted (traced : Traced) : Prop where
  known : ∀ entry ∈ traced.db.ledger.entries, ∀ taskId,
    entry.taskInstanceId = some taskId →
      ∃ task ∈ traced.db.instances.rows, task.id = taskId
  booked : ∀ task ∈ traced.db.instances.rows,
    Booked (traced.approvedUnder task.id) task.status task.pointValue
      (postings traced.db.ledger task.id)

theorem FreshStart.accounted {db : Database} (fresh : FreshStart db) :
    Accounted (tracedStart db) := by
  constructor
  · intro entry member
    rw [show (tracedStart db).db.ledger.entries = [] from fresh.emptyLedger] at member
    cases member
  · intro task member
    refine ⟨.unpaid, ?_, ?_⟩
    · simp [postings, tracedStart, fresh.emptyLedger, Account.statement]
    · have open_ := fresh.freshTasks task member
      exact ⟨open_.ne (by decide), open_.ne (by decide)⟩

theorem Accounted.agreement {traced : Traced} (accounted : Accounted traced) :
    Agreement traced := by
  intro task member
  have totals := (accounted.booked task member).total_eq
  refine ⟨totals.1, totals.2.1, totals.2.2, ?_⟩
  intro entryType
  apply Ledger.countP_le_one
  intro first second firstChosen secondChosen
  simp only [decide_eq_true_eq] at firstChosen secondChosen
  refine ⟨firstChosen.2.trans secondChosen.2.symm, Or.inl ⟨?_, ?_⟩⟩
  · rw [firstChosen.1]
    rfl
  · rw [firstChosen.1, secondChosen.1]

theorem Accounted.postings_unknown {traced : Traced}
    (accounted : Accounted traced) {taskId : Uuid}
    (unknown : ∀ task ∈ traced.db.instances.rows, task.id ≠ taskId) :
    postings traced.db.ledger taskId = [] := by
  simp only [postings, List.map_eq_nil_iff, List.filter_eq_nil_iff,
    decide_eq_true_eq]
  intro entry member references
  obtain ⟨task, taskMember, same⟩ := accounted.known entry member taskId references
  exact unknown task taskMember same

theorem recordApproval_same {before after : Database}
    {approvedUnder : Uuid → Option ExcusedPayoutPolicy} {taskId : Uuid}
    (same : statusOf after taskId = statusOf before taskId) :
    recordApproval before after approvedUnder taskId = approvedUnder taskId := by
  unfold recordApproval
  rw [if_neg]
  rintro ⟨excused, notBefore⟩
  exact notBefore (same ▸ excused)

theorem recordApproval_excused {before after : Database}
    {approvedUnder : Uuid → Option ExcusedPayoutPolicy} {taskId : Uuid}
    (excused : statusOf after taskId = some .excused)
    (notBefore : statusOf before taskId ≠ some .excused) :
    recordApproval before after approvedUnder taskId =
      policyInForce before taskId :=
  if_pos ⟨excused, notBefore⟩

theorem statusOf_row {db : Database} {task : TaskInstance}
    (member : task ∈ db.instances.rows) :
    statusOf db task.id = some task.status := by
  unfold statusOf
  rw [Table.find?_self db.instances member]
  rfl

/-! ## One event -/

section Preservation

variable {pytz : String → Option TzInfo} {traced : Traced}

theorem known_after_call (accounted : Accounted traced) {clock : Clock}
    {household : Household} {definition : TaskDefinition} {actor : Member}
    {task next : TaskInstance} {ledger : Ledger} {call : ServiceCall}
    (stored : task ∈ traced.db.instances.rows)
    (effect : CallEffect clock household definition actor task traced.db.ledger call
      next ledger) :
    ∀ entry ∈ ledger.entries, ∀ taskId, entry.taskInstanceId = some taskId →
      ∃ row ∈ (storeCall traced.db next ledger).instances.rows, row.id = taskId := by
  have same := effect.sameTask
  have keepsIds : ∀ taskId, (∃ old ∈ traced.db.instances.rows, old.id = taskId) →
      ∃ row ∈ (storeCall traced.db next ledger).instances.rows, row.id = taskId := by
    rintro taskId ⟨old, member, rfl⟩
    by_cases hit : old.id = next.id
    · exact ⟨next, Table.mem_save.mpr (Or.inl ⟨rfl, task, stored, same.id.symm⟩),
        hit.symm⟩
    · exact ⟨old, Table.mem_save.mpr (Or.inr ⟨member, hit⟩), rfl⟩
  intro entry member taskId references
  apply keepsIds
  by_cases own : taskId = task.id
  · exact ⟨task, stored, own.symm⟩
  · have posted : (entry.entryType, entry.delta) ∈ postings ledger taskId :=
      List.mem_map.mpr ⟨entry,
        List.mem_filter.mpr ⟨member, decide_eq_true references⟩, rfl⟩
    rw [postings_call_other effect own] at posted
    obtain ⟨old, oldPosted, _⟩ := List.mem_map.mp posted
    obtain ⟨oldMember, oldReferences⟩ := List.mem_filter.mp oldPosted
    exact accounted.known old oldMember taskId (of_decide_eq_true oldReferences)

theorem not_excused_of_accepts {status : TaskStatus} {call : ServiceCall}
    (accepted : call.Accepts status) : status ≠ .excused := by
  rintro rfl
  cases call <;> simp [ServiceCall.Accepts, Actionable] at accepted

theorem call_preserves_accounted (accounted : Accounted traced) {clock : Clock}
    {actor : Member} {taskId : Uuid} {call : ServiceCall} {next : Database}
    (committed : callTransaction traced.db clock actor taskId call = some next) :
    Accounted ⟨next, recordApproval traced.db next traced.approvedUnder⟩ := by
  obtain ⟨loaded, task, ledger, found, effect, rfl⟩ := callTransaction_ok committed
  obtain ⟨taskFound, _, _⟩ := load?_ok found
  obtain ⟨loadedMember, loadedId⟩ := Table.find?_eq_some_iff.mp taskFound
  have same := effect.sameTask
  refine ⟨known_after_call accounted loadedMember effect, ?_⟩
  intro row member
  have rowStatus := statusOf_row member
  rcases Table.mem_save.mp member with ⟨rfl, _⟩ | ⟨oldMember, different⟩
  · rw [same.id, same.pointValue]
    refine booked_call effect effect.accepts
      (accounted.booked loaded.task loadedMember) ?_
    intro excused
    have before : statusOf traced.db loaded.task.id ≠ some .excused := by
      rw [statusOf_row loadedMember]
      intro already
      exact not_excused_of_accepts effect.accepts (Option.some.inj already)
    rw [same.id, excused] at rowStatus
    refine (recordApproval_excused rowStatus before).trans ?_
    rw [policyInForce, loadedId, found]
    rfl
  · have unchanged : recordApproval traced.db (storeCall traced.db task ledger)
        traced.approvedUnder row.id = traced.approvedUnder row.id :=
      recordApproval_same (rowStatus.trans (statusOf_row oldMember).symm)
    have samePostings : postings ledger row.id =
        postings traced.db.ledger row.id :=
      postings_call_other effect (by rw [← same.id]; exact different)
    dsimp only [storeCall] at unchanged ⊢
    rw [unchanged, samePostings]
    exact accounted.booked row oldMember

theorem nightly_preserves_accounted (accounted : Accounted traced)
    {clock : JobClock} {householdId : Uuid} {next : Database}
    (success : generateForHousehold pytz clock householdId traced.db = .ok next) :
    Accounted ⟨next, recordApproval traced.db next traced.approvedUnder⟩ := by
  obtain ⟨household, definitionIds, generated, _, rows⟩ := nightly_rows success
  constructor
  · intro entry member taskId references
    rw [rows.sameLedger] at member
    obtain ⟨old, oldMember, rfl⟩ := accounted.known entry member taskId references
    exact ⟨_, (rows.swept _).mpr ⟨old, rows.grown.keeps old oldMember, rfl⟩,
      (sweepRow_effect definitionIds household.gracePeriodHours clock
        old).sameTask.id⟩
  · intro row member
    have rowStatus := statusOf_row member
    obtain ⟨old, generatedMember, rfl⟩ := (rows.swept row).mp member
    have effect := sweepRow_effect definitionIds household.gracePeriodHours clock old
    have same := effect.sameTask
    rw [same.id, same.pointValue, rows.sameLedger]
    have settled : Actionable old.status →
        Settled old.pointValue (postings traced.db.ledger old.id) := by
      intro open_
      rcases rows.grown.adds old generatedMember with oldMember | ⟨_, unknown⟩
      · exact (accounted.booked old oldMember).settled (open_.ne (by decide))
          (open_.ne (by decide))
      · exact Or.inl (accounted.postings_unknown unknown)
    generalize sweepRow definitionIds household.gracePeriodHours clock old = row
      at effect same rowStatus
    cases effect with
    | unchanged =>
        rcases rows.grown.adds old generatedMember with
          oldMember | ⟨⟨defn, due, built⟩, _⟩
        · have unchanged : recordApproval traced.db next traced.approvedUnder
              old.id = traced.approvedUnder old.id :=
            recordApproval_same (rowStatus.trans (statusOf_row oldMember).symm)
          dsimp only
          rw [unchanged]
          exact accounted.booked old oldMember
        · have open_ : Actionable old.status := by
            rw [built]
            exact newInstance_actionable defn due _ _
          exact (settled open_).booked (open_.ne (by decide))
            (open_.ne (by decide))
    | overdue pending due =>
        exact (settled (Or.inl pending)).booked (by simp) (by simp)
    | missed open_ live expired => exact (settled open_).booked (by simp) (by simp)

theorem policy_preserves_accounted (accounted : Accounted traced)
    (households : Table Household.id) :
    Accounted ⟨{ traced.db with households := households },
      recordApproval traced.db { traced.db with households := households }
        traced.approvedUnder⟩ := by
  refine ⟨accounted.known, ?_⟩
  intro task member
  have unchanged : recordApproval traced.db { traced.db with households := households }
      traced.approvedUnder task.id = traced.approvedUnder task.id := recordApproval_same rfl
  dsimp only
  rw [unchanged]
  exact accounted.booked task member

theorem recordApproval_refl (db : Database)
    (approvedUnder : Uuid → Option ExcusedPayoutPolicy) :
    recordApproval db db approvedUnder = approvedUnder :=
  funext fun _ => recordApproval_same rfl

theorem step_preserves_accounted (accounted : Accounted traced)
    (event : LifecycleEvent) : Accounted (tracedStep pytz traced event) := by
  have idle : Accounted ⟨traced.db,
      recordApproval traced.db traced.db traced.approvedUnder⟩ := by
    rw [recordApproval_refl]
    exact accounted
  have effect := lifecycleStep_effect pytz traced.db event
  unfold tracedStep
  generalize lifecycleStep pytz traced.db event = next at effect ⊢
  cases effect with
  | unchanged => exact idle
  | called committed => exact call_preserves_accounted accounted committed
  | swept success => exact nightly_preserves_accounted accounted success
  | policySet found => exact policy_preserves_accounted accounted _

end Preservation

/-! ## Every run -/

theorem ledger_agrees_with_status (pytz : String → Option TzInfo) (db : Database)
    (fresh : FreshStart db) (events : List LifecycleEvent) :
    Always (tracedStep pytz) Agreement (tracedStart db) events := by
  have accounted : Always (tracedStep pytz) Accounted (tracedStart db) events :=
    invariant_always Accounted (fun _ event kept => step_preserves_accounted kept event)
      fresh.accounted events
  exact accounted.imp fun _ => Accounted.agreement

/-- A completion that is reversed and completed again: the second award meets
the unique index and the call is rolled back. -/
def reversalRun : List LifecycleEvent :=
  [.call ⟨-9, -9⟩ sampleTeen 1 (.complete none),
    .call ⟨-8, -8⟩ sampleParent 1 (.reverseCompletion "not done"),
    .call ⟨-7, -7⟩ sampleTeen 1 (.complete none)]

theorem ledger_agrees_after_reversal :
    Always (tracedStep fun _ => none) Agreement
      (tracedStart (sampleDatabase sampleDefinition sampleTask)) reversalRun :=
  ledger_agrees_with_status _ _
    ⟨rfl, fun task member => by
      rw [List.mem_singleton.mp member]
      exact Or.inl rfl⟩ reversalRun

end KidsChores.Properties
