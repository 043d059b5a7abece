import KidsChores.Properties.Accounts
import KidsChores.Properties.ServerWrites

/-!
# The chore card

What the backend is for, one chore at a time: a card is dealt to a member with its
points, moves along the table, and is paid when it is done or excused.  The server
refines this machine, whatever requests and nightly runs come in which order.
-/

set_option autoImplicit false

namespace KidsChores.Properties

open KidsChores.Api
open KidsChores.Library
open KidsChores.Library.PyDatetime
open KidsChores.Library.Refinement
open KidsChores.Library.Runs
open KidsChores.Lifecycle
open KidsChores.Models
open KidsChores.Routers.Wallet
open KidsChores.Server
open KidsChores.Services.Ledger
open KidsChores.Services.StateMachine
open KidsChores.Session
open KidsChores.Workers.GenerateInstances
open Relation

/-! ## The machine -/

structure Card where
  assigneeId : Uuid
  points : Int
  status : TaskStatus
  account : List Posted
  deriving DecidableEq, Repr

/-- What a card is paid as it gets a status. -/
inductive Earns (points : Int) : TaskStatus → List Posted → Prop where
  | done : Earns points .complete [(.taskCompleted, points)]
  | excused (policy : ExcusedPayoutPolicy) :
      Earns points .excused (excusePostings policy points)
  | nothing {status : TaskStatus} (notDone : status ≠ .complete)
      (notExcused : status ≠ .excused) : Earns points status []

/-- The triggers of requests and nightly runs: no endpoint reverses a completion. -/
def Forward (trigger : Trigger) : Prop :=
  trigger ≠ .parentReversesBeforeDue ∧ trigger ≠ .parentReversesAfterDue

inductive CardMove : Option Card → Option Card → Prop where
  | dealt {assigneeId : Uuid} {points : Int} {status : TaskStatus}
      (actionable : Actionable status) :
      CardMove none (some ⟨assigneeId, points, status, []⟩)
  | moved {card : Card} {trigger : Trigger} {next : TaskStatus} {pay : List Posted}
      (forward : Forward trigger) (offered : transitions card.status trigger = some next)
      (pays : Earns card.points next pay) :
      CardMove (some card)
        (some { card with status := next, account := card.account ++ pay })

/-- Nothing leads out of these. -/
def Closed (status : TaskStatus) : Prop :=
  status = .complete ∨ status = .excused ∨ status = .missed ∨ status = .cancelled

instance (status : TaskStatus) : Decidable (Closed status) :=
  inferInstanceAs (Decidable (_ ∨ _))

theorem open_of_forward {status next : TaskStatus} {trigger : Trigger}
    (forward : Forward trigger) (offered : transitions status trigger = some next) :
    ¬ Closed status := by
  rintro (rfl | rfl | rfl | rfl) <;> cases trigger <;>
    simp [transitions, Forward] at forward offered

theorem forward_of_open {status next : TaskStatus} {trigger : Trigger}
    (notDone : status ≠ .complete) (offered : transitions status trigger = some next) :
    Forward trigger := by
  constructor <;> rintro rfl <;> cases status <;> simp [transitions] at offered notDone

def PaidUp (card? : Option Card) : Prop :=
  ∀ card ∈ card?, Earns card.points card.status card.account

theorem unpaid_of_actionable {status : TaskStatus} (actionable : Actionable status) :
    status ≠ .complete ∧ status ≠ .excused := by
  rcases actionable with rfl | rfl <;> simp

theorem Earns.of_open {points : Int} {status : TaskStatus} {account : List Posted}
    (pays : Earns points status account) (open_ : ¬ Closed status) : account = [] := by
  cases pays with
  | done => exact absurd (Or.inl rfl) open_
  | excused policy => exact absurd (Or.inr (Or.inl rfl)) open_
  | nothing => rfl

theorem CardMove.paidUp {before after : Option Card} (move : CardMove before after)
    (paid : PaidUp before) : PaidUp after := by
  cases move with
  | dealt actionable =>
      rintro card ⟨⟩
      exact .nothing (unpaid_of_actionable actionable).1 (unpaid_of_actionable actionable).2
  | @moved card trigger next pay forward offered pays =>
      rintro result ⟨⟩
      have unpaid := (paid card rfl).of_open (open_of_forward forward offered)
      simpa [unpaid] using pays

/-! ## The server refines it -/

/-- The card of an instance: its row, and its entries in the ledger. -/
def cardOf (taskId : Uuid) (db : Database) : Option Card :=
  (db.instances.find? taskId).map fun task =>
    ⟨task.assigneeId, task.pointValue, task.status, postings db.ledger taskId⟩

section Refinement

variable {db next : Database} {taskId : Uuid}

theorem cardOf_row {task : TaskInstance} (stored : task ∈ db.instances.rows) :
    cardOf task.id db =
      some ⟨task.assigneeId, task.pointValue, task.status, postings db.ledger task.id⟩ := by
  unfold cardOf
  rw [Table.find?_self db.instances stored]
  rfl

theorem cardOf_same (sameInstances : next.instances = db.instances)
    (samePostings : postings next.ledger taskId = postings db.ledger taskId) :
    cardOf taskId next = cardOf taskId db := by
  unfold cardOf
  rw [sameInstances, samePostings]

theorem SettledRows.unposted (settled : SettledRows db)
    (absent : db.instances.find? taskId = none) : postings db.ledger taskId = [] := by
  unfold postings
  rw [List.map_eq_nil_iff, List.filter_eq_nil_iff]
  intro entry member named
  obtain ⟨task, stored, same, _⟩ := settled.posted entry member taskId (of_decide_eq_true named)
  exact Table.find?_eq_none_iff.mp absent task stored same

theorem call_pays {clock : Clock} {actor : Member} {household : Household}
    {definition : TaskDefinition} {task result : TaskInstance} {ledger nextLedger : Ledger}
    {call : ServiceCall}
    (effect : CallEffect clock household definition actor task ledger call result nextLedger)
    (entitled : Entitled actor task call) :
    ∃ pay, Earns task.pointValue result.status pay ∧
      postings nextLedger task.id = postings ledger task.id ++ pay := by
  cases effect with
  | completed _ _ paid | approved _ paid =>
      refine ⟨_, .done, ?_⟩
      rw [postings_record paid]
      simp [taskCompletedPosting, completionRow, decisionRow]
  | excuseApproved _ paid =>
      refine ⟨_, .excused household.excusedPayoutPolicy, ?_⟩
      rw [postings_excuse paid]
      simp [decisionRow]
  | reversedBeforeDue | reversedAfterDue => exact entitled.elim
  | sentToReview | excusedWhilePending | excusedWhileOverdue | deniedBeforeDue
  | deniedAfterDue | excuseDeniedInGrace | excuseDeniedExpired | cancelled =>
      exact ⟨[], .nothing (by simp) (by simp), (List.append_nil _).symm⟩

theorem call_cardMove {clock : Clock} {actor : Member} {household : Household}
    {definition : TaskDefinition} {task result : TaskInstance} {ledger : Ledger}
    {call : ServiceCall} (stored : task ∈ db.instances.rows)
    (entitled : Entitled actor task call)
    (effect : CallEffect clock household definition actor task db.ledger call result
      ledger) :
    CardMove (cardOf task.id db) (cardOf task.id (storeCall db result ledger)) := by
  have same := effect.sameTask
  have accepted := effect.accepts
  obtain ⟨trigger, offered⟩ := effect.offered accepted
  obtain ⟨pay, pays, posted⟩ := call_pays effect entitled
  have notDone : task.status ≠ .complete := by
    intro done
    rw [done] at accepted
    cases call <;> simp [ServiceCall.Accepts, Actionable, Entitled] at accepted entitled
  have saved : (storeCall db result ledger).instances.find? task.id = some result :=
    Table.find?_save_same (Table.find?_self db.instances stored) same.id
  rw [cardOf_row stored, cardOf, saved, Option.map_some, same.assigneeId, same.pointValue]
  have left : postings (storeCall db result ledger).ledger task.id =
      postings db.ledger task.id ++ pay := posted
  rw [left]
  exact .moved (forward_of_open notDone offered) offered pays

/-- A row the sweeps move goes along the table, through overdue. -/
theorem sweep_cardPath {definitionIds : List Uuid} {hours : Int} {clock : JobClock}
    {task swept : TaskInstance} {account : List Posted}
    (effect : SweepEffect definitionIds hours clock task swept) :
    ReflTransGen CardMove (some ⟨task.assigneeId, task.pointValue, task.status, account⟩)
      (some ⟨swept.assigneeId, swept.pointValue, swept.status, account⟩) := by
  have moved : ∀ status next trigger, Forward trigger →
      transitions status trigger = some next → next ≠ .complete → next ≠ .excused →
      CardMove (some ⟨task.assigneeId, task.pointValue, status, account⟩)
        (some ⟨task.assigneeId, task.pointValue, next, account⟩) := by
    intro status next trigger forward offered notDone notExcused
    have move : CardMove (some ⟨task.assigneeId, task.pointValue, status, account⟩) _ :=
      .moved forward offered (.nothing notDone notExcused)
    rw [List.append_nil] at move
    exact move
  have expires := moved .overdue .missed .graceExpires (by simp [Forward]) rfl (by simp)
    (by simp)
  have passes := moved .pending .overdue .duePasses (by simp [Forward]) rfl (by simp) (by simp)
  cases effect with
  | unchanged => exact .refl
  | overdue pending _ =>
      rw [pending]
      exact .single passes
  | missed open_ _ _ =>
      rcases open_ with pending | overdue
      · rw [pending]
        exact (ReflTransGen.single passes).tail expires
      · rw [overdue]
        exact .single expires

theorem call_cardPath {clock : Clock} {actor : Member} {household : Household}
    {definition : TaskDefinition} {task result : TaskInstance} {ledger : Ledger}
    {call : ServiceCall} (stored : task ∈ db.instances.rows)
    (entitled : Entitled actor task call)
    (effect : CallEffect clock household definition actor task db.ledger call result
      ledger) (taskId : Uuid) :
    ReflTransGen CardMove (cardOf taskId db)
      (cardOf taskId (storeCall db result ledger)) := by
  by_cases own : taskId = task.id
  · subst own
    exact .single (call_cardMove stored entitled effect)
  · have other : (storeCall db result ledger).instances.find? taskId =
        db.instances.find? taskId := by
      refine Table.find?_save_other ?_
      rw [effect.sameTask.id]
      exact Ne.symm own
    have unposted : postings (storeCall db result ledger).ledger taskId =
        postings db.ledger taskId := postings_call_other effect own
    have same : cardOf taskId (storeCall db result ledger) = cardOf taskId db := by
      unfold cardOf
      rw [other, unposted]
    rw [same]

theorem generated_cardPath (settled : SettledRows db) (definition : TaskDefinition)
    (due now : Instant) (taskId : Uuid) :
    ReflTransGen CardMove (cardOf taskId db) (cardOf taskId { db with
      instances := db.instances.append (newInstance definition due now) fun _ => rfl }) := by
  cases found : db.instances.find? taskId with
  | some task =>
      have still : (db.instances.append (newInstance definition due now) fun _ => rfl).find?
          taskId = some task := by
        obtain ⟨stored, named⟩ := Table.find?_eq_some_iff.mp found
        exact Table.find?_eq_some_iff.mpr ⟨List.mem_append_left _ stored, named⟩
      have same : cardOf taskId { db with
          instances := db.instances.append (newInstance definition due now) fun _ => rfl } =
          cardOf taskId db := by
        unfold cardOf
        rw [still, found]
      rw [same]
  | none =>
      have undealt : cardOf taskId db = none := by
        unfold cardOf
        rw [found]
        rfl
      rw [undealt, cardOf]
      cases added : (db.instances.append (newInstance definition due now) fun _ => rfl).find?
          taskId with
      | none => exact .refl
      | some task =>
          obtain ⟨stored, named⟩ := Table.find?_eq_some_iff.mp added
          have fresh : task = newInstance definition due now db.instances.freshKey := by
            rcases List.mem_append.mp stored with old | new
            · exact absurd named (Table.find?_eq_none_iff.mp found task old)
            · exact List.mem_singleton.mp new
          rw [Option.map_some, settled.unposted found, fresh]
          exact .single (.dealt (newInstance_actionable definition due now _))

theorem swept_cardPath (definitionIds : List Uuid) (hours : Int) (clock : JobClock)
    (taskId : Uuid) :
    ReflTransGen CardMove (cardOf taskId db) (cardOf taskId { db with
      instances := sweepMissed definitionIds hours clock.now
        (sweepOverdue definitionIds clock.dueNow db.instances) }) := by
  cases found : db.instances.find? taskId with
  | some task =>
      obtain ⟨stored, named⟩ := Table.find?_eq_some_iff.mp found
      have effect := sweepRow_effect definitionIds hours clock task
      have swept : (sweepMissed definitionIds hours clock.now
          (sweepOverdue definitionIds clock.dueNow db.instances)).find? taskId =
            some (sweepRow definitionIds hours clock task) :=
        Table.find?_eq_some_iff.mpr ⟨mem_sweeps.mpr ⟨task, stored, rfl⟩,
          effect.sameTask.id.trans named⟩
      unfold cardOf
      rw [swept, found, Option.map_some, Option.map_some]
      exact sweep_cardPath effect
  | none =>
      have absent : (sweepMissed definitionIds hours clock.now
          (sweepOverdue definitionIds clock.dueNow db.instances)).find? taskId = none := by
        rw [Table.find?_eq_none_iff] at found ⊢
        intro row member
        obtain ⟨old, oldMember, effect⟩ := of_mem_sweeps member
        rw [effect.sameTask.id]
        exact found old oldMember
      unfold cardOf
      rw [absent, found]

theorem unnamed_postings {ledger : Ledger} {clock : Clock} {posting : Posting}
    (recorded : record db.ledger clock posting = .ok ledger)
    (unnamed : posting.taskInstanceId = none) (taskId : Uuid) :
    postings ledger taskId = postings db.ledger taskId := by
  refine postings_record_other recorded ?_
  rw [unnamed]
  exact Option.some_ne_none taskId |>.symm

theorem write_cardPath (settled : SettledRows db) (write : Write db next) (taskId : Uuid) :
    ReflTransGen CardMove (cardOf taskId db) (cardOf taskId next) := by
  have unchanged : next.instances = db.instances →
      postings next.ledger taskId = postings db.ledger taskId →
      ReflTransGen CardMove (cardOf taskId db) (cardOf taskId next) := by
    intro sameInstances samePostings
    rw [cardOf_same sameInstances samePostings]
  cases write with
  | called acts entitled effect => exact call_cardPath acts.taskStored entitled effect taskId
  | generated => exact generated_cardPath settled _ _ _ taskId
  | swept => exact swept_cardPath _ _ _ taskId
  | adjusted _ recorded => exact unchanged rfl (unnamed_postings recorded rfl taskId)
  | claimResolved _ _ _ resolution =>
      refine unchanged rfl ?_
      obtain ⟨_, _, _, unpaid | paid⟩ := resolveClaim_same resolution
      · rw [unpaid]
      · exact unnamed_postings paid rfl taskId
  | familyFounded founded =>
      rw [(foundFamily_rows founded).1]
      exact .refl
  | claimed | definitionAdded | definitionSaved | seriesAdded | seriesSaved | householdSaved
  | teenAdded | memberSaved => exact unchanged rfl rfl

end Refinement

/-! ## Closed rows -/

def entriesOf (ledger : Ledger) (taskId : Uuid) : List LedgerEntry :=
  ledger.entries.filter fun entry => entry.taskInstanceId = some taskId

def ClosedKept (db next : Database) : Prop :=
  ∀ task ∈ db.instances.rows, Closed task.status →
    task ∈ next.instances.rows ∧ entriesOf next.ledger task.id = entriesOf db.ledger task.id

section ClosedRows

variable {db next : Database}

theorem entriesOf_record {ledger posted : Ledger} {clock : Clock} {posting : Posting}
    (recorded : record ledger clock posting = .ok posted) {taskId : Uuid}
    (other : posting.taskInstanceId ≠ some taskId) :
    entriesOf posted taskId = entriesOf ledger taskId := by
  have dropped : [posting.entry (currentBalance ledger posting.memberId)
      clock.transaction].filter (fun entry => entry.taskInstanceId = some taskId) = [] := by
    rw [List.filter_eq_nil_iff]
    intro entry member named
    rw [List.mem_singleton.mp member] at named
    exact other (of_decide_eq_true named)
  unfold entriesOf
  rw [(record_ok recorded).1, List.filter_append, dropped, List.append_nil]

theorem sweepRow_closed {task : TaskInstance} (closed : Closed task.status)
    (definitionIds : List Uuid) (hours : Int) (clock : JobClock) :
    sweepRow definitionIds hours clock task = task := by
  have pending : task.status ≠ .pending := by
    rintro same
    rw [same] at closed
    simp [Closed] at closed
  have overdue : task.status ≠ .overdue := by
    rintro same
    rw [same] at closed
    simp [Closed] at closed
  simp [sweepRow, pending, overdue]

theorem call_open {clock : Clock} {actor : Member} {household : Household}
    {definition : TaskDefinition} {task result : TaskInstance} {ledger nextLedger : Ledger}
    {call : ServiceCall} (entitled : Entitled actor task call)
    (effect : CallEffect clock household definition actor task ledger call result nextLedger) :
    ¬ Closed task.status := by
  have accepted := effect.accepts
  intro closed
  cases call with
  | reverseCompletion reason => exact entitled
  | _ => rcases closed with same | same | same | same <;>
      simp [same, ServiceCall.Accepts, Actionable] at accepted

theorem write_closed (write : Write db next) : ClosedKept db next := by
  have unchanged : next.instances = db.instances →
      (∀ taskId, entriesOf next.ledger taskId = entriesOf db.ledger taskId) →
      ClosedKept db next := by
    intro sameInstances sameEntries task stored _
    rw [sameInstances, sameEntries]
    exact ⟨stored, rfl⟩
  cases write with
  | @called clock actor household definition open_ result ledger call acts entitled effect =>
      intro task stored closed
      have other : task.id ≠ open_.id := by
        intro same
        have one := db.instances.row_unique stored acts.taskStored same
        rw [one] at closed
        exact call_open entitled effect closed
      refine ⟨Table.mem_save.mpr (Or.inr ⟨stored, ?_⟩), ?_⟩
      · rw [effect.sameTask.id]
        exact other
      · rcases effect.posts with unposted | ⟨posting, recorded, _, _, named⟩
        · exact congrArg (entriesOf · task.id) unposted
        · refine entriesOf_record recorded ?_
          rw [named]
          exact fun same => other (Option.some.inj same).symm
  | generated =>
      intro task stored _
      exact ⟨List.mem_append_left _ stored, rfl⟩
  | swept =>
      intro task stored closed
      exact ⟨mem_sweeps.mpr ⟨task, stored, (sweepRow_closed closed _ _ _).symm⟩, rfl⟩
  | adjusted _ recorded => exact unchanged rfl fun taskId => entriesOf_record recorded nofun
  | claimResolved _ _ _ resolution =>
      refine unchanged rfl fun taskId => ?_
      obtain ⟨_, _, _, unpaid | paid⟩ := resolveClaim_same resolution
      · rw [unpaid]
      · exact entriesOf_record paid nofun
  | familyFounded founded =>
      rw [(foundFamily_rows founded).1]
      exact fun task stored _ => ⟨stored, rfl⟩
  | claimed | definitionAdded | definitionSaved | seriesAdded | seriesSaved | householdSaved
  | teenAdded | memberSaved => exact unchanged rfl fun _ => rfl

theorem ClosedKept.trans {later : Database} (early : ClosedKept db next)
    (late : ClosedKept next later) : ClosedKept db later := by
  intro task stored closed
  obtain ⟨kept, same⟩ := early task stored closed
  obtain ⟨stays, equal⟩ := late task kept closed
  exact ⟨stays, equal.trans same⟩

end ClosedRows

/-! ## Every run -/

section Runs

variable (pytz : String → Option TzInfo) (verifyPassword : String → String → Bool)

theorem server_refines_card (taskId : Uuid) :
    Refines (serverStep pytz verifyPassword) (fun server => SettledRows server.world.db)
      (fun server => cardOf taskId server.world.db) CardMove :=
  (server_refines_writes pytz verifyPassword).comp (fun _ settled => settled)
    (fun _ _ settled write => write.settled settled)
    (fun _ _ settled write => write_cardPath settled write taskId)

/-- Between any two states of a run every card goes along the table; it is never dealt
twice and never taken back. -/
theorem cards_follow_table (before after : List ServerEvent) (taskId : Uuid) :
    ReflTransGen CardMove
      (cardOf taskId (served pytz verifyPassword before).world.db)
      (cardOf taskId (served pytz verifyPassword (before ++ after)).world.db) := by
  have settled : SettledRows (served pytz verifyPassword before).world.db :=
    (server_refines_writes pytz verifyPassword).invariant_run emptyServer_settled before
  have later := (server_refines_card pytz verifyPassword taskId).run settled after
  unfold served at later ⊢
  rw [runFrom_append]
  exact later

/-- In every state of a run each card is paid what its status pays, no more and no
less. -/
theorem cards_paid_up (events : List ServerEvent) :
    Always (serverStep pytz verifyPassword)
      (fun server => ∀ taskId, PaidUp (cardOf taskId server.world.db)) emptyServer events := by
  refine writes_always (fun db => ∀ taskId, PaidUp (cardOf taskId db)) ?_ ?_ events
  · rintro taskId card ⟨⟩
  · intro db next settled paid write taskId
    exact path_keeps (fun _ _ held move => move.paidUp held) (paid taskId)
      (write_cardPath settled write taskId)

/-- Once a task is complete, excused, missed or cancelled, no request and no nightly run
changes a column of it or adds an entry for it. -/
theorem closed_tasks_kept (before after : List ServerEvent) :
    ClosedKept (served pytz verifyPassword before).world.db
      (served pytz verifyPassword (before ++ after)).world.db := by
  have settled : SettledRows (served pytz verifyPassword before).world.db :=
    (server_refines_writes pytz verifyPassword).invariant_run emptyServer_settled before
  have path := (server_refines_writes pytz verifyPassword).run settled after
  unfold served at path ⊢
  rw [runFrom_append]
  exact path_relates (fun _ _ stored _ => ⟨stored, rfl⟩)
    (fun _ _ _ _ early write => early.trans (write_closed write)) (fun _ _ _ _ => trivial)
    trivial path

end Runs

end KidsChores.Properties
