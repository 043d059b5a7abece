import KidsChores.Properties.BatchItems
import KidsChores.Properties.ChoreCards

/-!
# What the services refuse

The unique indexes of the ledger and the table of the transitions have an error of their
own each.  No request runs into either, in any state the server reaches: an open task
has no entry yet, and the status checks let no trigger through that the table lacks.
-/

set_option autoImplicit false

namespace KidsChores.Properties

open KidsChores.Api
open KidsChores.Library
open KidsChores.Library.PyDatetime
open KidsChores.Library.PyText
open KidsChores.Library.Refinement
open KidsChores.Library.Runs
open KidsChores.Models
open KidsChores.Routers
open KidsChores.Routers.Approvals
open KidsChores.Routers.Tasks
open KidsChores.Routers.Wallet
open KidsChores.Server
open KidsChores.Services.Ledger
open KidsChores.Services.StateMachine
open KidsChores.Session

/-! ## The ledger -/

/-- Rows that have a household, and cards that are paid what they earn. -/
structure PaidRows (db : Database) : Prop where
  settled : SettledRows db
  paid : ∀ taskId, PaidUp (cardOf taskId db)

section Ledger

variable {db next : Database} {task : TaskInstance} {posting : Posting} {clock : Clock}

theorem PaidRows.write (rows : PaidRows db) (write : Write db next) : PaidRows next := by
  refine ⟨write.settled rows.settled, fun taskId => ?_⟩
  exact @path_keeps _ CardMove PaidUp (fun _ _ held move => move.paidUp held) _ _
    (rows.paid taskId) (write_cardPath rows.settled write taskId)

theorem PaidRows.free (rows : PaidRows db) (stored : task ∈ db.instances.rows)
    (open_ : ¬ Closed task.status) (named : posting.taskInstanceId = some task.id)
    (unwindowed : posting.seriesInstanceId = none) : posting.Free db.ledger := by
  have account : Earns task.pointValue task.status (postings db.ledger task.id) :=
    rows.paid task.id _ (cardOf_row stored)
  have unposted := account.of_open open_
  unfold postings at unposted
  rw [List.map_eq_nil_iff, List.filter_eq_nil_iff] at unposted
  rintro earlier member ⟨_, ⟨_, same⟩ | ⟨windowed, same⟩⟩
  · exact unposted earlier member (decide_eq_true (same.trans named))
  · rw [same] at windowed
    simp [Posting.entry, unwindowed] at windowed

theorem unnamed_free {ledger : Ledger} (unnamed : posting.taskInstanceId = none)
    (unwindowed : posting.seriesInstanceId = none) : posting.Free ledger := by
  rintro earlier _ ⟨_, ⟨named, same⟩ | ⟨named, same⟩⟩
  · rw [same] at named
    simp [Posting.entry, unnamed] at named
  · rw [same] at named
    simp [Posting.entry, unwindowed] at named

/-- Under a free key the ledger refuses a number alone. -/
theorem record_fails {ledger : Ledger} (free : posting.Free ledger) :
    FailsOnly (· = .dataError) (record ledger clock posting) := by
  intro raised refused
  unfold record write at refused
  split at refused
  · obtain ⟨inserted, insertion, _⟩ := @Ledger.insert?_isSome ledger (posting.entry
      (currentBalance ledger posting.memberId) clock.transaction) free
    rw [insertion] at refused
    cases refused
  · cases refused
    rfl

end Ledger

/-! ## The service calls -/

section Calls

variable {clock : Clock} {household : Models.Household} {definition : TaskDefinition}
variable {actor : Member} {task : TaskInstance} {ledger : Ledger}

/-- What the callers of the service catch, and a number out of range. -/
def Foreseen : ServiceError → Prop
  | .invalidTransition _ => True
  | .valueError _ => True
  | .dataError => True
  | .duplicateLedgerEntry _ => False
  | .keyError => False

/-- A transition that was not allowed, or a number out of range. -/
def OutOfTurn (error : ServiceError) : Prop :=
  (∃ message, error = .invalidTransition message) ∨ error = .dataError

theorem complete_fails {note : Option String}
    (free : Actionable task.status →
      (taskCompletedPosting definition actor task).Free ledger) :
    FailsOnly OutOfTurn (complete clock definition actor note task ledger) := by
  intro raised refused
  simp only [complete, bind, Except.bind, pure, Except.pure, throw, throwThe,
    MonadExceptOf.throw] at refused
  split at refused
  · cases refused
    exact Or.inl ⟨_, rfl⟩
  · rename_i guard
    have actionable : Actionable task.status := by
      unfold Actionable
      tauto
    cases reviewed : definition.requiresReview with
    | true =>
        have moved : transition task.status .completeReview = .ok .reviewPending := by
          rcases actionable with status | status <;> rw [status] <;> rfl
        simp only [reviewed, if_true, moved, reduceCtorEq, if_false] at refused
    | false =>
        have moved : transition task.status .completeAuto = .ok .complete := by
          rcases actionable with status | status <;> rw [status] <;> rfl
        simp only [reviewed, Bool.false_eq_true, if_false, moved, if_true] at refused
        split at refused
        · rename_i error paid
          cases refused
          exact Or.inr (record_fails (free actionable) _ paid)
        · cases refused

theorem submitExcuse_fails {text : String} :
    FailsOnly Foreseen (submitExcuse clock text task ledger) := by
  intro raised refused
  simp only [submitExcuse, bind, Except.bind, pure, Except.pure, throw, throwThe,
    MonadExceptOf.throw] at refused
  split at refused
  · cases refused
    trivial
  · rename_i guard
    split at refused
    · cases refused
      trivial
    · have actionable : Actionable task.status := by
        unfold Actionable
        tauto
      rcases actionable with status | status
      · simp [status, transition, transitions] at refused
      · simp [status, suspendGrace, transition, transitions] at refused

theorem cancel_fails {reason : Option String} :
    FailsOnly OutOfTurn (cancel clock actor reason task ledger) := by
  intro raised refused
  simp only [cancel, bind, Except.bind, pure, Except.pure, throw, throwThe,
    MonadExceptOf.throw] at refused
  split at refused
  · cases refused
    exact Or.inl ⟨_, rfl⟩
  · rename_i guard
    have actionable : Actionable task.status := by
      unfold Actionable
      tauto
    rcases actionable with status | status
    · simp [status, transition, transitions] at refused
    · simp [status, transition, transitions] at refused

theorem approval_refused {comment : Option String} {call : ServiceCall}
    {raised : ServiceError} (decided : decisionCall true comment task.status = some call)
    (refused : call.run clock household definition actor task ledger = .error raised) :
    ∃ posting : Posting, posting.taskInstanceId = some task.id ∧
      posting.seriesInstanceId = none ∧ record ledger clock posting = .error raised := by
  rcases decisionCall_some decided with ⟨rfl | rfl, accepted⟩
  · have inReview : task.status = .reviewPending := accepted
    simp only [ServiceCall.run, review, inReview, transition, transitions, bind, Except.bind,
      pure, Except.pure, ne_eq, not_true, false_and, if_false, if_true] at refused
    split at refused
    · rename_i error paid
      cases refused
      exact ⟨_, rfl, rfl, paid⟩
    · cases refused
  · have submitted : task.status = .excusePending := accepted
    simp only [ServiceCall.run, resolveExcuse, submitted, transition, transitions, bind,
      Except.bind, pure, Except.pure, ne_eq, not_true, false_and, if_false, if_true] at refused
    split at refused
    · rename_i error paid
      cases refused
      unfold awardExcuseIfPolicy excusePosting at paid
      cases policy : household.excusedPayoutPolicy with
      | excusedPaysNothing =>
          simp only [policy] at paid
          cases paid
      | excusedPaysPartial =>
          simp only [policy] at paid
          exact ⟨_, rfl, rfl, paid⟩
      | excusedPaysFull =>
          simp only [policy] at paid
          exact ⟨_, rfl, rfl, paid⟩
    · cases refused

theorem foreseen_of_item {error : ServiceError} (named : itemError? error ≠ none) :
    Foreseen error := by
  cases error <;> simp [itemError?, Foreseen] at named ⊢

theorem decision_fails {approve : Bool} {comment : Option String} {call : ServiceCall}
    (free : ∀ posting : Posting, posting.taskInstanceId = some task.id →
      posting.seriesInstanceId = none → posting.Free ledger)
    (decided : decisionCall approve comment task.status = some call) :
    FailsOnly Foreseen (call.run clock household definition actor task ledger) := by
  intro raised refused
  cases approve with
  | true =>
      obtain ⟨posting, named, unwindowed, unrecorded⟩ := approval_refused decided refused
      rw [record_fails (free posting named unwindowed) raised unrecorded]
      trivial
  | false => exact foreseen_of_item (denial_error decided refused)

end Calls

/-! ## The requests -/

/-- An HTTP error, a value a column refuses, or a stored response of another kind. -/
def Answerable : RequestError → Prop
  | .http _ _ => True
  | .raised error => error = .dataError
  | .uncaught _ => False
  | .integrity => False
  | .validation => True

section Steps

variable {Value : Type} {session : OpenSession} {db : Database}

theorem catchInvalidTransition_answers {result : Except ServiceError Value}
    (fails : FailsOnly OutOfTurn result) :
    FailsOnly Answerable (catchInvalidTransition result) := by
  cases result with
  | error error =>
      rcases fails error rfl with ⟨message, rfl⟩ | rfl
      · exact .raises trivial
      · exact .raises rfl
  | ok value => exact .returned value

theorem catchValueError_answers {result : Except ServiceError Value}
    (fails : FailsOnly Foreseen result) : FailsOnly Answerable (catchValueError result) := by
  cases result with
  | error error =>
      have foreseen := fails error rfl
      cases error with
      | invalidTransition message => exact .raises trivial
      | valueError message => exact .raises trivial
      | dataError => exact .raises rfl
      | duplicateLedgerEntry message => exact foreseen.elim
      | keyError => exact foreseen.elim
  | ok value => exact .returned value

theorem ofService_answers {result : Except ServiceError Value}
    (fails : FailsOnly (· = .dataError) result) : FailsOnly Answerable (ofService result) :=
  .mapError fails

theorem flush_answers : FailsOnly Answerable (ofService session.flush) := by
  refine ofService_answers ?_
  unfold OpenSession.flush
  split
  · exact .returned _
  · exact .raises rfl

theorem putCall_answers {result : TaskInstance} {ledger : Ledger} :
    FailsOnly Answerable (ofService (session.putCall result ledger)) := by
  unfold OpenSession.putCall
  dsimp only
  split
  · exact .returned _
  · exact flush_answers

theorem getCurrentMember_answers {memberId : Uuid} :
    FailsOnly Answerable (getCurrentMember db memberId) := by
  unfold getCurrentMember
  split
  · exact .raises trivial
  · exact .returned _

theorem getCurrentHousehold_answers {member : Member} :
    FailsOnly Answerable (getCurrentHousehold db member) := by
  unfold getCurrentHousehold
  split
  · exact .raises trivial
  · exact .returned _

theorem requireParent_answers (member : Member) :
    FailsOnly Answerable (requireParent member) := by
  unfold requireParent
  split
  · exact .returned _
  · exact .raises trivial

theorem ownTask_answers (detail : String) (member : Member) (task : TaskInstance) :
    FailsOnly Answerable (ownTask detail member task) := by
  unfold ownTask
  split
  · exact .raises trivial
  · exact .returned _

theorem getInstanceOr404_answers {household : Models.Household} {instanceId : Uuid} :
    FailsOnly Answerable (getInstanceOr404 db household instanceId) := by
  unfold getInstanceOr404
  split
  · exact .raises trivial
  · exact .returned _

theorem loadParent_answers {memberId : Uuid} :
    FailsOnly Answerable (loadParent db memberId) :=
  .bind getCurrentMember_answers fun _ _ => .bind (requireParent_answers _) fun _ _ =>
    .bind getCurrentHousehold_answers fun _ _ => .returned _

theorem loadForRequest_answers {request : TaskRequest}
    {role : Member → Except RequestError Unit}
    {owns : Member → TaskInstance → Except RequestError Unit}
    (roles : ∀ member, FailsOnly Answerable (role member))
    (owners : ∀ member task, FailsOnly Answerable (owns member task)) :
    FailsOnly Answerable (loadForRequest request role owns db) :=
  .bind getCurrentMember_answers fun _ _ => .bind (roles _) fun _ _ =>
    .bind getCurrentHousehold_answers fun _ _ => .bind getInstanceOr404_answers fun _ _ =>
      .bind (owners _ _) fun _ _ => .returned _

end Steps

section Handlers

variable {clock : Clock} {household : Models.Household} {definition : TaskDefinition}
variable {member : Member} {task : TaskInstance} {session : OpenSession}

theorem open_of_actionable {status : TaskStatus} (actionable : Actionable status) :
    ¬ Closed status := by
  rcases actionable with rfl | rfl <;> simp [Closed]

theorem open_of_decided {approve : Bool} {comment : Option String} {call : ServiceCall}
    {status : TaskStatus} (decided : decisionCall approve comment status = some call) :
    ¬ Closed status := by
  rintro (rfl | rfl | rfl | rfl) <;> simp [decisionCall] at decided

/-- A completion closes no window: no instance has one. -/
theorem completeHandler_answers {note : Option String} (rows : PaidRows session.db)
    (stored : task ∈ session.db.instances.rows) :
    FailsOnly Answerable
      (completeHandler clock note household definition member task session) := by
  unfold completeHandler
  refine .bind (catchInvalidTransition_answers (complete_fails fun actionable =>
    rows.free stored (open_of_actionable actionable) rfl rfl)) ?_
  rintro ⟨completed, ledger⟩ called
  refine .bind putCall_answers fun after put => ?_
  have effect : CallEffect clock household definition member task session.db.ledger
      (.complete note) completed ledger :=
    complete_effect (catchInvalidTransition_ok called)
  have unwindowed : completed.seriesInstanceId = none :=
    effect.sameTask.seriesInstanceId.trans (rows.settled.unlinked task stored)
  unfold evaluateWindow
  simp only [unwindowed]
  exact .returned _

theorem excuseHandler_answers {excuseText : String} : FailsOnly Answerable
    (excuseHandler clock excuseText household definition member task session) :=
  .bind (catchValueError_answers submitExcuse_fails) fun _ _ =>
    .bind putCall_answers fun _ _ => .bind flush_answers fun _ _ => .returned _

theorem cancelHandler_answers {reason : Option String} : FailsOnly Answerable
    (cancelHandler clock reason household definition member task session) :=
  .bind (catchInvalidTransition_answers cancel_fails) fun _ _ =>
    .bind putCall_answers fun _ _ => .returned _

theorem reviewHandler_answers {approve : Bool} {comment : Option String}
    (rows : PaidRows session.db) (stored : task ∈ session.db.instances.rows) :
    FailsOnly Answerable
      (reviewHandler clock approve comment household definition member task session) := by
  unfold reviewHandler
  rw [reviewCall_decision]
  cases decided : decisionCall approve comment task.status with
  | none => exact .raises trivial
  | some call =>
      refine .bind (catchValueError_answers (decision_fails ?_ decided)) fun _ _ =>
        .bind putCall_answers fun _ _ => .returned _
      exact fun posting => rows.free stored (open_of_decided decided)

end Handlers

section Batch

variable {transaction : Instant} {household : Models.Household} {parent : Member}

/-- What the batch of a parent works on, item after item. -/
structure BatchRows (household : Models.Household) (parent : Member) (db : Database) :
    Prop where
  rows : PaidRows db
  parentStored : parent ∈ db.members.rows
  role : parent.role = .parent
  householdFound : db.households.find? parent.householdId = some household

theorem approveItem_answers {item : BulkApproveItem} {session : OpenSession}
    (rows : PaidRows session.db) :
    FailsOnly Answerable (approveItem transaction household parent item session) := by
  unfold approveItem
  refine .bind flush_answers fun after flushed => ?_
  cases OpenSession.flush_ok (ofService_ok flushed)
  split
  · exact .returned _
  · rename_i definition task found
    have stored := Table.mem_of_find? (findInstance?_ok found).1
    rw [reviewCall_decision]
    cases decided : decisionCall item.approve item.comment task.status with
    | none => exact .returned _
    | some call =>
        have foreseen : FailsOnly Foreseen (call.run ⟨transaction, item.now⟩ household
            definition parent task session.db.ledger) :=
          decision_fails (fun posting => rows.free stored (open_of_decided decided)) decided
        dsimp only [Option.map_some]
        cases ran : call.run ⟨transaction, item.now⟩ household definition parent task
            session.db.ledger with
        | error raised =>
            have foreseen := foreseen raised ran
            cases raised with
            | invalidTransition message => exact .returned _
            | valueError message => exact .returned _
            | dataError => exact .raises rfl
            | duplicateLedgerEntry message => exact foreseen.elim
            | keyError => exact foreseen.elim
        | ok outcome => exact .bind putCall_answers fun _ _ => .returned _

theorem approveItem_rows {item : BulkApproveItem} {session next : OpenSession}
    {result : BulkApproveResultItem} (batch : BatchRows household parent session.db)
    (returned : approveItem transaction household parent item session =
      .ok (result, next)) : BatchRows household parent next.db := by
  rcases approveItem_ok returned with same | ⟨definition, task, call, decided, ledger,
    found, decision, effect, stored⟩
  · rw [same]
    exact batch
  · obtain ⟨taskFound, definitionFound, own⟩ := findInstance?_ok found
    have write : Write session.db (storeCall session.db decided ledger) :=
      .called ⟨batch.parentStored, batch.householdFound, Table.mem_of_find? taskFound,
        Table.mem_of_find? definitionFound, Table.key_of_find? definitionFound, own⟩
        (decision_entitled decision batch.role) effect
    rw [stored]
    exact ⟨batch.rows.write write, batch.parentStored, batch.role, batch.householdFound⟩

theorem runBatch_answers {items : List BulkApproveItem} {session : OpenSession}
    (batch : BatchRows household parent session.db) :
    FailsOnly Answerable (runBatch transaction household parent items session) := by
  induction items generalizing session with
  | nil => exact .returned _
  | cons item rest ih =>
      refine .bind (approveItem_answers batch.rows) ?_
      rintro ⟨result, after⟩ returned
      exact .bind (ih (approveItem_rows batch returned)) fun _ _ => .returned _

end Batch

section Requests

variable {world : World}

theorem runHandler_answers {clock : Clock} {member : Member} {key : String}
    {deserialize : Response → Except RequestError Response} {handler : Handler}
    (readable : ∀ response, FailsOnly Answerable (deserialize response))
    (fails : FailsOnly Answerable (handler ⟨world.db, true⟩)) :
    FailsOnly Answerable (runHandler clock member key deserialize handler world).2 := by
  cases cached : world.cache.get clock.now member.id key with
  | none =>
      rw [runHandler_fresh cached]
      cases ran : handler ⟨world.db, true⟩ with
      | error raised => exact .raises (fails raised ran)
      | ok outcome =>
          dsimp only
          split
          · exact .returned _
          · exact .raises rfl
  | some response =>
      unfold runHandler
      simp only [Services.Idempotency.runIdempotent, cached]
      cases read : deserialize response with
      | error raised => exact .raises (readable response raised read)
      | ok known => exact .returned _

theorem asTask_answers (response : Response) : FailsOnly Answerable (asTask response) := by
  cases response with
  | task response => exact .returned _
  | bulk results => exact .raises trivial

theorem asBulk_answers (response : Response) : FailsOnly Answerable (asBulk response) := by
  cases response with
  | task response => exact .raises trivial
  | bulk results => exact .returned _

theorem taskMutation_answers {role : Member → Except RequestError Unit}
    {owns : Member → TaskInstance → Except RequestError Unit} {handler : TaskHandler}
    {request : TaskRequest} (roles : ∀ member, FailsOnly Answerable (role member))
    (owners : ∀ member task, FailsOnly Answerable (owns member task))
    (handled : ∀ household definition member task, task ∈ world.db.instances.rows →
      FailsOnly Answerable (handler household definition member task ⟨world.db, true⟩)) :
    FailsOnly Answerable (taskMutation role owns handler request world).2 := by
  unfold taskMutation
  have loading := @loadForRequest_answers world.db request role owns roles owners
  cases loaded : loadForRequest request role owns world.db with
  | error raised => exact .raises (loading raised loaded)
  | ok found =>
      obtain ⟨member, household, definition, task⟩ := found
      have stored := Table.mem_of_find?
        (findInstance?_ok (loadForRequest_ok loaded).taskFound).1
      exact runHandler_answers asTask_answers
        ((handled household definition member task stored).map _)

theorem bulkApprove_answers {request : BulkApproveRequest} (rows : PaidRows world.db) :
    FailsOnly Answerable (bulkApprove request world).2 := by
  unfold bulkApprove
  have loading := @loadParent_answers world.db request.memberId
  cases loaded : loadParent world.db request.memberId with
  | error raised => exact .raises (loading raised loaded)
  | ok found =>
      obtain ⟨parent, household⟩ := found
      obtain ⟨parentFound, householdFound⟩ := loadParent_ok loaded
      exact runHandler_answers asBulk_answers (.map (runBatch_answers
        ⟨rows, Table.mem_of_find? parentFound, loadParent_role loaded, householdFound⟩) _)

/-- The one exception of a service that no router catches. -/
def blankReason : RequestError :=
  .raised (.valueError "A reason is required for manual adjustments.")

theorem manualAdjust_answers {request : ManualAdjust} :
    FailsOnly (fun error => Answerable error ∨
      strip request.body.reason = [] ∧ error = blankReason)
      (manualAdjust request world.db) := by
  unfold manualAdjust
  refine .bind (loadParent_answers.imp fun _ => Or.inl) ?_
  rintro ⟨parent, household⟩ _
  refine .bind ?_ fun _ _ => .bind ?_ fun _ _ => ?_
  · unfold assertSameHousehold
    split
    · split
      · exact .returned _
      · exact .raises (Or.inl trivial)
    · exact .raises (Or.inl trivial)
  · unfold manualAdjustment
    split
    · rename_i blank
      exact .raises (Or.inr ⟨blank, rfl⟩)
    · exact (ofService_answers (record_fails (unnamed_free rfl rfl))).imp fun _ => Or.inl
  · split
    · exact .returned _
    · exact .raises (Or.inl rfl)

theorem resolveStoredClaim_answers {request : ResolveClaim} :
    FailsOnly Answerable (resolveStoredClaim request world.db) := by
  unfold resolveStoredClaim
  refine .bind loadParent_answers ?_
  rintro ⟨parent, household⟩ _
  dsimp only
  split
  · exact .raises trivial
  · rename_i claim _
    refine .bind (ofService_answers ?_) ?_
    · unfold resolveClaim
      split
      · exact .bind (record_fails (unnamed_free rfl rfl)) fun _ _ => .returned _
      · exact .returned _
    · rintro ⟨resolved, ledger⟩ _
      dsimp only
      split
      · exact .returned _
      · exact .raises rfl

end Requests

/-! ## Every state -/

/-- What the requests that call the services are answered. -/
def serviceAnswer (world : World) : ApiEvent → Except RequestError Unit
  | .completeTask request note => (completeTask request note world).2.map fun _ => ()
  | .excuseTask request text => (excuseTask request text world).2.map fun _ => ()
  | .reviewTask request approve comment =>
      (reviewTask request approve comment world).2.map fun _ => ()
  | .cancelTask request reason => (cancelTask request reason world).2.map fun _ => ()
  | .bulkApprove request => (bulkApprove request world).2.map fun _ => ()
  | .manualAdjust request => (manualAdjust request world.db).map fun _ => ()
  | .resolveClaim request => (resolveStoredClaim request world.db).map fun _ => ()
  | _ => .ok ()

/-- What an event may be refused with: a blank reason only where one was sent. -/
def MayRefuse : ApiEvent → RequestError → Prop
  | .manualAdjust request, error =>
      Answerable error ∨ strip request.body.reason = [] ∧ error = blankReason
  | _, error => Answerable error

theorem serviceAnswer_fails {world : World} (rows : PaidRows world.db) (event : ApiEvent) :
    FailsOnly (MayRefuse event) (serviceAnswer world event) := by
  cases event with
  | completeTask request note =>
      exact .map (taskMutation_answers (fun _ => .returned _) (ownTask_answers _)
        fun _ _ _ _ stored => completeHandler_answers rows stored) _
  | excuseTask request text =>
      exact .map (taskMutation_answers (fun _ => .returned _) (ownTask_answers _)
        fun _ _ _ _ _ => excuseHandler_answers) _
  | reviewTask request approve comment =>
      exact .map (taskMutation_answers requireParent_answers (fun _ _ => .returned _)
        fun _ _ _ _ stored => reviewHandler_answers rows stored) _
  | cancelTask request reason =>
      exact .map (taskMutation_answers requireParent_answers (fun _ _ => .returned _)
        fun _ _ _ _ _ => cancelHandler_answers) _
  | bulkApprove request => exact .map (bulkApprove_answers rows) _
  | manualAdjust request => exact .map manualAdjust_answers _
  | resolveClaim request => exact .map resolveStoredClaim_answers _
  | _ => exact .returned _

/-- In no state of a run does a request on a task, a claim or an account fail on a unique
index of the ledger, on a transition the table lacks, or with an exception of the services
that its router lets through, a blank reason for an adjustment apart. -/
theorem refusals_foreseen (pytz : String → Option TzInfo)
    (verifyPassword : String → String → Bool) (events : List ServerEvent) :
    Always (serverStep pytz verifyPassword)
      (fun server => ∀ event, FailsOnly (MayRefuse event) (serviceAnswer server.world event))
      emptyServer events := by
  have always := (settled_always events).and (cards_paid_up pytz verifyPassword events)
  refine always.imp ?_
  rintro server ⟨settled, paid⟩ event
  exact serviceAnswer_fails ⟨settled, paid⟩ event

end KidsChores.Properties
