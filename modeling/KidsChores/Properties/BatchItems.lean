import KidsChores.Routers.Approvals
import KidsChores.Services.CallSuccess

/-!
# The items of a batch

What `bulk_approve` makes of one item, beside what the item's own review request
would do.  An item settles when neither the ledger nor a text column refuses what
it comes to; only then is the rest of the batch not touched by it.
-/

set_option autoImplicit false

namespace KidsChores.Properties

open KidsChores.Models
open KidsChores.Library
open KidsChores.Library.PyDatetime
open KidsChores.Library.PyText
open KidsChores.Library.Runs
open KidsChores.Routers
open KidsChores.Routers.Approvals
open KidsChores.Routers.Tasks
open KidsChores.Services.Ledger
open KidsChores.Services.StateMachine
open KidsChores.Session

/-! ## The decision on an instance -/

/-- The call a decision comes to, by the status of the instance. -/
def decisionCall (approve : Bool) (comment : Option String) (status : TaskStatus) :
    Option ServiceCall :=
  if status = .reviewPending then some (.review approve comment)
  else if status = .excusePending then some (.resolveExcuse approve comment)
  else none

theorem decisionCall_some {approve : Bool} {comment : Option String}
    {status : TaskStatus} {call : ServiceCall}
    (decided : decisionCall approve comment status = some call) :
    IsDecision approve comment call ∧ call.Accepts status := by
  unfold decisionCall at decided
  split at decided
  · rename_i inReview
    cases decided
    exact ⟨Or.inl rfl, inReview⟩
  · split at decided
    · rename_i submitted
      cases decided
      exact ⟨Or.inr rfl, submitted⟩
    · cases decided

section Decision

variable {clock : Clock} {household : Household} {definition : TaskDefinition}
variable {parent : Member} {task : TaskInstance} {ledger : Ledger}
variable {approve : Bool} {comment : Option String} {call : ServiceCall}

theorem reviewCall_decision :
    reviewCall clock approve comment household definition parent task ledger =
      (decisionCall approve comment task.status).map fun call =>
        call.run clock household definition parent task ledger := by
  unfold reviewCall decisionCall
  split
  · rfl
  · split <;> rfl

theorem record_error {posting : Posting} {raised : ServiceError}
    (refused : record ledger clock posting = .error raised) :
    itemError? raised = none := by
  unfold record write at refused
  split at refused
  · split at refused
    · cases refused
    · cases refused
      rfl
  · cases refused
    rfl

theorem approval_error {raised : ServiceError}
    (decided : decisionCall true comment task.status = some call)
    (refused : call.run clock household definition parent task ledger =
      .error raised) : itemError? raised = none := by
  unfold decisionCall at decided
  split at decided
  · rename_i inReview
    cases decided
    simp only [ServiceCall.run, review, inReview, transition, transitions, bind,
      Except.bind, pure, Except.pure, ne_eq, not_true, false_and, if_false,
      if_true] at refused
    split at refused
    · rename_i error paid
      cases refused
      exact record_error paid
    · cases refused
  · split at decided
    · rename_i submitted
      cases decided
      simp only [ServiceCall.run, resolveExcuse, submitted, transition, transitions,
        bind, Except.bind, pure, Except.pure, ne_eq, not_true, false_and, if_false,
        if_true] at refused
      split at refused
      · rename_i error paid
        cases refused
        unfold awardExcuseIfPolicy at paid
        split at paid
        · cases paid
        · exact record_error paid
      · cases refused
    · cases decided

theorem denial_error {raised : ServiceError}
    (decided : decisionCall false comment task.status = some call)
    (refused : call.run clock household definition parent task ledger =
      .error raised) : itemError? raised ≠ none := by
  have accepted := (decisionCall_some decided).2
  have unsaid : truthy comment = false := by
    rcases (decisionCall_some decided).1 with rfl | rfl
    · have fails := run_error_iff.mp ⟨raised, refused⟩
      by_contra said
      exact fails ⟨accepted, by simpa [ServiceCall.PassesChecks] using said⟩
    · have fails := run_error_iff.mp ⟨raised, refused⟩
      by_contra said
      exact fails ⟨accepted, by simpa [ServiceCall.PassesChecks] using said⟩
  rcases (decisionCall_some decided).1 with rfl | rfl
  · have inReview : task.status = .reviewPending := accepted
    simp only [ServiceCall.run, review, inReview, unsaid, bind, Except.bind, throw,
      throwThe, MonadExceptOf.throw, ne_eq, not_true, if_false, Bool.false_eq_true,
      not_false_eq_true, and_self, if_true, pure, Except.pure] at refused
    cases refused
    simp [itemError?]
  · have submitted : task.status = .excusePending := accepted
    simp only [ServiceCall.run, resolveExcuse, submitted, unsaid, bind, Except.bind,
      throw, throwThe, MonadExceptOf.throw, ne_eq, not_true, if_false,
      Bool.false_eq_true, not_false_eq_true, and_self, if_true, pure,
      Except.pure] at refused
    cases refused
    simp [itemError?]

theorem decision_texts {result : TaskInstance} {next : Ledger}
    (decision : IsDecision approve comment call)
    (effect : CallEffect clock household definition parent task ledger call result
      next) :
    storableTask result = storableTask { task with reviewComment := comment } := by
  rcases decision with rfl | rfl
  · cases effect <;> rfl
  · cases effect <;> rfl

end Decision

/-! ## One item -/

/-- What a review request of the item's own commits, if it succeeds. -/
def singleReview (transaction : Instant) (household : Household) (parent : Member)
    (item : BulkApproveItem) (db : Database) : Option Database :=
  match findInstance? db household item.taskInstanceId with
  | none => none
  | some (definition, task) =>
      match reviewHandler ⟨transaction, item.now⟩ item.approve item.comment household
          definition parent task ⟨db, true⟩ with
      | .error _ => none
      | .ok (_, session) => if session.flushable then some session.db else none

def singleStep (transaction : Instant) (household : Household) (parent : Member)
    (db : Database) (item : BulkApproveItem) : Database :=
  (singleReview transaction household parent item db).getD db

/-- An approval is not refused by the ledger, and the row a decision leaves has
texts its columns take. -/
def ItemSettles (household : Household) (parent : Member) (db : Database)
    (item : BulkApproveItem) : Prop :=
  ∀ definition task, findInstance? db household item.taskInstanceId =
      some (definition, task) →
    ∀ call, decisionCall item.approve item.comment task.status = some call →
      (item.approve = true →
        call.PassesChecks household definition parent task db.ledger) ∧
      (call.PassesChecks household definition parent task db.ledger →
        storableTask { task with reviewComment := item.comment } = true)

instance (household : Household) (parent : Member) (db : Database)
    (item : BulkApproveItem) : Decidable (ItemSettles household parent db item) :=
  decidable_of_iff (∀ rows ∈ findInstance? db household item.taskInstanceId,
      ∀ call ∈ decisionCall item.approve item.comment rows.2.status,
        (item.approve = true →
          call.PassesChecks household rows.1 parent rows.2 db.ledger) ∧
        (call.PassesChecks household rows.1 parent rows.2 db.ledger →
          storableTask { rows.2 with reviewComment := item.comment } = true))
    ⟨fun settles definition task found => settles (definition, task) found,
      fun settles rows found => settles rows.1 rows.2 found⟩

inductive ItemTurn (transaction : Instant) (household : Household) (parent : Member)
    (item : BulkApproveItem) (db : Database) : Prop where
  | settles (settled : ItemSettles household parent db item)
      {result : BulkApproveResultItem}
      (turn : approveItem transaction household parent item ⟨db, true⟩ =
        .ok (result, ⟨singleStep transaction household parent db item, true⟩))
      (flag : result.success =
        (singleReview transaction household parent item db).isSome)
  | raises (unsettled : ¬ ItemSettles household parent db item)
      {raised : RequestError}
      (turn : approveItem transaction household parent item ⟨db, true⟩ = .error raised)
  | spoils (unsettled : ¬ ItemSettles household parent db item)
      {result : BulkApproveResultItem} {next : Database}
      (turn : approveItem transaction household parent item ⟨db, true⟩ =
        .ok (result, ⟨next, false⟩))

section Item

variable {transaction : Instant} {household : Household} {parent : Member}
variable {item : BulkApproveItem} {db : Database}

theorem approveItem_missing
    (missing : findInstance? db household item.taskInstanceId = none) :
    ItemTurn transaction household parent item db := by
  have single : singleReview transaction household parent item db = none := by
    simp [singleReview, missing]
  refine @ItemTurn.settles _ _ _ _ _ ?_ (failedItem item "Task instance not found.")
    ?_ ?_
  · intro definition task found
    rw [missing] at found
    cases found
  · simp [approveItem, OpenSession.flush, ofService, Except.mapError, missing,
      singleStep, single, bind, Except.bind, pure, Except.pure]
  · rw [single]
    rfl

theorem approveItem_undecided {definition : TaskDefinition} {task : TaskInstance}
    (found : findInstance? db household item.taskInstanceId = some (definition, task))
    (undecided : decisionCall item.approve item.comment task.status = none) :
    ItemTurn transaction household parent item db := by
  have called : reviewCall ⟨transaction, item.now⟩ item.approve item.comment household
      definition parent task db.ledger = none := by
    rw [reviewCall_decision, undecided]
    rfl
  have single : singleReview transaction household parent item db = none := by
    simp [singleReview, found, reviewHandler, called]
  refine @ItemTurn.settles _ _ _ _ _ ?_ (failedItem item (notPendingReview task)) ?_ ?_
  · intro other otherTask otherFound call decided
    rw [found] at otherFound
    cases otherFound
    rw [undecided] at decided
    cases decided
  · simp [approveItem, OpenSession.flush, ofService, Except.mapError, found, called,
      singleStep, single, bind, Except.bind, pure, Except.pure]
  · rw [single]
    rfl

theorem catchValueError_error {Value : Type} (raised : ServiceError) :
    ∃ error, catchValueError (.error raised : Except ServiceError Value) =
      .error error := by
  cases raised <;> exact ⟨_, rfl⟩

theorem approveItem_refused {definition : TaskDefinition} {task : TaskInstance}
    {call : ServiceCall} {raised : ServiceError}
    (found : findInstance? db household item.taskInstanceId = some (definition, task))
    (decided : decisionCall item.approve item.comment task.status = some call)
    (refused : call.run ⟨transaction, item.now⟩ household definition parent task
      db.ledger = .error raised) :
    ItemTurn transaction household parent item db := by
  have called : reviewCall ⟨transaction, item.now⟩ item.approve item.comment household
      definition parent task db.ledger = some (.error raised) := by
    rw [reviewCall_decision, decided, Option.map_some, refused]
  have single : singleReview transaction household parent item db = none := by
    obtain ⟨error, caught⟩ := @catchValueError_error (TaskInstance × Ledger) raised
    simp [singleReview, found, reviewHandler, called, caught, bind, Except.bind]
  have fails : ¬ call.PassesChecks household definition parent task db.ledger :=
    fun passes => run_error_iff.mp ⟨raised, refused⟩
      ⟨(decisionCall_some decided).2, passes⟩
  cases approve : item.approve with
  | true =>
      rw [approve] at decided
      have uncaught := approval_error decided refused
      refine @ItemTurn.raises _ _ _ _ _ (fun settled => ?_) (.raised raised) ?_
      · rw [← approve] at decided
        exact fails ((settled definition task found call decided).1 approve)
      · simp [approveItem, OpenSession.flush, ofService, Except.mapError, found, called,
          uncaught, bind, Except.bind]
  | false =>
      have caught := denial_error (approve ▸ decided) refused
      obtain ⟨message, messageEq⟩ := Option.ne_none_iff_exists'.mp caught
      refine @ItemTurn.settles _ _ _ _ _ ?_ (failedItem item message) ?_ ?_
      · intro other otherTask otherFound otherCall otherDecided
        rw [found] at otherFound
        cases otherFound
        rw [decided] at otherDecided
        cases otherDecided
        refine ⟨fun approved => ?_, fun passes => (fails passes).elim⟩
        rw [approve] at approved
        cases approved
      · simp [approveItem, OpenSession.flush, ofService, Except.mapError, found, called,
          messageEq, singleStep, single, bind, Except.bind, pure, Except.pure]
      · rw [single]
        rfl

theorem approveItem_decided {definition : TaskDefinition} {task result : TaskInstance}
    {call : ServiceCall} {ledger : Ledger}
    (found : findInstance? db household item.taskInstanceId = some (definition, task))
    (decided : decisionCall item.approve item.comment task.status = some call)
    (returned : call.run ⟨transaction, item.now⟩ household definition parent task
      db.ledger = .ok (result, ledger)) :
    ItemTurn transaction household parent item db := by
  have called : reviewCall ⟨transaction, item.now⟩ item.approve item.comment household
      definition parent task db.ledger = some (.ok (result, ledger)) := by
    rw [reviewCall_decision, decided, Option.map_some, returned]
  have effect := run_effect returned
  have texts := decision_texts (decisionCall_some decided).1 effect
  cases storable : storableTask result with
  | true =>
      have single : singleReview transaction household parent item db =
          some (storeCall db result ledger) := by
        simp [singleReview, found, reviewHandler, called, catchValueError,
          catchInvalidTransition, ofService, Except.mapError,
          OpenSession.putCall_storable storable, bind, Except.bind, pure, Except.pure]
      refine @ItemTurn.settles _ _ _ _ _ ?_ (approvedItem item result) ?_ ?_
      · intro other otherTask otherFound otherCall otherDecided
        rw [found] at otherFound
        cases otherFound
        rw [decided] at otherDecided
        cases otherDecided
        exact ⟨fun _ => effect.passesChecks, fun _ => texts.symm.trans storable⟩
      · simp [approveItem, OpenSession.flush, ofService, Except.mapError, found, called,
          OpenSession.putCall_storable storable, singleStep, single, bind, Except.bind,
          pure, Except.pure]
      · rw [single]
        rfl
  | false =>
      have unsettled : ¬ ItemSettles household parent db item := by
        intro settled
        have stored := (settled definition task found call decided).2
          effect.passesChecks
        rw [← texts, storable] at stored
        cases stored
      rcases @OpenSession.putCall_unstorable db result ledger storable with put | put
      · refine @ItemTurn.raises _ _ _ _ _ unsettled (.raised .dataError) ?_
        simp [approveItem, OpenSession.flush, ofService, Except.mapError, found, called,
          put, bind, Except.bind]
      · refine @ItemTurn.spoils _ _ _ _ _ unsettled (approvedItem item result)
          (storeCall db result ledger) ?_
        simp [approveItem, OpenSession.flush, ofService, Except.mapError, found, called,
          put, bind, Except.bind, pure, Except.pure]

theorem approveItem_turn (transaction : Instant) (household : Household)
    (parent : Member) (item : BulkApproveItem) (db : Database) :
    ItemTurn transaction household parent item db := by
  cases found : findInstance? db household item.taskInstanceId with
  | none => exact approveItem_missing found
  | some rows =>
      obtain ⟨definition, task⟩ := rows
      cases decided : decisionCall item.approve item.comment task.status with
      | none => exact approveItem_undecided found decided
      | some call =>
          cases ran : call.run ⟨transaction, item.now⟩ household definition parent task
              db.ledger with
          | error raised => exact approveItem_refused found decided ran
          | ok outcome =>
              obtain ⟨result, ledger⟩ := outcome
              exact approveItem_decided found decided ran

end Item

/-! ## The batch -/

def singleFlags (transaction : Instant) (household : Household) (parent : Member) :
    Database → List BulkApproveItem → List Bool
  | _, [] => []
  | db, item :: rest =>
      (singleReview transaction household parent item db).isSome ::
        singleFlags transaction household parent
          (singleStep transaction household parent db item) rest

section Batch

variable {transaction : Instant} {household : Household} {parent : Member}

theorem runBatch_settled {items : List BulkApproveItem} {db : Database}
    (settled : EachMeets (singleStep transaction household parent)
      (ItemSettles household parent) db items) :
    ∃ results, runBatch transaction household parent items ⟨db, true⟩ =
        .ok (results, ⟨runFrom (singleStep transaction household parent) db items, true⟩) ∧
      results.map BulkApproveResultItem.success =
        singleFlags transaction household parent db items := by
  induction items generalizing db with
  | nil => exact ⟨[], rfl, rfl⟩
  | cons item rest ih =>
      cases approveItem_turn transaction household parent item db with
      | @settles _ result turn flag =>
          obtain ⟨results, ran, flags⟩ := ih settled.2
          refine ⟨result :: results, ?_, ?_⟩
          · simp [runBatch, turn, ran, runFrom, bind, Except.bind, pure, Except.pure]
          · rw [List.map_cons, flags, flag]
            rfl
      | raises unsettled => exact (unsettled settled.1).elim
      | spoils unsettled => exact (unsettled settled.1).elim

theorem runBatch_spoiled {items : List BulkApproveItem} {session next : OpenSession}
    {results : List BulkApproveResultItem} (spoiled : session.flushable = false)
    (ran : runBatch transaction household parent items session =
      .ok (results, next)) : next.flushable = false := by
  cases items with
  | nil =>
      cases ran
      exact spoiled
  | cons item rest =>
      simp [runBatch, approveItem, OpenSession.flush, spoiled, ofService,
        Except.mapError, bind, Except.bind] at ran

/-- An item that does not settle ends the batch: at once, at the next flush, or at
the commit. -/
theorem runBatch_unsettled {items : List BulkApproveItem} {db : Database}
    (unsettled : ¬ EachMeets (singleStep transaction household parent)
      (ItemSettles household parent) db items)
    {results : List BulkApproveResultItem} {next : OpenSession}
    (ran : runBatch transaction household parent items ⟨db, true⟩ =
      .ok (results, next)) : next.flushable = false := by
  induction items generalizing db results with
  | nil => exact (unsettled trivial).elim
  | cons item rest ih =>
      cases approveItem_turn transaction household parent item db with
      | @settles settled result turn flag =>
          obtain ⟨_, turned, ran⟩ := bind_ok ran
          cases turn.symm.trans turned
          obtain ⟨later, remaining, ran⟩ := bind_ok ran
          cases ran
          exact ih (fun meets => unsettled ⟨settled, meets⟩) remaining
      | raises _ turn =>
          obtain ⟨_, turned, _⟩ := bind_ok ran
          cases turn.symm.trans turned
      | spoils _ turn =>
          obtain ⟨_, turned, ran⟩ := bind_ok ran
          cases turn.symm.trans turned
          obtain ⟨later, remaining, ran⟩ := bind_ok ran
          cases ran
          exact runBatch_spoiled rfl remaining

end Batch

end KidsChores.Properties
