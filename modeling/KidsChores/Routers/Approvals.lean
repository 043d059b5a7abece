import KidsChores.Library.Runs
import KidsChores.Routers.Tasks

/-!
# Approvals router

`bulk_approve` of `app/routers/approvals.py`: the items of a batch share one
session, so each sees what the earlier ones did.  An item that is refused fails
alone; any other exception takes the whole batch back.
-/

set_option autoImplicit false

namespace KidsChores.Routers.Approvals

open KidsChores.Models
open KidsChores.Library
open KidsChores.Library.PyDatetime
open KidsChores.Library.Runs
open KidsChores.Routers.Tasks
open KidsChores.Services.StateMachine
open KidsChores.Session

structure BulkApproveItem where
  taskInstanceId : Uuid
  approve : Bool
  comment : Option String := none
  /-- What the service reads from the clock when the item's turn comes. -/
  now : Instant
  deriving DecidableEq, Repr

structure BulkApproveRequest where
  clock : Clock
  memberId : Uuid
  idempotencyKey : String
  items : List BulkApproveItem
  minLength : items ≠ []
  deriving DecidableEq, Repr

def failedItem (item : BulkApproveItem) (message : String) :
    BulkApproveResultItem where
  taskInstanceId := item.taskInstanceId
  success := false
  error := some message

def approvedItem (item : BulkApproveItem) (task : TaskInstance) :
    BulkApproveResultItem where
  taskInstanceId := item.taskInstanceId
  success := true
  status := some task.status

/-- `except (InvalidTransitionError, ValueError)`: what an item may fail with. -/
def itemError? : ServiceError → Option String
  | .invalidTransition message => some message
  | .valueError message => some message
  | _ => none

/-- One turn of the loop.  The select flushes what the items before it left. -/
def approveItem (transaction : Instant) (household : Household) (parent : Member)
    (item : BulkApproveItem) (session : OpenSession) :
    Except RequestError (BulkApproveResultItem × OpenSession) := do
  let session ← ofService session.flush
  match findInstance? session.db household item.taskInstanceId with
  | none => return (failedItem item "Task instance not found.", session)
  | some (definition, task) =>
      match reviewCall ⟨transaction, item.now⟩ item.approve item.comment household
          definition parent task session.db.ledger with
      | none => return (failedItem item (notPendingReview task), session)
      | some (.error raised) =>
          match itemError? raised with
          | some message => return (failedItem item message, session)
          | none => .error (.raised raised)
      | some (.ok (result, ledger)) => do
          let session ← ofService (session.putCall result ledger)
          return (approvedItem item result, session)

def runBatch (transaction : Instant) (household : Household) (parent : Member) :
    List BulkApproveItem → OpenSession →
      Except RequestError (List BulkApproveResultItem × OpenSession)
  | [], session => .ok ([], session)
  | item :: rest, session => do
      let (result, session) ← approveItem transaction household parent item session
      let (results, session) ← runBatch transaction household parent rest session
      return (result :: results, session)

def bulkApprove (request : BulkApproveRequest) (world : World) :
    World × Except RequestError Response :=
  match loadParent world.db request.memberId with
  | .error raised => (world, .error raised)
  | .ok (parent, household) =>
      runHandler request.clock parent request.idempotencyKey asBulk
        (fun session =>
          (runBatch request.clock.transaction household parent request.items
            session).map fun result => (.bulk result.1, result.2))
        world

/-! ## What a batch leaves -/

section Batch

variable {transaction : Instant} {household : Household} {parent : Member}

/-- An item changes nothing, or is one decision on the instance it found. -/
theorem approveItem_ok {item : BulkApproveItem} {session next : OpenSession}
    {result : BulkApproveResultItem}
    (returned : approveItem transaction household parent item session =
      .ok (result, next)) :
    next.db = session.db ∨
      ∃ definition task call decided ledger,
        findInstance? session.db household item.taskInstanceId =
          some (definition, task) ∧
        IsDecision item.approve item.comment call ∧
        CallEffect ⟨transaction, item.now⟩ household definition parent task
          session.db.ledger call decided ledger ∧
        next.db = storeCall session.db decided ledger := by
  unfold approveItem at returned
  obtain ⟨after, flushed, returned⟩ := bind_ok returned
  cases OpenSession.flush_ok (ofService_ok flushed)
  split at returned
  · cases returned
    exact Or.inl rfl
  · rename_i definition task found
    split at returned
    · cases returned
      exact Or.inl rfl
    · split at returned
      · cases returned
        exact Or.inl rfl
      · cases returned
    · rename_i decided ledger called
      obtain ⟨call, decision, effect⟩ := reviewCall_effect called
      obtain ⟨stored, put, returned⟩ := bind_ok returned
      cases returned
      exact Or.inr ⟨definition, task, call, decided, ledger, found, decision, effect,
        OpenSession.putCall_ok (ofService_ok put)⟩

/-- The session after an item; an item that ends the batch leaves none. -/
def itemStep (transaction : Instant) (household : Household) (parent : Member)
    (session : OpenSession) (item : BulkApproveItem) : OpenSession :=
  match approveItem transaction household parent item session with
  | .ok (_, next) => next
  | .error _ => session

/-- The invariant rule for a batch: what an item that meets `condition` keeps, a
batch of such items keeps. -/
theorem runBatch_keeps (invariant : Database → Prop)
    {condition : OpenSession → BulkApproveItem → Prop}
    (kept : ∀ session item result next, invariant session.db →
      condition session item →
      approveItem transaction household parent item session = .ok (result, next) →
      invariant next.db)
    {items : List BulkApproveItem} {session next : OpenSession}
    {results : List BulkApproveResultItem} (start : invariant session.db)
    (meets : EachMeets (itemStep transaction household parent) condition session
      items)
    (ran : runBatch transaction household parent items session =
      .ok (results, next)) :
    invariant next.db := by
  induction items generalizing session results with
  | nil =>
      cases ran
      exact start
  | cons item rest ih =>
      obtain ⟨⟨result, after⟩, returned, ran⟩ := bind_ok ran
      obtain ⟨later, remaining, ran⟩ := bind_ok ran
      cases ran
      have step : itemStep transaction household parent session item = after := by
        simp only [itemStep, returned]
      refine ih (kept session item result after start meets.1 returned) ?_ remaining
      rw [← step]
      exact meets.2

end Batch

theorem bulkApprove_db (request : BulkApproveRequest) (world : World) :
    (bulkApprove request world).1.db = world.db ∨
      ∃ parent household results session,
        loadParent world.db request.memberId = .ok (parent, household) ∧
        world.cache.get request.clock.now parent.id request.idempotencyKey = none ∧
        runBatch request.clock.transaction household parent request.items
          ⟨world.db, true⟩ = .ok (results, session) ∧
        (bulkApprove request world).1.db = session.db := by
  unfold bulkApprove
  split
  · exact Or.inl rfl
  · rename_i parent household loaded
    rcases runHandler_db request.clock parent request.idempotencyKey asBulk _ world with
      same | ⟨response, session, fresh, returned, committed⟩
    · exact Or.inl same
    · right
      cases ran : runBatch request.clock.transaction household parent request.items
          ⟨world.db, true⟩ with
      | error raised =>
          rw [ran] at returned
          cases returned
      | ok outcome =>
          rw [ran] at returned
          cases returned
          exact ⟨parent, household, outcome.1, outcome.2, loaded, fresh, ran,
            committed⟩

end KidsChores.Routers.Approvals
