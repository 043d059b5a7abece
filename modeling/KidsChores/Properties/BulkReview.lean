import KidsChores.Lifecycle
import KidsChores.Properties.BatchItems

/-!
# A batch against single reviews

The items of a batch share one session and one commit.  A batch does what its
items would do one request each as long as no item meets an error that is not
caught, none spoils the session for the commit, and none would have notified a
teen.
-/

set_option autoImplicit false

namespace KidsChores.Properties

open KidsChores.Lifecycle
open KidsChores.Models
open KidsChores.Library
open KidsChores.Library.PyDatetime
open KidsChores.Library.Runs
open KidsChores.Routers
open KidsChores.Routers.Approvals
open KidsChores.Routers.Tasks
open KidsChores.Services.Idempotency
open KidsChores.Services.Ledger
open KidsChores.Services.Notifications
open KidsChores.Services.StateMachine
open KidsChores.Session

/-! ## The requests -/

def itemRequest (request : BulkApproveRequest) (key : String)
    (item : BulkApproveItem) : TaskRequest where
  clock := ⟨request.clock.transaction, item.now⟩
  memberId := request.memberId
  instanceId := item.taskInstanceId
  idempotencyKey := key

/-- Each item in order as its own request, under a key of its own: what is left,
which requests succeeded, and what was sent. -/
def reviewEach (request : BulkApproveRequest) (key : Nat → String) :
    Nat → List BulkApproveItem → World → World × List Bool × List Push
  | _, [], world => (world, [], [])
  | n, item :: rest, world =>
      let single := itemRequest request (key n) item
      let (after, response) := reviewTask single item.approve item.comment world
      let pushes := reviewPushes single item.approve item.comment world
      let (final, flags, later) := reviewEach request key (n + 1) rest after
      (final, response.isOk :: flags, pushes ++ later)

/-- `bulk_approve` calls none of the notifications. -/
def bulkPushes (_ : BulkApproveRequest) (_ : World) : List Push := []

def reviewFields (task : TaskInstance) :
    Uuid × TaskStatus × Option Uuid × Option Instant × Option String :=
  (task.id, task.status, task.reviewedBy, task.reviewedAt, task.reviewComment)

structure BulkEqualsSingles (request : BulkApproveRequest) (key : Nat → String)
    (world : World) : Prop where
  flags : ∃ results, (bulkApprove request world).2 = .ok (.bulk results) ∧
    results.map BulkApproveResultItem.success =
      (reviewEach request key 0 request.items world).2.1
  reviews : (bulkApprove request world).1.db.instances.rows.map reviewFields =
    (reviewEach request key 0 request.items world).1.db.instances.rows.map reviewFields
  ledger : (bulkApprove request world).1.db.ledger.entries =
    (reviewEach request key 0 request.items world).1.db.ledger.entries
  pushes : bulkPushes request world =
    (reviewEach request key 0 request.items world).2.2

/-- The item settles, and resolves no excuse of a teen whose device is known. -/
def ItemMatches (household : Household) (parent : Member) (db : Database)
    (item : BulkApproveItem) : Prop :=
  ItemSettles household parent db item ∧
    ∀ definition task assignee, findInstance? db household item.taskInstanceId =
        some (definition, task) →
      task.status = .excusePending →
      (ServiceCall.resolveExcuse item.approve item.comment).PassesChecks household
        definition parent task db.ledger →
      db.members.find? task.assigneeId = some assignee → assignee.pushToken = none

instance (household : Household) (parent : Member) (db : Database)
    (item : BulkApproveItem) : Decidable (ItemMatches household parent db item) :=
  decidable_of_iff (ItemSettles household parent db item ∧
      ∀ rows ∈ findInstance? db household item.taskInstanceId,
        ∀ assignee ∈ db.members.find? rows.2.assigneeId,
          rows.2.status = .excusePending →
          (ServiceCall.resolveExcuse item.approve item.comment).PassesChecks household
            rows.1 parent rows.2 db.ledger →
          assignee.pushToken = none)
    ⟨fun matched => ⟨matched.1, fun definition task assignee found waiting passes member =>
        matched.2 (definition, task) found assignee member waiting passes⟩,
      fun matched => ⟨matched.1, fun rows found assignee member waiting passes =>
        matched.2 rows.1 rows.2 assignee found waiting passes member⟩⟩

/-! ## A request under a fresh key -/

theorem singleReview_ok {transaction : Instant} {household : Household}
    {parent : Member} {item : BulkApproveItem} {db next : Database}
    (reviewed : singleReview transaction household parent item db = some next) :
    ∃ task ledger, next = storeCall db task ledger := by
  unfold singleReview at reviewed
  split at reviewed
  · cases reviewed
  · split at reviewed
    · cases reviewed
    · rename_i result session returned
      split at reviewed
      · cases reviewed
        obtain ⟨_, ledger, _, _, stored⟩ := reviewHandler_ok returned
        exact ⟨_, ledger, stored⟩
      · cases reviewed

theorem loadParent_singleStep (transaction : Instant) (household : Household)
    (parent : Member) (db : Database) (item : BulkApproveItem) (memberId : Uuid) :
    loadParent (singleStep transaction household parent db item) memberId =
      loadParent db memberId := by
  unfold singleStep
  cases reviewed : singleReview transaction household parent item db with
  | none => rfl
  | some next =>
      obtain ⟨task, ledger, rfl⟩ := singleReview_ok reviewed
      rfl

theorem loadForRequest_parent {request : TaskRequest} {db : Database}
    {parent : Member} {household : Household}
    (loaded : loadParent db request.memberId = .ok (parent, household)) :
    loadForRequest request requireParent anyTask db =
      (getInstanceOr404 db household request.instanceId).map fun rows =>
        (parent, household, rows.1, rows.2) := by
  unfold loadParent at loaded
  obtain ⟨member, memberFound, loaded⟩ := bind_ok loaded
  obtain ⟨_, roleOk, loaded⟩ := bind_ok loaded
  obtain ⟨home, homeFound, loaded⟩ := bind_ok loaded
  cases loaded
  simp only [loadForRequest, memberFound, roleOk, homeFound, anyTask, bind, Except.bind,
    pure, Except.pure]
  cases getInstanceOr404 db household request.instanceId <;> rfl

theorem loadParent_id {db : Database} {memberId : Uuid} {parent : Member}
    {household : Household} (loaded : loadParent db memberId = .ok (parent, household)) :
    parent.id = memberId :=
  Table.key_of_find? (loadParent_ok loaded).1

def Unused (cache : Cache Response) (memberId : Uuid) (idempotencyKey : String) :
    Prop :=
  ∀ entry ∈ cache, entry.memberId = memberId → entry.idempotencyKey ≠ idempotencyKey

theorem Unused.get {cache : Cache Response} {memberId : Uuid} {idempotencyKey : String}
    (unused : Unused cache memberId idempotencyKey) (now : Instant) :
    cache.get now memberId idempotencyKey = none := by
  rw [Cache.get_eq_none_iff]
  intro entry member own same
  exact (unused entry member own same).elim

theorem Unused.setNx {cache : Cache Response} {memberId otherMember : Uuid}
    {idempotencyKey otherKey : String} {now : Instant} {response : Response}
    (unused : Unused cache memberId idempotencyKey)
    (other : otherKey ≠ idempotencyKey) :
    Unused (cache.setNx now otherMember otherKey response) memberId idempotencyKey := by
  intro entry member own
  unfold Cache.setNx at member
  split at member
  · exact unused entry member own
  · rcases List.mem_cons.mp member with rfl | earlier
    · exact other
    · exact unused entry earlier own

def singlePush (transaction : Instant) (household : Household) (parent : Member)
    (db : Database) (item : BulkApproveItem) : List Push :=
  match findInstance? db household item.taskInstanceId with
  | none => []
  | some (definition, task) =>
      match reviewHandler ⟨transaction, item.now⟩ item.approve item.comment household
          definition parent task ⟨db, true⟩ with
      | .error _ => []
      | .ok _ => resolvedPushes db definition task item.approve

/-- A review under an unused key does what its handler does, and leaves the other
keys as they were. -/
structure FreshReview (request : BulkApproveRequest) (key : String) (parent : Member)
    (household : Household) (item : BulkApproveItem) (world : World) : Prop where
  db : (reviewTask (itemRequest request key item) item.approve item.comment world).1.db =
    singleStep request.clock.transaction household parent world.db item
  flag : (reviewTask (itemRequest request key item) item.approve item.comment
    world).2.isOk =
      (singleReview request.clock.transaction household parent item world.db).isSome
  pushes : reviewPushes (itemRequest request key item) item.approve item.comment world =
    singlePush request.clock.transaction household parent world.db item
  unused : ∀ other, other ≠ key → Unused world.cache request.memberId other →
    Unused (reviewTask (itemRequest request key item) item.approve item.comment
      world).1.cache request.memberId other

section Fresh

variable {request : BulkApproveRequest} {key : String} {parent : Member}
variable {household : Household} {item : BulkApproveItem} {world : World}

theorem reviewTask_missing
    (loaded : loadParent world.db request.memberId = .ok (parent, household))
    (missing : findInstance? world.db household item.taskInstanceId = none) :
    FreshReview request key parent household item world := by
  have refused : loadForRequest (itemRequest request key item) requireParent anyTask
      world.db = .error (.http 404 "Task instance not found.") := by
    rw [@loadForRequest_parent (itemRequest request key item) _ _ _ loaded]
    simp [itemRequest, getInstanceOr404, missing, Except.map]
  have single : singleReview request.clock.transaction household parent item world.db =
      none := by
    simp [singleReview, missing]
  constructor
  · simp [reviewTask, taskMutation, refused, singleStep, single]
  · simp [reviewTask, taskMutation, refused, single, Except.isOk, Except.toBool]
  · simp [reviewPushes, refused, singlePush, missing]
  · intro other _ unused
    simpa [reviewTask, taskMutation, refused] using unused

theorem reviewTask_run {definition : TaskDefinition} {task : TaskInstance}
    (missing : world.cache.get item.now parent.id key = none)
    (allowed : loadForRequest (itemRequest request key item) requireParent anyTask
      world.db = .ok (parent, household, definition, task)) :
    reviewTask (itemRequest request key item) item.approve item.comment world =
      match reviewHandler ⟨request.clock.transaction, item.now⟩ item.approve item.comment
          household definition parent task ⟨world.db, true⟩ with
      | .error raised => (world, .error raised)
      | .ok (result, session) =>
          let response := Response.task (.ofTask result)
          let cache := world.cache.setNx item.now parent.id key response
          if session.flushable then (⟨session.db, cache⟩, .ok response)
          else ({ world with cache := cache }, .error (.raised .dataError)) := by
  simp only [reviewTask, taskMutation, allowed]
  rw [@runHandler_fresh (itemRequest request key item).clock parent
    (itemRequest request key item).idempotencyKey asTask _ world missing]
  simp only [itemRequest]
  cases reviewHandler ⟨request.clock.transaction, item.now⟩ item.approve item.comment
    household definition parent task ⟨world.db, true⟩ with
  | error raised => rfl
  | ok outcome => rfl

/-- The outcome of a handler that ran, committed or rolled back. -/
theorem reviewTask_found {definition : TaskDefinition} {task : TaskInstance}
    (loaded : loadParent world.db request.memberId = .ok (parent, household))
    (fresh : Unused world.cache request.memberId key)
    (found : findInstance? world.db household item.taskInstanceId =
      some (definition, task)) :
    FreshReview request key parent household item world := by
  have missing : world.cache.get item.now parent.id key = none := by
    rw [loadParent_id loaded]
    exact fresh.get item.now
  have allowed : loadForRequest (itemRequest request key item) requireParent anyTask
      world.db = .ok (parent, household, definition, task) := by
    rw [@loadForRequest_parent (itemRequest request key item) _ _ _ loaded]
    simp [itemRequest, getInstanceOr404, found, Except.map]
  have ran := @reviewTask_run request key parent household item world definition task
    missing allowed
  cases handled : reviewHandler ⟨request.clock.transaction, item.now⟩ item.approve
      item.comment household definition parent task ⟨world.db, true⟩ with
  | error raised =>
      have single : singleReview request.clock.transaction household parent item
          world.db = none := by
        simp [singleReview, found, handled]
      simp only [itemRequest, handled] at ran
      constructor
      · simp [itemRequest, ran, singleStep, single]
      · simp [itemRequest, ran, single, Except.isOk, Except.toBool]
      · simp only [reviewPushes, allowed]
        simp [itemRequest, missing, singlePush, found, handled]
      · intro other _ unused
        simpa [itemRequest, ran] using unused
  | ok outcome =>
      obtain ⟨result, session⟩ := outcome
      have pushes : reviewPushes (itemRequest request key item) item.approve item.comment
          world = singlePush request.clock.transaction household parent world.db item := by
        simp only [reviewPushes, allowed]
        simp [itemRequest, missing, singlePush, found, handled]
      simp only [itemRequest, handled] at ran
      cases flushable : session.flushable with
      | true =>
          have single : singleReview request.clock.transaction household parent item
              world.db = some session.db := by
            simp [singleReview, found, handled, flushable]
          simp only [flushable, if_true] at ran
          refine ⟨?_, ?_, pushes, ?_⟩
          · simp [itemRequest, ran, singleStep, single]
          · simp [itemRequest, ran, single, Except.isOk, Except.toBool]
          · intro other different unused
            simp only [itemRequest, ran]
            exact unused.setNx different.symm
      | false =>
          have single : singleReview request.clock.transaction household parent item
              world.db = none := by
            simp [singleReview, found, handled, flushable]
          simp only [flushable, Bool.false_eq_true, if_false] at ran
          refine ⟨?_, ?_, pushes, ?_⟩
          · simp [itemRequest, ran, singleStep, single]
          · simp [itemRequest, ran, single, Except.isOk, Except.toBool]
          · intro other different unused
            simp only [itemRequest, ran]
            exact unused.setNx different.symm

theorem reviewTask_fresh
    (loaded : loadParent world.db request.memberId = .ok (parent, household))
    (fresh : Unused world.cache request.memberId key) :
    FreshReview request key parent household item world := by
  cases found : findInstance? world.db household item.taskInstanceId with
  | none => exact reviewTask_missing loaded found
  | some rows => exact reviewTask_found loaded fresh found

end Fresh

/-! ## The requests in order -/

def singlePushes (transaction : Instant) (household : Household) (parent : Member) :
    Database → List BulkApproveItem → List Push
  | _, [] => []
  | db, item :: rest =>
      singlePush transaction household parent db item ++
        singlePushes transaction household parent
          (singleStep transaction household parent db item) rest

theorem reviewEach_fresh {request : BulkApproveRequest} {key : Nat → String}
    {parent : Member} {household : Household} (distinct : Function.Injective key)
    {items : List BulkApproveItem} {n : Nat} {world : World}
    (loaded : loadParent world.db request.memberId = .ok (parent, household))
    (fresh : ∀ later, n ≤ later → Unused world.cache request.memberId (key later)) :
    (reviewEach request key n items world).1.db =
        runFrom (singleStep request.clock.transaction household parent) world.db items ∧
      (reviewEach request key n items world).2.1 =
        singleFlags request.clock.transaction household parent world.db items ∧
      (reviewEach request key n items world).2.2 =
        singlePushes request.clock.transaction household parent world.db items := by
  induction items generalizing n world with
  | nil => exact ⟨rfl, rfl, rfl⟩
  | cons item rest ih =>
      have review : FreshReview request (key n) parent household item world :=
        reviewTask_fresh loaded (fresh n (Nat.le_refl n))
      have loadedLater : loadParent (reviewTask (itemRequest request (key n) item)
          item.approve item.comment world).1.db request.memberId =
            .ok (parent, household) := by
        rw [review.db, loadParent_singleStep]
        exact loaded
      obtain ⟨db, flags, pushes⟩ := @ih (n + 1) _ loadedLater (by
        intro later after
        refine review.unused (key later) (fun same => ?_) (fresh later (by omega))
        have := distinct same
        omega)
      rw [review.db] at db flags pushes
      refine ⟨db, ?_, ?_⟩
      · simp only [reviewEach, singleFlags, review.flag, flags]
      · simp only [reviewEach, singlePushes, review.pushes, pushes]

section Matches

variable {transaction : Instant} {household : Household} {parent : Member}

theorem reviewHandler_isOk_iff {db : Database} {item : BulkApproveItem}
    {definition : TaskDefinition} {task : TaskInstance} {call : ServiceCall}
    (settled : ItemSettles household parent db item)
    (found : findInstance? db household item.taskInstanceId = some (definition, task))
    (decided : decisionCall item.approve item.comment task.status = some call) :
    (∃ outcome, reviewHandler ⟨transaction, item.now⟩ item.approve item.comment
        household definition parent task ⟨db, true⟩ = .ok outcome) ↔
      call.PassesChecks household definition parent task db.ledger := by
  have called : reviewCall ⟨transaction, item.now⟩ item.approve item.comment household
      definition parent task db.ledger = some (call.run ⟨transaction, item.now⟩ household
        definition parent task db.ledger) := by
    rw [reviewCall_decision, decided, Option.map_some]
  have accepted := (decisionCall_some decided).2
  by_cases passes : call.PassesChecks household definition parent task db.ledger
  · obtain ⟨result, ledger, returned⟩ := (@run_isOk_iff ⟨transaction, item.now⟩ household
      definition parent task db.ledger call).mpr ⟨accepted, passes⟩
    have texts := decision_texts (decisionCall_some decided).1 (run_effect returned)
    have storable : storableTask result = true :=
      texts.trans ((settled definition task found call decided).2 passes)
    rw [returned] at called
    have returns : reviewHandler ⟨transaction, item.now⟩ item.approve item.comment
        household definition parent task ⟨db, true⟩ =
          .ok (result, ⟨storeCall db result ledger, true⟩) := by
      simp [reviewHandler, called, catchValueError, catchInvalidTransition, ofService,
        Except.mapError, OpenSession.putCall_storable storable, bind, Except.bind, pure,
        Except.pure]
    exact iff_of_true ⟨_, returns⟩ passes
  · obtain ⟨raised, refused⟩ := (@run_error_iff ⟨transaction, item.now⟩ household
      definition parent task db.ledger call).mpr fun both => passes both.2
    obtain ⟨error, caught⟩ := @catchValueError_error (TaskInstance × Ledger) raised
    rw [refused] at called
    have raises : reviewHandler ⟨transaction, item.now⟩ item.approve item.comment
        household definition parent task ⟨db, true⟩ = .error error := by
      simp [reviewHandler, called, caught, bind, Except.bind]
    refine iff_of_false ?_ passes
    rintro ⟨outcome, returned⟩
    cases raises.symm.trans returned

theorem resolvedPushes_eq_nil_iff {db : Database} {definition : TaskDefinition}
    {task : TaskInstance} {approve : Bool} :
    resolvedPushes db definition task approve = [] ↔ (task.status = .excusePending →
      ∀ assignee, db.members.find? task.assigneeId = some assignee →
        assignee.pushToken = none) := by
  unfold resolvedPushes
  by_cases submitted : task.status = .excusePending
  · rw [if_pos submitted]
    cases member : db.members.find? task.assigneeId with
    | none => simp
    | some assignee =>
        cases token : assignee.pushToken <;> simp [notifyExcuseResolved, submitted, token]
  · simp [submitted]

theorem itemMatches_missing {db : Database} {item : BulkApproveItem}
    (settled : ItemSettles household parent db item)
    (missing : findInstance? db household item.taskInstanceId = none) :
    ItemMatches household parent db item := by
  refine ⟨settled, ?_⟩
  intro definition task assignee found
  rw [missing] at found
  cases found

theorem itemMatches_found {db : Database} {item : BulkApproveItem}
    {definition : TaskDefinition} {task : TaskInstance}
    (settled : ItemSettles household parent db item)
    (found : findInstance? db household item.taskInstanceId = some (definition, task)) :
    ItemMatches household parent db item ↔ (task.status = .excusePending →
      (ServiceCall.resolveExcuse item.approve item.comment).PassesChecks household
        definition parent task db.ledger →
      ∀ assignee, db.members.find? task.assigneeId = some assignee →
        assignee.pushToken = none) := by
  constructor
  · intro matched submitted passes assignee
    exact matched.2 definition task assignee found submitted passes
  · intro unknown
    refine ⟨settled, ?_⟩
    intro other otherTask assignee otherFound submitted passes
    obtain ⟨rfl, rfl⟩ := Prod.mk.inj (Option.some.inj (found.symm.trans otherFound))
    exact unknown submitted passes assignee

/-- An item that settles sends nothing exactly when it resolves no excuse of a teen
whose device is known. -/
theorem singlePush_eq_nil_iff {db : Database} {item : BulkApproveItem}
    (settled : ItemSettles household parent db item) :
    singlePush transaction household parent db item = [] ↔
      ItemMatches household parent db item := by
  cases found : findInstance? db household item.taskInstanceId with
  | none => simp [singlePush, found, itemMatches_missing settled found]
  | some rows =>
      obtain ⟨definition, task⟩ := rows
      rw [itemMatches_found settled found]
      have returns := fun submitted : task.status = .excusePending =>
        @reviewHandler_isOk_iff transaction household parent db item definition task
          (.resolveExcuse item.approve item.comment) settled found
          (by simp [decisionCall, submitted])
      cases handled : reviewHandler ⟨transaction, item.now⟩ item.approve item.comment
          household definition parent task ⟨db, true⟩ with
      | error raised =>
          have silent : singlePush transaction household parent db item = [] := by
            simp [singlePush, found, handled]
          refine iff_of_true silent ?_
          intro submitted passes
          obtain ⟨outcome, returned⟩ := (returns submitted).mpr passes
          cases handled.symm.trans returned
      | ok outcome =>
          have push : singlePush transaction household parent db item =
              resolvedPushes db definition task item.approve := by
            simp [singlePush, found, handled]
          rw [push, resolvedPushes_eq_nil_iff]
          constructor
          · intro silent submitted _
            exact silent submitted
          · intro unknown submitted
            exact unknown submitted ((returns submitted).mp ⟨outcome, handled⟩)

theorem singlePushes_eq_nil_iff {db : Database} {items : List BulkApproveItem}
    (settled : EachMeets (singleStep transaction household parent)
      (ItemSettles household parent) db items) :
    singlePushes transaction household parent db items = [] ↔
      EachMeets (singleStep transaction household parent)
        (ItemMatches household parent) db items := by
  induction items generalizing db with
  | nil => exact ⟨fun _ => trivial, fun _ => rfl⟩
  | cons item rest ih =>
      rw [singlePushes, List.append_eq_nil_iff, singlePush_eq_nil_iff settled.1,
        ih settled.2]
      rfl

end Matches

/-! ## A batch under a fresh key -/

section Request

variable {request : BulkApproveRequest} {world : World} {parent : Member}
variable {household : Household}

theorem bulkApprove_settled
    (loaded : loadParent world.db request.memberId = .ok (parent, household))
    (fresh : Unused world.cache request.memberId request.idempotencyKey)
    (settled : EachMeets (singleStep request.clock.transaction household parent)
      (ItemSettles household parent) world.db request.items) :
    (bulkApprove request world).1.db =
        runFrom (singleStep request.clock.transaction household parent) world.db
          request.items ∧
      ∃ results, (bulkApprove request world).2 = .ok (.bulk results) ∧
        results.map BulkApproveResultItem.success =
          singleFlags request.clock.transaction household parent world.db
            request.items := by
  obtain ⟨results, ran, flags⟩ := runBatch_settled settled
  have missing : world.cache.get request.clock.now parent.id request.idempotencyKey =
      none := by
    rw [loadParent_id loaded]
    exact fresh.get request.clock.now
  simp only [bulkApprove, loaded]
  rw [runHandler_fresh missing, ran]
  exact ⟨rfl, results, rfl, flags⟩

theorem bulkApprove_unsettled
    (loaded : loadParent world.db request.memberId = .ok (parent, household))
    (fresh : Unused world.cache request.memberId request.idempotencyKey)
    (unsettled : ¬ EachMeets (singleStep request.clock.transaction household parent)
      (ItemSettles household parent) world.db request.items) :
    ∃ raised, (bulkApprove request world).2 = .error raised := by
  have missing : world.cache.get request.clock.now parent.id request.idempotencyKey =
      none := by
    rw [loadParent_id loaded]
    exact fresh.get request.clock.now
  simp only [bulkApprove, loaded]
  rw [runHandler_fresh missing]
  cases ran : runBatch request.clock.transaction household parent request.items
      ⟨world.db, true⟩ with
  | error raised => exact ⟨raised, rfl⟩
  | ok outcome =>
      obtain ⟨results, session⟩ := outcome
      have spoiled := runBatch_unsettled unsettled ran
      simp only [Except.map, spoiled, Bool.false_eq_true, if_false]
      exact ⟨_, rfl⟩

end Request

def reviewedFamily : Database :=
  { sampleDatabase { sampleDefinition with requiresReview := true } sampleTask with
    instances := ⟨[sampleTask, { sampleTask with id := 2 }], by decide⟩ }

/-- The first task is approved, reversed before it is due and completed again; the
second waits for its first review. -/
def resubmitted : Database :=
  runFrom (lifecycleStep fun _ => none) reviewedFamily
    [.call ⟨-9, -9⟩ sampleTeen 1 (.complete none),
      .call ⟨-8, -8⟩ sampleParent 1 (.review true none),
      .call ⟨-7, -7⟩ sampleParent 1 (.reverseCompletion "not done"),
      .call ⟨-6, -6⟩ sampleTeen 1 (.complete none),
      .call ⟨-5, -5⟩ sampleTeen 2 (.complete none)]

def approval (taskInstanceId : Uuid) : BulkApproveItem :=
  { taskInstanceId := taskInstanceId, approve := true, now := -3 }

def sampleBatch (items : List BulkApproveItem) (minLength : items ≠ []) :
    BulkApproveRequest where
  clock := ⟨-4, -4⟩
  memberId := 1
  idempotencyKey := "batch"
  items := items
  minLength := minLength

def reviewKey (n : Nat) : String := String.ofList (List.replicate n 'r')

theorem reviewKey_injective : Function.Injective reviewKey := by
  intro first second same
  simpa [reviewKey] using congrArg String.length same

/-- The second task, one that does not exist, and the second task again. -/
def goodBatch : BulkApproveRequest :=
  sampleBatch [approval 2, approval 9, approval 2] (by simp)

def badBatch : BulkApproveRequest :=
  sampleBatch [approval 1, approval 2] (by simp)

end KidsChores.Properties
