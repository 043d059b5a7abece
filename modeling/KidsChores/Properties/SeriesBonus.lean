import KidsChores.Properties.SeriesWindow
import KidsChores.Routers.Approvals

/-!
# When a series bonus is paid

Requests on the tasks of one window, executed one after another.  Only
`complete_task` looks at the window, so a window whose last task is approved by a
parent is earned and stays unpaid.
-/

set_option autoImplicit false

namespace KidsChores.Properties

open KidsChores.Models
open KidsChores.Library
open KidsChores.Library.Runs
open KidsChores.Routers
open KidsChores.Routers.Approvals
open KidsChores.Routers.Tasks
open KidsChores.Services.SeriesCompletion
open KidsChores.Services.StateMachine
open KidsChores.Session

inductive SeriesRequest where
  | complete (request : TaskRequest) (note : Option String)
  | excuse (request : TaskRequest) (excuseText : String)
  | review (request : TaskRequest) (approve : Bool) (comment : Option String)
  | bulk (request : BulkApproveRequest)

def serve (world : World) : SeriesRequest → World
  | .complete request note => (completeTask request note world).1
  | .excuse request excuseText => (excuseTask request excuseText world).1
  | .review request approve comment => (reviewTask request approve comment world).1
  | .bulk request => (bulkApprove request world).1

def bonusEntries (ledger : Ledger) (windowId : Uuid) : Nat :=
  ledger.entries.countP fun entry =>
    entry.entryType = .seriesBonus ∧ entry.seriesInstanceId = some windowId

def BonusRight (windowId : Uuid) (db : Database) : Prop :=
  if Earned (linkedInstances db windowId) then
    (db.seriesInstances.find? windowId).map SeriesInstance.status = some .complete ∧
      bonusEntries db.ledger windowId = 1
  else bonusEntries db.ledger windowId = 0

instance (windowId : Uuid) : DecidablePred (BonusRight windowId) := fun db => by
  unfold BonusRight
  infer_instance

theorem bonusEntries_eq (ledger : Ledger) (windowId : Uuid) :
    bonusEntries ledger windowId =
      (windowPostings ledger windowId).countP fun posted =>
        posted.1 = .seriesBonus := by
  simp only [bonusEntries, windowPostings, List.countP_map, List.countP_filter]
  apply List.countP_congr
  intro entry _
  simp

theorem WindowState.bonusRight {windowId : Uuid} {db : Database}
    (state : WindowState windowId db) : BonusRight windowId db := by
  unfold BonusRight
  rw [bonusEntries_eq]
  cases state with
  | outstanding found active notEarned unpaid =>
      rw [if_neg notEarned, unpaid]
      rfl
  | paid found complete earned seriesFound once =>
      rw [if_pos earned, once]
      rw [found, Option.map_some, complete]
      exact ⟨rfl, rfl⟩

/-! ## Approvals that earn a window unseen -/

/-- The item does not approve the last instance the window waits for. -/
def ItemLeavesOpen (windowId : Uuid) (household : Household) (session : OpenSession)
    (item : BulkApproveItem) : Prop :=
  match findInstance? session.db household item.taskInstanceId with
  | none => True
  | some (_, task) => item.approve = true → ¬ ApprovesLast windowId session.db task

def LeavesOpen (windowId : Uuid) (world : World) : SeriesRequest → Prop
  | .complete _ _ => True
  | .excuse _ _ => True
  | .review request approve _ =>
      match loadForRequest request requireParent anyTask world.db with
      | .error _ => True
      | .ok (parent, _, _, task) =>
          world.cache.get request.clock.now parent.id request.idempotencyKey = none →
            approve = true → ¬ ApprovesLast windowId world.db task
  | .bulk request =>
      match loadParent world.db request.memberId with
      | .error _ => True
      | .ok (parent, household) =>
          world.cache.get request.clock.now parent.id request.idempotencyKey = none →
            EachMeets (itemStep request.clock.transaction household parent)
              (ItemLeavesOpen windowId household) ⟨world.db, true⟩ request.items

instance (windowId : Uuid) (household : Household) (session : OpenSession)
    (item : BulkApproveItem) :
    Decidable (ItemLeavesOpen windowId household session item) := by
  unfold ItemLeavesOpen
  split <;> infer_instance

instance (windowId : Uuid) (world : World) (request : SeriesRequest) :
    Decidable (LeavesOpen windowId world request) := by
  unfold LeavesOpen
  split
  · infer_instance
  · infer_instance
  · split <;> infer_instance
  · split <;> infer_instance

/-! ## One request -/

theorem item_keeps_window {transaction : PyDatetime.Instant} {household : Household}
    {parent : Member} {windowId : Uuid} (session : OpenSession)
    (item : BulkApproveItem) (result : BulkApproveResultItem) (next : OpenSession)
    (state : WindowState windowId session.db)
    (leavesOpen : ItemLeavesOpen windowId household session item)
    (returned : approveItem transaction household parent item session =
      .ok (result, next)) : WindowState windowId next.db := by
  rcases approveItem_ok returned with
    same | ⟨definition, task, call, decided, ledger, found, decision, effect, stored⟩
  · rw [same]
    exact state
  · rw [ItemLeavesOpen, found] at leavesOpen
    rw [stored]
    obtain ⟨taskFound, _⟩ := findInstance?_ok found
    have own : task.id = item.taskInstanceId := Table.key_of_find? taskFound
    exact state.decided (by rw [own]; exact taskFound) effect decision leavesOpen

theorem serve_keeps_window {windowId : Uuid} (world : World)
    (request : SeriesRequest) (state : WindowState windowId world.db)
    (leavesOpen : LeavesOpen windowId world request) :
    WindowState windowId (serve world request).db := by
  cases request with
  | complete request note =>
      rcases completeTask_db request note world with
        same | ⟨member, household, definition, task, result, ledger, loaded, _,
          effect, check⟩
      · rw [serve, same]
        exact state
      · have stored := (loadForRequest_ok loaded).stored
        exact state.completed stored effect check
  | excuse request excuseText =>
      rcases excuseTask_db request excuseText world with
        same | ⟨member, household, definition, task, result, ledger, loaded, effect,
          committed⟩
      · rw [serve, same]
        exact state
      · have stored := (loadForRequest_ok loaded).stored
        rw [serve, committed]
        exact state.submitted stored effect
  | review request approve comment =>
      rcases reviewTask_db request approve comment world with
        same | ⟨parent, household, definition, task, call, result, ledger, loaded,
          fresh, decision, effect, committed⟩
      · rw [serve, same]
        exact state
      · have stored := (loadForRequest_ok loaded).stored
        simp only [LeavesOpen, loaded] at leavesOpen
        rw [serve, committed]
        exact state.decided stored effect decision (leavesOpen fresh)
  | bulk request =>
      rcases bulkApprove_db request world with
        same | ⟨parent, household, results, session, loaded, fresh, ran, committed⟩
      · rw [serve, same]
        exact state
      · simp only [LeavesOpen, loaded] at leavesOpen
        rw [serve, committed]
        exact runBatch_keeps (WindowState windowId) item_keeps_window state
          (leavesOpen fresh) ran

/-! ## Every run -/

/-- As long as no decision approves the last instance a window waits for, the
bonus is paid by the request that earns it, once. -/
theorem bonus_paid_when_earned {windowId : Uuid} {world : World}
    (opened : OpenWindow windowId world.db) {requests : List SeriesRequest}
    (meets : EachMeets serve (LeavesOpen windowId) world requests) :
    Always serve (fun world => BonusRight windowId world.db) world requests :=
  (guarded_always (fun world => WindowState windowId world.db) serve_keeps_window
    opened.state meets).imp fun _ state => state.bonusRight

/-- A review approved while the other task is still open. -/
theorem bonus_paid_after_review :
    Always serve (fun world => BonusRight 1 world.db)
      ⟨sampleWindow .individualPlusBonus true, []⟩
      [.complete ⟨⟨1, 1⟩, 2, 2, "a"⟩ none, .review ⟨⟨2, 2⟩, 1, 2, "b"⟩ true none,
        .complete ⟨⟨3, 3⟩, 2, 1, "c"⟩ none] :=
  bonus_paid_when_earned (sampleWindow_open .individualPlusBonus true)
    (by decide +kernel)

/-- The same requests with the review last: both tasks are complete, the window
stays active and nothing is paid for it. -/
theorem bonus_unpaid_after_last_review :
    ¬ Always serve (fun world => BonusRight 1 world.db)
      ⟨sampleWindow .individualPlusBonus true, []⟩
      [.complete ⟨⟨1, 1⟩, 2, 2, "a"⟩ none, .complete ⟨⟨2, 2⟩, 2, 1, "b"⟩ none,
        .review ⟨⟨3, 3⟩, 1, 2, "c"⟩ true none] := by
  decide +kernel

end KidsChores.Properties
