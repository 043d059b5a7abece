import KidsChores.Properties.LedgerAnswers

/-!
# The range of the ledger's columns

A task is worth at most 10000 points; a manual adjustment, a claim and a bonus are not
bounded, and no sum is.  What no longer fits its column is refused by the database, and
with it the request that posts it.
-/

set_option autoImplicit false

namespace KidsChores.Properties

open KidsChores.Api
open KidsChores.Library
open KidsChores.Library.PyDatetime
open KidsChores.Library.PyText
open KidsChores.Library.Runs
open KidsChores.Lifecycle
open KidsChores.Models
open KidsChores.Routers
open KidsChores.Routers.Approvals
open KidsChores.Routers.Tasks
open KidsChores.Routers.Wallet
open KidsChores.Services.Ledger
open KidsChores.Services.SeriesCompletion
open KidsChores.Services.StateMachine
open KidsChores.Session

def NotOutOfRange (world : World) (event : ApiEvent) : Prop :=
  TextsStorable world event → ledgerAnswer world event ≠ .error (.raised .dataError)

/-- Each amount a request posts has room beside what is stored for its member. -/
def RoomLeft (world : World) (event : ApiEvent) : Prop :=
  TextsStorable world event → ∀ call ∈ ledgerCalls world event, call.HasRoom

instance (world : World) (event : ApiEvent) : Decidable (RoomLeft world event) :=
  inferInstanceAs (Decidable (_ → _))

def InRange (ledger : Ledger) : Prop :=
  ∀ entry ∈ ledger.entries, FitsInteger entry.delta ∧ FitsInteger entry.balanceAfter

instance (ledger : Ledger) : Decidable (InRange ledger) :=
  inferInstanceAs (Decidable (∀ entry ∈ ledger.entries, _))

def StoredInRange (world : World) : Prop := InRange world.db.ledger

instance (world : World) : Decidable (StoredInRange world) :=
  inferInstanceAs (Decidable (InRange _))

/-! ## The stored numbers -/

section Stored

variable {ledger next : Ledger}

theorem InRange.recorded {clock : Clock} {posting : Posting} (range : InRange ledger)
    (recorded : record ledger clock posting = .ok next) : InRange next := by
  have room : LedgerCall.HasRoom ⟨ledger, posting.memberId, posting.delta⟩ := by
    by_contra full
    rw [record_dataError_iff.mpr full] at recorded
    cases recorded
  intro entry member
  rw [(record_ok recorded).1] at member
  rcases List.mem_append.mp member with old | new
  · exact range entry old
  · rw [List.mem_singleton.mp new]
    exact room

theorem InRange.called {clock : Clock} {household : Household} {definition : TaskDefinition}
    {actor : Member} {task result : TaskInstance} {call : ServiceCall}
    (range : InRange ledger)
    (effect : CallEffect clock household definition actor task ledger call result next) :
    InRange next := by
  rcases effect.posts with unposted | ⟨posting, recorded, _⟩
  · rw [unposted]
    exact range
  · exact range.recorded recorded

theorem InRange.checked {clock : Clock} {completed : TaskInstance} {before after : Database}
    (range : InRange before.ledger) (check : WindowCheck clock completed before after) :
    InRange after.ledger := by
  cases check with
  | unlinked unlinked => exact range
  | gone linked gone => exact range
  | evaluated linked found evaluation =>
      cases evaluation with
      | closed closed => exact range
      | outstanding outstanding => exact range
      | paid active earned found recorded => exact range.recorded recorded

theorem storedInRange_step {pytz : String → Option TzInfo} {world : World}
    (range : StoredInRange world) (event : ApiEvent) :
    StoredInRange (apiStep pytz world event) := by
  have effect := @apiStep_effect pytz world event
  unfold StoredInRange at range ⊢
  generalize (apiStep pytz world event).db = next at effect ⊢
  cases effect with
  | definitionCreated created =>
      rw [created.committed]
      exact range
  | completed acts effect check =>
      refine InRange.checked ?_ check
      exact range.called effect
  | called asked acts effect => exact range.called effect
  | batched loaded ran =>
      exact batch_keeps (fun db => InRange db.ledger)
        (fun _ _ effect held => held.called effect) range loaded ran
  | adjusted loaded found own recorded => exact range.recorded recorded
  | claimResolved loaded found resolution =>
      rcases (resolveClaim_same resolution).2.2.2 with unpaid | paid
      · rw [unpaid]
        exact range
      · exact range.recorded paid
  | generated run =>
      rw [run.committed]
      exact range
  | _ => exact range

end Stored

/-- What is stored stays in range, and along every run no request is refused for a number
exactly if each amount that is posted has room beside the deltas its member has. -/
theorem ledger_range_iff (pytz : String → Option TzInfo) (world : World)
    (range : StoredInRange world) (events : List ApiEvent) :
    Always (apiStep pytz) StoredInRange world events ∧
      (EachMeets (apiStep pytz) NotOutOfRange world events ↔
        EachMeets (apiStep pytz) RoomLeft world events) := by
  refine ⟨invariant_always StoredInRange (fun _ event held => storedInRange_step held event)
    range events, ?_⟩
  have one : ∀ world event, NotOutOfRange world event ↔ RoomLeft world event := by
    intro world event
    unfold NotOutOfRange RoomLeft
    refine imp_congr_right fun texts => ?_
    rw [ne_eq, ledgerAnswer_dataError_iff texts]
    push Not
    rfl
  constructor
  · intro accepted
    exact accepted.imp fun world event => (one world event).mp
  · intro room
    exact room.imp fun world event => (one world event).mpr

theorem birthdayReason : 5 ≤ "Birthday".length := by decide

def giftAndTask (points : Int) : List ApiEvent :=
  [.manualAdjust ⟨⟨0, 0⟩, 1, 2, ⟨2, points, "Birthday", birthdayReason⟩⟩,
    .completeTask ⟨⟨0, 0⟩, 2, 1, "done"⟩ none]

def taskFamily : World := { db := sampleDatabase sampleDefinition sampleTask }

/-- The gift of all the points that fit is taken, and the task worth ten is refused. -/
theorem full_balance_refuses_task :
    StoredInRange taskFamily ∧
      ledgerAnswer taskFamily (.manualAdjust
        ⟨⟨0, 0⟩, 1, 2, ⟨2, 2147483647, "Birthday", birthdayReason⟩⟩) = .ok () ∧
      ledgerAnswer (runFrom (apiStep fun _ => none) taskFamily
        ((giftAndTask 2147483647).take 1)) (.completeTask ⟨⟨0, 0⟩, 2, 1, "done"⟩ none) =
          .error (.raised .dataError) ∧
      ¬ EachMeets (apiStep fun _ => none) NotOutOfRange taskFamily
        (giftAndTask 2147483647) := by
  refine ⟨by decide, by decide, by decide, ?_⟩
  rintro ⟨_, accepted, _⟩
  exact accepted (by decide) (by decide)

theorem gift_leaves_room :
    Always (apiStep fun _ => none) StoredInRange taskFamily (giftAndTask 100) ∧
      EachMeets (apiStep fun _ => none) NotOutOfRange taskFamily (giftAndTask 100) :=
  have settled := ledger_range_iff (fun _ => none) taskFamily (by decide) (giftAndTask 100)
  ⟨settled.1, settled.2.mpr (by decide)⟩

end KidsChores.Properties
