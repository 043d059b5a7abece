import Mathlib.Algebra.BigOperators.Group.List.Basic
import KidsChores.Properties.SeriesBonus

/-!
# Evaluating a window

`evaluate` looks at the window's status, at the statuses of the linked instances
and at the ledger.  The ledger refuses a bonus that does not fit its columns, and a
second one.
-/

set_option autoImplicit false

namespace KidsChores.Properties

open KidsChores.Models
open KidsChores.Library
open KidsChores.Library.Runs
open KidsChores.Services.Ledger
open KidsChores.Services.SeriesCompletion

/-- One call of `evaluate` on a window of the series. -/
structure EvaluatesRight (clock : Clock) (seriesInstance : SeriesInstance)
    (actor : Member) (series : Series) (db : Database) : Prop where
  pays : (∃ next, evaluate clock seriesInstance actor db = .ok (true, next)) ↔
    seriesInstance.status = .active ∧ Earned (linkedInstances db seriesInstance.id) ∧
      (payoutPosting series seriesInstance actor
        (completedInstances (linkedInstances db seriesInstance.id))).Accepted db.ledger
  declines : (∃ next, evaluate clock seriesInstance actor db = .ok (false, next)) ↔
    ¬ (seriesInstance.status = .active ∧ Earned (linkedInstances db seriesInstance.id))
  paid : ∀ next, evaluate clock seriesInstance actor db = .ok (true, next) →
    next = closeWindow db seriesInstance next.ledger clock.now ∧
      ∃ entry, next.ledger.entries = db.ledger.entries ++ [entry] ∧
        entry.entryType = .seriesBonus ∧ entry.memberId = series.assigneeId ∧
        entry.seriesInstanceId = some seriesInstance.id ∧
        entry.delta = match series.payoutMode with
          | .individualPlusBonus => series.bonusPoints
          | .allOrNothing => ((completedInstances (linkedInstances db
              seriesInstance.id)).map TaskInstance.pointValue).sum + series.bonusPoints
  unpaid : ∀ next, evaluate clock seriesInstance actor db = .ok (false, next) → next = db
  unordered : ∀ instances : Table TaskInstance.id,
    (linkedInstances { db with instances := instances } seriesInstance.id).Perm
      (linkedInstances db seriesInstance.id) →
    evaluate clock seriesInstance actor { db with instances := instances } =
      (evaluate clock seriesInstance actor db).map fun outcome =>
        (outcome.1, { outcome.2 with instances := instances })

section Evaluation

variable {clock : Clock} {seriesInstance : SeriesInstance} {actor : Member}
variable {series : Series} {db next : Database}

theorem evaluate_pays_iff (found : db.series.find? seriesInstance.seriesId = some series) :
    (∃ next, evaluate clock seriesInstance actor db = .ok (true, next)) ↔
      seriesInstance.status = .active ∧ Earned (linkedInstances db seriesInstance.id) ∧
        (payoutPosting series seriesInstance actor (completedInstances (linkedInstances db
          seriesInstance.id))).Accepted db.ledger := by
  rw [evaluate_eq found, ← and_assoc]
  by_cases due : seriesInstance.status = .active ∧
      Earned (linkedInstances db seriesInstance.id)
  · rw [if_pos due, and_iff_right due, ← @record_isOk_iff _ clock]
    cases record db.ledger clock (payoutPosting series seriesInstance actor
        (completedInstances (linkedInstances db seriesInstance.id))) with
    | error raised => simp [Except.map]
    | ok ledger => simp [Except.map]
  · rw [if_neg due]
    exact iff_of_false (by simp) fun both => due both.1

theorem evaluate_declines_iff
    (found : db.series.find? seriesInstance.seriesId = some series) :
    (∃ next, evaluate clock seriesInstance actor db = .ok (false, next)) ↔
      ¬ (seriesInstance.status = .active ∧
        Earned (linkedInstances db seriesInstance.id)) := by
  rw [evaluate_eq found]
  by_cases due : seriesInstance.status = .active ∧
      Earned (linkedInstances db seriesInstance.id)
  · rw [if_pos due]
    refine iff_of_false ?_ (not_not.mpr due)
    rintro ⟨next, returned⟩
    cases recorded : record db.ledger clock (payoutPosting series seriesInstance actor
        (completedInstances (linkedInstances db seriesInstance.id))) with
    | error raised =>
        rw [recorded] at returned
        cases returned
    | ok ledger =>
        rw [recorded] at returned
        cases returned
  · rw [if_neg due]
    exact iff_of_true ⟨db, rfl⟩ due

theorem evaluate_paid (found : db.series.find? seriesInstance.seriesId = some series)
    (returned : evaluate clock seriesInstance actor db = .ok (true, next)) :
    next = closeWindow db seriesInstance next.ledger clock.now ∧
      record db.ledger clock (payoutPosting series seriesInstance actor
        (completedInstances (linkedInstances db seriesInstance.id))) = .ok next.ledger := by
  rw [evaluate_eq found] at returned
  split at returned
  · cases recorded : record db.ledger clock (payoutPosting series seriesInstance actor
        (completedInstances (linkedInstances db seriesInstance.id))) with
    | error raised =>
        rw [recorded] at returned
        cases returned
    | ok ledger =>
        rw [recorded] at returned
        cases returned
        exact ⟨rfl, rfl⟩
  · cases returned

theorem evaluate_unpaid
    (returned : evaluate clock seriesInstance actor db = .ok (false, next)) :
    next = db := by
  cases evaluate_ok returned with
  | closed closed => rfl
  | outstanding outstanding => rfl

/-- Only the statuses and the values of the linked instances count, in any order. -/
theorem evaluate_unordered
    (found : db.series.find? seriesInstance.seriesId = some series)
    {instances : Table TaskInstance.id}
    (same : (linkedInstances { db with instances := instances } seriesInstance.id).Perm
      (linkedInstances db seriesInstance.id)) :
    evaluate clock seriesInstance actor { db with instances := instances } =
      (evaluate clock seriesInstance actor db).map fun outcome =>
        (outcome.1, { outcome.2 with instances := instances }) := by
  have foundToo : ({ db with instances := instances } : Database).series.find?
      seriesInstance.seriesId = some series := found
  have earned : Earned (linkedInstances { db with instances := instances }
      seriesInstance.id) ↔ Earned (linkedInstances db seriesInstance.id) := by
    simp only [Earned, same.mem_iff]
  have values : payoutPosting series seriesInstance actor (completedInstances
      (linkedInstances { db with instances := instances } seriesInstance.id)) =
        payoutPosting series seriesInstance actor
          (completedInstances (linkedInstances db seriesInstance.id)) := by
    have completed := (same.filter fun task => task.status = .complete).map
      TaskInstance.pointValue
    simp only [payoutPosting, payout, completedInstances, completed.sum_eq]
  rw [evaluate_eq foundToo, evaluate_eq found, values]
  simp only [earned]
  split
  · cases record db.ledger clock (payoutPosting series seriesInstance actor
        (completedInstances (linkedInstances db seriesInstance.id))) with
    | error raised => rfl
    | ok ledger => rfl
  · rfl

theorem evaluate_right (found : db.series.find? seriesInstance.seriesId = some series) :
    EvaluatesRight clock seriesInstance actor series db where
  pays := evaluate_pays_iff found
  declines := evaluate_declines_iff found
  paid := by
    intro next returned
    obtain ⟨closed, recorded⟩ := evaluate_paid found returned
    exact ⟨closed, _, (record_ok recorded).1, rfl, rfl, rfl, rfl⟩
  unpaid := fun _ returned => evaluate_unpaid returned
  unordered := fun _ same => evaluate_unordered found same

end Evaluation

/-! ## Any sequence of calls -/

/-- Between two calls the instances, the window and its series may be edited, and
other entries may be posted. -/
inductive EvaluationEvent where
  | evaluate (clock : Clock) (actor : Member)
  | tasksChanged (instances : Table TaskInstance.id)
  | windowChanged (seriesInstance : SeriesInstance)
  | seriesEdited (series : Series)
  | posted (clock : Clock) (posting : Posting)

structure Evaluated where
  db : Database
  /-- How many calls have returned `True`. -/
  paid : Nat

/-- A call that raises is rolled back. -/
def evaluationStep (windowId : Uuid) (state : Evaluated) : EvaluationEvent → Evaluated
  | .evaluate clock actor =>
      match state.db.seriesInstances.find? windowId with
      | none => state
      | some seriesInstance =>
          match Services.SeriesCompletion.evaluate clock seriesInstance actor state.db with
          | .error _ => state
          | .ok (completed, db) => ⟨db, state.paid + completed.toNat⟩
  | .tasksChanged instances => { state with db := { state.db with instances := instances } }
  | .windowChanged seriesInstance =>
      { state with db := { state.db with
        seriesInstances := state.db.seriesInstances.save seriesInstance } }
  | .seriesEdited series =>
      { state with db := { state.db with series := state.db.series.save series } }
  | .posted clock posting =>
      match record state.db.ledger clock posting with
      | .error _ => state
      | .ok ledger => { state with db := { state.db with ledger := ledger } }

theorem bonusEntries_le_one (ledger : Ledger) (windowId : Uuid) :
    bonusEntries ledger windowId ≤ 1 := by
  refine ledger.countP_le_one ?_
  intro first second firstBonus secondBonus
  simp only [decide_eq_true_eq] at firstBonus secondBonus
  exact ⟨firstBonus.1.trans secondBonus.1.symm, Or.inr ⟨by simp [firstBonus.2],
    firstBonus.2.trans secondBonus.2.symm⟩⟩

theorem bonusEntries_record {ledger next : Ledger} {clock : Clock} {posting : Posting}
    {windowId : Uuid} (recorded : record ledger clock posting = .ok next) :
    bonusEntries next windowId = bonusEntries ledger windowId +
      if posting.entryType = .seriesBonus ∧ posting.seriesInstanceId = some windowId
        then 1 else 0 := by
  simp only [bonusEntries, (record_ok recorded).1, List.countP_append,
    List.countP_singleton, Posting.entry, decide_eq_true_eq]

theorem evaluationStep_bonus {windowId : Uuid} (state : Evaluated)
    (event : EvaluationEvent)
    (counted : state.paid ≤ bonusEntries state.db.ledger windowId) :
    (evaluationStep windowId state event).paid ≤
      bonusEntries (evaluationStep windowId state event).db.ledger windowId := by
  cases event with
  | evaluate clock actor =>
      simp only [evaluationStep]
      split
      · exact counted
      · rename_i seriesInstance found
        split
        · exact counted
        · rename_i completed db returned
          cases evaluate_ok returned with
          | closed closed => simpa using counted
          | outstanding outstanding => simpa using counted
          | paid active earned seriesFound recorded delta entryType noTask window =>
              rw [Table.key_of_find? found] at window
              rw [bonusEntries_record recorded, if_pos ⟨entryType, window⟩]
              simpa using counted
  | tasksChanged instances => exact counted
  | windowChanged seriesInstance => exact counted
  | seriesEdited series => exact counted
  | posted clock posting =>
      simp only [evaluationStep]
      split
      · exact counted
      · rename_i ledger recorded
        rw [bonusEntries_record recorded]
        exact Nat.le_add_right_of_le counted

/-- An evaluation of a window whose ledger takes the bonus is right, and of any
sequence of evaluations one returns `True` at most. -/
theorem evaluation_correct {clock : Clock} {seriesInstance : SeriesInstance}
    {actor : Member} {series : Series} {db : Database}
    (found : db.series.find? seriesInstance.seriesId = some series) :
    EvaluatesRight clock seriesInstance actor series db ∧
      ∀ events, (runFrom (evaluationStep seriesInstance.id) ⟨db, 0⟩ events).paid ≤ 1 := by
  refine ⟨evaluate_right found, fun events => ?_⟩
  have start : (⟨db, 0⟩ : Evaluated).paid ≤ bonusEntries db.ledger seriesInstance.id :=
    Nat.zero_le _
  have counted := (invariant_always
    (fun state : Evaluated => state.paid ≤
      bonusEntries state.db.ledger seriesInstance.id)
    evaluationStep_bonus start events).at_end
  exact counted.trans (bonusEntries_le_one _ _)

/-! ## Sample windows -/

def lumpSum (bonusPoints : Int) : Series where
  id := 1
  householdId := 1
  name := "Kitchen week"
  assigneeId := 2
  bonusPoints := bonusPoints
  payoutMode := .allOrNothing
  windowType := .weekly

def doneWindow : SeriesInstance where
  id := 1
  seriesId := 1
  windowStart := 0
  windowEnd := 1000

def doneDatabase (bonusPoints : Int) : Database :=
  { sampleDatabase sampleDefinition
      { sampleTask with status := .complete, seriesInstanceId := some 1 } with
    series := ⟨[lumpSum bonusPoints], List.nodup_singleton _⟩
    seriesInstances := ⟨[doneWindow], List.nodup_singleton _⟩ }

/-- A week of two completed chores and an excused one. -/
def mixedDatabase : Database :=
  { doneDatabase 5 with
    instances := ⟨[{ sampleTask with status := .complete, seriesInstanceId := some 1 },
      { sampleTask with id := 2, dueAt := 100, status := .excused, seriesInstanceId := some 1 },
      { sampleTask with
        id := 3, dueAt := 200, pointValue := 7, status := .complete
        seriesInstanceId := some 1 }], by decide⟩ }

theorem evaluation_correct_lump_sum :
    (evaluate ⟨0, 0⟩ doneWindow sampleTeen mixedDatabase).toOption.map (fun outcome =>
        (outcome.1, outcome.2.ledger.entries.map LedgerEntry.delta)) = some (true, [22]) ∧
      EvaluatesRight ⟨0, 0⟩ doneWindow sampleTeen (lumpSum 5) mixedDatabase ∧
      ∀ events,
        (runFrom (evaluationStep doneWindow.id) ⟨mixedDatabase, 0⟩ events).paid ≤ 1 :=
  ⟨by decide +kernel, evaluation_correct (by decide)⟩

/-- A bonus of the largest integer plus the value of the task fits no column of the
ledger: the window is earned, and the call raises. -/
theorem earned_window_raises :
    ¬ ((∃ next, evaluate ⟨0, 0⟩ doneWindow sampleTeen (doneDatabase 2147483647) =
        .ok (true, next)) ↔
      doneWindow.status = .active ∧
        Earned (linkedInstances (doneDatabase 2147483647) doneWindow.id)) := by
  have found : (doneDatabase 2147483647).series.find? doneWindow.seriesId =
      some (lumpSum 2147483647) := by decide
  have earned : doneWindow.status = .active ∧
      Earned (linkedInstances (doneDatabase 2147483647) doneWindow.id) := by decide +kernel
  have refused : ¬ (payoutPosting (lumpSum 2147483647) doneWindow sampleTeen
      (completedInstances (linkedInstances (doneDatabase 2147483647)
        doneWindow.id))).Accepted (doneDatabase 2147483647).ledger := by decide +kernel
  intro claimed
  exact refused ((evaluate_pays_iff found).mp (claimed.mpr earned)).2.2

end KidsChores.Properties
