import KidsChores.Services.Ledger

/-!
# Series completion

`app/services/series_completion.py`.
-/

set_option autoImplicit false

namespace KidsChores.Services.SeriesCompletion

open KidsChores.Models
open KidsChores.Library
open KidsChores.Services.Ledger

/-- The instances a window consists of. -/
def linkedInstances (db : Database) (seriesInstanceId : Uuid) : List TaskInstance :=
  db.instances.rows.filter fun task => task.seriesInstanceId = some seriesInstanceId

def completedInstances (instances : List TaskInstance) : List TaskInstance :=
  instances.filter fun task => task.status = .complete

def excusedInstances (instances : List TaskInstance) : List TaskInstance :=
  instances.filter fun task => task.status = .excused

def otherInstances (instances : List TaskInstance) : List TaskInstance :=
  instances.filter fun task => task.status ≠ .complete ∧ task.status ≠ .excused

/-- The one entry the payout mode asks for. -/
def awardSeries (ledger : Ledger) (clock : Clock) (series : Series)
    (seriesInstance : SeriesInstance) (actor : Member)
    (completed : List TaskInstance) : Except ServiceError Ledger :=
  match series.payoutMode with
  | .individualPlusBonus => awardSeriesBonus ledger clock series seriesInstance
      series.assigneeId actor series.bonusPoints
  | .allOrNothing => awardAllOrNothingSeries ledger clock series seriesInstance
      series.assigneeId actor
      ((completed.map TaskInstance.pointValue).sum + series.bonusPoints)

/-- A window without its series is ruled out by the foreign key. -/
def evaluate (clock : Clock) (seriesInstance : SeriesInstance) (actor : Member)
    (db : Database) : Except ServiceError (Bool × Database) :=
  if seriesInstance.status ≠ .active then .ok (false, db)
  else
    let instances := linkedInstances db seriesInstance.id
    let completed := completedInstances instances
    if instances = [] then .ok (false, db)
    else if otherInstances instances ≠ [] then .ok (false, db)
    else if completed = [] ∧ excusedInstances instances ≠ [] then .ok (false, db)
    else
      match db.series.find? seriesInstance.seriesId with
      | none => .error .keyError
      | some series =>
          match awardSeries db.ledger clock series seriesInstance actor completed with
          | .error raised => .error raised
          | .ok ledger => .ok (true, { db with
              ledger := ledger
              seriesInstances := db.seriesInstances.save { seriesInstance with
                status := .complete
                completedAt := some clock.now } })

/-! ## When a window is earned -/

/-- Some linked instance is complete, and every one is complete or excused. -/
def Earned (instances : List TaskInstance) : Prop :=
  (∃ task ∈ instances, task.status = .complete) ∧
    ∀ task ∈ instances, task.status = .complete ∨ task.status = .excused

instance (instances : List TaskInstance) : Decidable (Earned instances) :=
  inferInstanceAs (Decidable (_ ∧ _))

theorem earned_iff (instances : List TaskInstance) :
    Earned instances ↔ instances ≠ [] ∧ otherInstances instances = [] ∧
      ¬ (completedInstances instances = [] ∧ excusedInstances instances ≠ []) := by
  have other : otherInstances instances = [] ↔
      ∀ task ∈ instances, task.status = .complete ∨ task.status = .excused := by
    simp only [otherInstances, List.filter_eq_nil_iff, decide_eq_true_eq]
    constructor
    · intro none_other task member
      have := none_other task member
      tauto
    · intro done task member
      have := done task member
      tauto
  have completed : completedInstances instances = [] ↔
      ∀ task ∈ instances, task.status ≠ .complete := by
    simp [completedInstances, List.filter_eq_nil_iff]
  have excused : excusedInstances instances = [] ↔
      ∀ task ∈ instances, task.status ≠ .excused := by
    simp [excusedInstances, List.filter_eq_nil_iff]
  rw [other, completed, Earned]
  constructor
  · rintro ⟨⟨task, member, complete⟩, done⟩
    refine ⟨List.ne_nil_of_mem member, done, ?_⟩
    rintro ⟨none_complete, _⟩
    exact none_complete task member complete
  · rintro ⟨nonempty, done, some_complete⟩
    refine ⟨?_, done⟩
    by_contra none_complete
    have incomplete : ∀ task ∈ instances, task.status ≠ .complete :=
      fun task member complete => none_complete ⟨task, member, complete⟩
    obtain ⟨task, member⟩ := List.exists_mem_of_ne_nil instances nonempty
    apply some_complete
    refine ⟨incomplete, fun noExcused => ?_⟩
    rcases done task member with complete | isExcused
    · exact incomplete task member complete
    · exact excused.mp noExcused task member isExcused

/-! ## What an evaluation leaves -/

/-- The entry of a window that pays out. -/
def payout (series : Series) (completed : List TaskInstance) : Int :=
  match series.payoutMode with
  | .individualPlusBonus => series.bonusPoints
  | .allOrNothing => (completed.map TaskInstance.pointValue).sum + series.bonusPoints

def payoutReason (series : Series) : String :=
  match series.payoutMode with
  | .individualPlusBonus => "Series bonus: " ++ series.name
  | .allOrNothing => "Series complete (all-or-nothing): " ++ series.name

def payoutPosting (series : Series) (seriesInstance : SeriesInstance) (actor : Member)
    (completed : List TaskInstance) : Posting :=
  seriesPosting seriesInstance series.assigneeId actor (payout series completed)
    (payoutReason series)

theorem awardSeries_eq (ledger : Ledger) (clock : Clock) (series : Series)
    (seriesInstance : SeriesInstance) (actor : Member) (completed : List TaskInstance) :
    awardSeries ledger clock series seriesInstance actor completed =
      record ledger clock (payoutPosting series seriesInstance actor completed) := by
  unfold awardSeries payoutPosting payout payoutReason
  cases series.payoutMode with
  | individualPlusBonus => rfl
  | allOrNothing => rfl

/-- What is stored when a window pays out. -/
def closeWindow (db : Database) (seriesInstance : SeriesInstance) (ledger : Ledger)
    (now : PyDatetime.Instant) : Database :=
  { db with
    ledger := ledger
    seriesInstances := db.seriesInstances.save { seriesInstance with
      status := .complete
      completedAt := some now } }

/-- An evaluation by what it looks at: the window's status, whether the window is
earned, and whether the ledger takes the entry. -/
theorem evaluate_eq {clock : Clock} {seriesInstance : SeriesInstance} {actor : Member}
    {db : Database} {series : Series}
    (found : db.series.find? seriesInstance.seriesId = some series) :
    evaluate clock seriesInstance actor db =
      if seriesInstance.status = .active ∧ Earned (linkedInstances db seriesInstance.id) then
        (record db.ledger clock (payoutPosting series seriesInstance actor
          (completedInstances (linkedInstances db seriesInstance.id)))).map fun ledger =>
            (true, closeWindow db seriesInstance ledger clock.now)
      else .ok (false, db) := by
  have earned := earned_iff (linkedInstances db seriesInstance.id)
  unfold evaluate
  by_cases active : seriesInstance.status = .active
  · rw [if_neg (not_not.mpr active)]
    simp only [found, awardSeries_eq]
    by_cases done : Earned (linkedInstances db seriesInstance.id)
    · obtain ⟨nonempty, noOther, notExcused⟩ := earned.mp done
      rw [if_neg nonempty, if_neg (not_not.mpr noOther), if_neg notExcused,
        if_pos ⟨active, done⟩]
      cases record db.ledger clock (payoutPosting series seriesInstance actor
          (completedInstances (linkedInstances db seriesInstance.id))) with
      | error raised => rfl
      | ok ledger => rfl
    · have notBoth : ¬ (seriesInstance.status = .active ∧
          Earned (linkedInstances db seriesInstance.id)) := fun both => done both.2
      rw [if_neg notBoth]
      split
      · rfl
      · rename_i nonempty
        split
        · rfl
        · rename_i noOther
          rw [if_pos]
          by_contra notExcused
          exact done (earned.mpr ⟨nonempty, not_not.mp noOther, notExcused⟩)
  · have notBoth : ¬ (seriesInstance.status = .active ∧
        Earned (linkedInstances db seriesInstance.id)) := fun both => active both.1
    rw [if_pos active, if_neg notBoth]

theorem awardSeries_ok {ledger next : Ledger} {clock : Clock} {series : Series}
    {seriesInstance : SeriesInstance} {actor : Member}
    {completed : List TaskInstance}
    (awarded : awardSeries ledger clock series seriesInstance actor completed =
      .ok next) :
    ∃ posting, record ledger clock posting = .ok next ∧
      posting.delta = payout series completed ∧
      posting.entryType = .seriesBonus ∧ posting.taskInstanceId = none ∧
      posting.seriesInstanceId = some seriesInstance.id := by
  unfold awardSeries at awarded
  unfold payout
  cases mode : series.payoutMode with
  | individualPlusBonus =>
      rw [mode] at awarded
      exact ⟨_, awarded, rfl, rfl, rfl, rfl⟩
  | allOrNothing =>
      rw [mode] at awarded
      exact ⟨_, awarded, rfl, rfl, rfl, rfl⟩

inductive Evaluation (clock : Clock) (seriesInstance : SeriesInstance)
    (db : Database) : Bool → Database → Prop where
  | closed (closed : seriesInstance.status ≠ .active) :
      Evaluation clock seriesInstance db false db
  | outstanding (outstanding : ¬ Earned (linkedInstances db seriesInstance.id)) :
      Evaluation clock seriesInstance db false db
  | paid {series : Series} {posting : Posting} {ledger : Ledger}
      (active : seriesInstance.status = .active)
      (earned : Earned (linkedInstances db seriesInstance.id))
      (found : db.series.find? seriesInstance.seriesId = some series)
      (recorded : record db.ledger clock posting = .ok ledger)
      (delta : posting.delta = payout series
        (completedInstances (linkedInstances db seriesInstance.id)))
      (entryType : posting.entryType = .seriesBonus)
      (noTask : posting.taskInstanceId = none)
      (window : posting.seriesInstanceId = some seriesInstance.id) :
      Evaluation clock seriesInstance db true { db with
        ledger := ledger
        seriesInstances := db.seriesInstances.save { seriesInstance with
          status := .complete
          completedAt := some clock.now } }

theorem evaluate_ok {clock : Clock} {seriesInstance : SeriesInstance}
    {actor : Member} {db next : Database} {completed : Bool}
    (returned : evaluate clock seriesInstance actor db = .ok (completed, next)) :
    Evaluation clock seriesInstance db completed next := by
  have earned := earned_iff (linkedInstances db seriesInstance.id)
  unfold evaluate at returned
  split at returned
  · rename_i closed
    cases returned
    exact .closed closed
  · rename_i active
    simp only at returned
    split at returned
    · rename_i empty
      cases returned
      exact .outstanding fun done => (earned.mp done).1 empty
    · rename_i nonempty
      split at returned
      · rename_i other
        cases returned
        exact .outstanding fun done => other (earned.mp done).2.1
      · rename_i noOther
        split at returned
        · rename_i allExcused
          cases returned
          exact .outstanding fun done => (earned.mp done).2.2 allExcused
        · rename_i someComplete
          split at returned
          · cases returned
          · rename_i series found
            split at returned
            · cases returned
            · rename_i ledger awarded
              cases returned
              obtain ⟨posting, recorded, delta, entryType, noTask, window⟩ :=
                awardSeries_ok awarded
              exact .paid (not_not.mp active)
                (earned.mpr ⟨nonempty, not_not.mp noOther, someComplete⟩) found
                recorded delta entryType noTask window

end KidsChores.Services.SeriesCompletion
