import Mathlib.Order.Bounds.Basic
import Mathlib.Data.Nat.Find

/-!
# Jobs that mark what they have handled

A job runs again and again.  Each run handles the items it picks that bear no mark, and
marks them.  So an item is handled by the first run that picks it and by no other,
whatever the runs see.
-/

set_option autoImplicit false

namespace KidsChores.Library

universe u v

/-- One run after another: what a run handles, and the marks it leaves. -/
structure MarkingJob (Item : Type u) (Mark : Type v) where
  picks : Nat → Item → Prop
  handles : Nat → (Item → Option Mark) → Item → Prop
  marked : Nat → (Item → Option Mark) → Item → Option Mark
  handles_iff : ∀ k marks item, handles k marks item ↔ picks k item ∧ marks item = none
  marked_handled : ∀ k marks item, handles k marks item → marked k marks item ≠ none
  marked_other : ∀ k marks item, ¬ handles k marks item → marked k marks item = marks item

namespace MarkingJob

variable {Item : Type u} {Mark : Type v}

section Runs

variable (job : MarkingJob Item Mark) (marks : Item → Option Mark)

/-- The marks before a run. -/
def before : Nat → Item → Option Mark
  | 0 => marks
  | k + 1 => job.marked k (before k)

def Handled (k : Nat) (item : Item) : Prop :=
  job.handles k (job.before marks k) item

variable {job marks} {item : Item} {k : Nat}

theorem before_none (unmarked : marks item = none)
    (unpicked : ∀ earlier, earlier < k → ¬ job.picks earlier item) :
    job.before marks k item = none := by
  induction k with
  | zero => exact unmarked
  | succ k ih =>
      have idle : ¬ job.handles k (job.before marks k) item := by
        intro handled
        exact unpicked k (Nat.lt_succ_self k) ((job.handles_iff _ _ _).mp handled).1
      unfold before
      rw [job.marked_other _ _ _ idle]
      exact ih fun earlier early => unpicked earlier (Nat.lt_succ_of_lt early)

/-- A mark is never taken away. -/
theorem before_marked {later : Nat} (order : k ≤ later)
    (marked : job.before marks k item ≠ none) : job.before marks later item ≠ none := by
  induction later, order using Nat.le_induction with
  | base => exact marked
  | succ later _ ih =>
      unfold before
      by_cases again : job.handles later (job.before marks later) item
      · exact job.marked_handled _ _ _ again
      · rw [job.marked_other _ _ _ again]
        exact ih

theorem marked_after (unmarked : job.before marks k item = none) (picked : job.picks k item) :
    job.before marks (k + 1) item ≠ none :=
  job.marked_handled _ _ _ ((job.handles_iff _ _ _).mpr ⟨picked, unmarked⟩)

/-- The run that handles an item is the first that picks it. -/
theorem handled_iff_isLeast (unmarked : marks item = none) :
    job.Handled marks k item ↔ IsLeast { run | job.picks run item } k := by
  unfold Handled
  rw [job.handles_iff]
  constructor
  · rintro ⟨picked, unseen⟩
    refine ⟨picked, fun earlier early => ?_⟩
    by_contra after
    have first : ∃ run, job.picks run item := ⟨earlier, early⟩
    classical
    have clean := before_none (k := Nat.find first) unmarked fun _ before =>
      Nat.find_min first before
    have order : Nat.find first + 1 ≤ k :=
      Nat.lt_of_le_of_lt (Nat.find_min' first early) (Nat.lt_of_not_le after)
    exact before_marked order (marked_after clean (Nat.find_spec first)) unseen
  · rintro ⟨picked, least⟩
    refine ⟨picked, before_none unmarked fun earlier before early => ?_⟩
    exact absurd (least early) (Nat.not_le_of_lt before)

/-- An item that some run picks is handled exactly once. -/
theorem handled_once (unmarked : marks item = none) (picked : job.picks k item) :
    ∃ run, job.Handled marks run item ∧ run ≤ k ∧
      ∀ other, job.Handled marks other item → other = run := by
  have first : ∃ run, job.picks run item := ⟨k, picked⟩
  classical
  have least : IsLeast { run | job.picks run item } (Nat.find first) :=
    ⟨Nat.find_spec first, fun _ other => Nat.find_min' first other⟩
  refine ⟨Nat.find first, (handled_iff_isLeast unmarked).mpr least,
    Nat.find_min' first picked, ?_⟩
  intro other again
  exact ((handled_iff_isLeast unmarked).mp again).unique least

end Runs

end MarkingJob

end KidsChores.Library
