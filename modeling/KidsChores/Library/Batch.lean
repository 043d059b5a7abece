import Mathlib.Data.List.Nodup

/-!
# Batches over keys

A batch runs one transaction for each key and stops at the first that raises.
Transactions are isolated when each depends on its own part of the state and
changes no other part; then a batch of distinct keys leaves every key what its own
transaction would have left.
-/

set_option autoImplicit false

namespace KidsChores.Library.Batch

universe u v w z

variable {State : Type u} {Key : Type v} {View : Type w} {Error : Type z}

/-- What is committed, and the exception that ended the batch. -/
def runAll (run : Key → State → Except Error State) :
    List Key → State → State × Option Error
  | [], state => (state, none)
  | key :: rest, state =>
      match run key state with
      | .error raised => (state, some raised)
      | .ok next => runAll run rest next

/-- `view key` is the part of the state the transaction of `key` depends on, and
the only one it changes. -/
structure Isolated (run : Key → State → Except Error State)
    (view : Key → State → View) : Prop where
  frame : ∀ {key other state next}, run key state = .ok next → other ≠ key →
    view other next = view other state
  depends : ∀ {key state other next}, view key state = view key other →
    run key state = .ok next →
    ∃ next', run key other = .ok next' ∧ view key next' = view key next

variable {run : Key → State → Except Error State} {view : Key → State → View}

/-- A batch leaves the keys it does not cover alone. -/
theorem runAll_frame (isolated : Isolated run view) {keys : List Key} {other : Key}
    (absent : other ∉ keys) (state : State) :
    view other (runAll run keys state).1 = view other state := by
  induction keys generalizing state with
  | nil => rfl
  | cons key rest ih =>
      obtain ⟨different, later⟩ := not_or.mp (mt List.mem_cons.mpr absent)
      cases ran : run key state with
      | error raised => simp only [runAll, ran]
      | ok next =>
          simp only [runAll, ran]
          exact (ih later next).trans (isolated.frame ran different)

/-- When every transaction returns by itself, the batch returns, and leaves each
key what its own transaction leaves. -/
theorem runAll_isolated (isolated : Isolated run view) {keys : List Key}
    (distinct : keys.Nodup) {state : State}
    (returns : ∀ key ∈ keys, ∃ next, run key state = .ok next) :
    (runAll run keys state).2 = none ∧
      ∀ key ∈ keys, ∀ next, run key state = .ok next →
        view key (runAll run keys state).1 = view key next := by
  induction keys generalizing state with
  | nil => exact ⟨rfl, fun key absent => by cases absent⟩
  | cons head rest ih =>
      obtain ⟨absent, restDistinct⟩ := List.nodup_cons.mp distinct
      obtain ⟨middle, ran⟩ := returns head List.mem_cons_self
      -- the head's transaction leaves the others what they depend on
      have unchanged : ∀ key ∈ rest, view key state = view key middle := by
        intro key member
        refine (isolated.frame ran ?_).symm
        rintro rfl
        exact absent member
      have later : ∀ key ∈ rest, ∀ next, run key state = .ok next →
          ∃ next', run key middle = .ok next' ∧ view key next' = view key next :=
        fun key member next alone => isolated.depends (unchanged key member) alone
      obtain ⟨returned, views⟩ := ih restDistinct (by
        intro key member
        obtain ⟨next, alone⟩ := returns key (List.mem_cons_of_mem head member)
        obtain ⟨next', ranLater, _⟩ := later key member next alone
        exact ⟨next', ranLater⟩)
      simp only [runAll, ran]
      refine ⟨returned, ?_⟩
      intro key member next alone
      rcases List.mem_cons.mp member with rfl | restMember
      · rw [ran] at alone
        cases alone
        exact runAll_frame isolated absent middle
      · obtain ⟨next', ranLater, sameView⟩ := later key restMember next alone
        rw [views key restMember next' ranLater, sameView]

end KidsChores.Library.Batch
