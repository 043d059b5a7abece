import Mathlib.Logic.Relation
import KidsChores.Library.Runs

/-!
# Refinement

A system is looked at through a view of its states.  It refines a relation on the
views if each of its steps is a path of moves of that relation, possibly an empty
one.  What the moves keep, every run keeps, and a view that no move leaves, no run
leaves.
-/

set_option autoImplicit false

namespace KidsChores.Library.Refinement

open KidsChores.Library.Runs
open Relation

universe u v w x

variable {State : Type u} {Event : Type v} {View : Type w} {Coarse : Type x}

structure Refines (step : State → Event → State) (invariant : State → Prop)
    (view : State → View) (move : View → View → Prop) : Prop where
  kept : ∀ state event, invariant state → invariant (step state event)
  matched : ∀ state event, invariant state →
    ReflTransGen move (view state) (view (step state event))

/-- What every move keeps, a path keeps. -/
theorem path_keeps {move : View → View → Prop} {good : View → Prop}
    (kept : ∀ before after, good before → move before after → good after)
    {start finish : View} (initial : good start) (path : ReflTransGen move start finish) :
    good finish := by
  induction path with
  | refl => exact initial
  | tail _ moved ih => exact kept _ _ ih moved

/-- A relation that is kept by prolonging it with a move holds along a path. -/
theorem path_relates {move : View → View → Prop} {good : View → Prop}
    {related : View → View → Prop} (reflexive : ∀ view, related view view)
    (prolonged : ∀ start before after, good before → related start before →
      move before after → related start after)
    (kept : ∀ before after, good before → move before after → good after)
    {start finish : View} (initial : good start) (path : ReflTransGen move start finish) :
    related start finish := by
  induction path with
  | refl => exact reflexive start
  | tail early moved ih =>
      exact prolonged _ _ _ (path_keeps kept initial early) ih moved

namespace Refines

variable {step : State → Event → State} {invariant : State → Prop}
variable {view : State → View} {move : View → View → Prop}

theorem invariant_run (refines : Refines step invariant view move) {start : State}
    (initial : invariant start) (events : List Event) :
    invariant (runFrom step start events) :=
  (invariant_always invariant refines.kept initial events).at_end

/-- A run is a path of moves. -/
theorem run (refines : Refines step invariant view move) {start : State}
    (initial : invariant start) (events : List Event) :
    ReflTransGen move (view start) (view (runFrom step start events)) := by
  induction events generalizing start with
  | nil => exact .refl
  | cons event rest ih =>
      exact (refines.matched start event initial).trans
        (ih (refines.kept start event initial))

/-- An invariant of the moves holds in every state of a run. -/
theorem always (refines : Refines step invariant view move) {good : View → Prop}
    (kept : ∀ before after, good before → move before after → good after)
    {start : State} (initial : invariant start) (holds : good (view start))
    (events : List Event) :
    Always step (fun state => good (view state)) start events := by
  have stepped : ∀ state event, invariant state ∧ good (view state) →
      invariant (step state event) ∧ good (view (step state event)) := by
    rintro state event ⟨inside, ok⟩
    exact ⟨refines.kept state event inside,
      path_keeps kept ok (refines.matched state event inside)⟩
  have both : Always step (fun state => invariant state ∧ good (view state)) start events :=
    invariant_always _ stepped ⟨initial, holds⟩ events
  exact both.imp fun _ held => held.2

/-- A view that no move leaves stays for good. -/
theorem final (refines : Refines step invariant view move) {start : State}
    (initial : invariant start) (stuck : ∀ next, ¬ move (view start) next)
    (events : List Event) :
    view (runFrom step start events) = view start := by
  rcases (refines.run initial events).cases_head with same | ⟨next, moved, _⟩
  · exact same.symm
  · exact absurd moved (stuck next)

/-- Refinements compose: each move may in turn be a path of moves on a coarser view. -/
theorem comp (refines : Refines step invariant view move) {good : View → Prop}
    {coarse : View → Coarse} {coarseMove : Coarse → Coarse → Prop}
    (holds : ∀ state, invariant state → good (view state))
    (kept : ∀ before after, good before → move before after → good after)
    (matched : ∀ before after, good before → move before after →
      ReflTransGen coarseMove (coarse before) (coarse after)) :
    Refines step invariant (fun state => coarse (view state)) coarseMove := by
  refine ⟨refines.kept, fun state event inside => ?_⟩
  have prolonged : ∀ start before after, good before →
      ReflTransGen coarseMove (coarse start) (coarse before) → move before after →
        ReflTransGen coarseMove (coarse start) (coarse after) := by
    intro start before after ok early moved
    exact early.trans (matched before after ok moved)
  exact path_relates (fun _ => .refl) prolonged kept (holds state inside)
    (refines.matched state event inside)

end Refines

end KidsChores.Library.Refinement
