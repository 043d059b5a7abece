import Mathlib.Data.List.Basic

/-!
# Two runs side by side

The same events are applied to two states.  The runs look alike when the answers to the
events agree, and so does what can be seen of the states in between.  A relation that
every event keeps, and under which neither can be told apart, makes all runs alike.
-/

set_option autoImplicit false

namespace KidsChores.Library.TwoRuns

universe u v w x

variable {State : Type u} {Event : Type v} {Answer : Type w} {View : Type x}

def LookAlike (step : State → Event → State) (answer : State → Event → Answer)
    (view : State → View) : State → State → List Event → Prop
  | first, second, [] => view first = view second
  | first, second, event :: rest =>
      view first = view second ∧ answer first event = answer second event ∧
        LookAlike step answer view (step first event) (step second event) rest

variable {step : State → Event → State} {answer : State → Event → Answer}
variable {view : State → View}

/-- The simulation rule. -/
theorem lookAlike_of_related (related : State → State → Prop)
    (views : ∀ first second, related first second → view first = view second)
    (answers : ∀ first second event, related first second →
      answer first event = answer second event)
    (steps : ∀ first second event, related first second →
      related (step first event) (step second event))
    {first second : State} (start : related first second) (events : List Event) :
    LookAlike step answer view first second events := by
  induction events generalizing first second with
  | nil => exact views first second start
  | cons event rest ih =>
      exact ⟨views first second start, answers first second event start,
        ih (steps first second event start)⟩

/-- States that look alike in every run do so after any event. -/
theorem lookAlike_after {first second : State}
    (alike : ∀ events, LookAlike step answer view first second events) (event : Event)
    (events : List Event) :
    LookAlike step answer view (step first event) (step second event) events :=
  (alike (event :: events)).2.2

theorem LookAlike.view_eq {first second : State} {events : List Event}
    (alike : LookAlike step answer view first second events) :
    view first = view second := by
  cases events with
  | nil => exact alike
  | cons event rest => exact alike.1

instance decidableLookAlike [DecidableEq Answer] [DecidableEq View] :
    ∀ (first second : State) (events : List Event),
      Decidable (LookAlike step answer view first second events)
  | first, second, [] => inferInstanceAs (Decidable (view first = view second))
  | first, second, event :: rest =>
      have : Decidable (LookAlike step answer view (step first event) (step second event)
          rest) := decidableLookAlike (step first event) (step second event) rest
      inferInstanceAs (Decidable (_ ∧ _ ∧ _))

end KidsChores.Library.TwoRuns
