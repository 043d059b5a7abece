import KidsChores.Library.Runs
import Mathlib.Data.List.Chain

/-!
# A sliding horizon

Some events of a run have a date and cover the days from it up to a horizon.
When no date is before the last one or more than a horizon after it, the days
covered have no gap.
-/

set_option autoImplicit false

namespace KidsChores.Library.SlidingHorizon

open KidsChores.Library.Runs

universe u v

variable {State : Type u} {Event : Type v}

/-- A date that leaves no gap after an earlier one. -/
def Spaced (horizon earlier later : Int) : Prop :=
  earlier ≤ later ∧ later ≤ earlier + horizon

instance (horizon earlier later : Int) : Decidable (Spaced horizon earlier later) :=
  inferInstanceAs (Decidable (_ ∧ _))

/-- The dates of the events that have one. -/
def runDates (step : State → Event → State) (date? : State → Event → Option Int) :
    State → List Event → List Int
  | _, [] => []
  | state, event :: rest =>
      (date? state event).toList ++ runDates step date? (step state event) rest

variable {step : State → Event → State} {date? : State → Event → Option Int}

/-- Where an invariant fixes the dates of the events, they are read off the events. -/
theorem runDates_eq_filterMap {invariant : State → Prop} {known? : Event → Option Int}
    (preserved : ∀ state event, invariant state → invariant (step state event))
    {events : List Event} (knows : ∀ state, ∀ event ∈ events, invariant state →
      date? state event = known? event)
    {state : State} (holds : invariant state) :
    runDates step date? state events = events.filterMap known? := by
  induction events generalizing state with
  | nil => rfl
  | cons event rest ih =>
      have later := ih (fun state other member => knows state other
        (List.mem_cons_of_mem event member)) (preserved state event holds)
      simp only [runDates, knows state event List.mem_cons_self holds, later]
      cases dated : known? event with
      | none => simp [dated]
      | some date => simp [dated]

/-- A covered day stays covered, and an event with a date covers its horizon. -/
structure Covers (step : State → Event → State) (date? : State → Event → Option Int)
    (horizon : Int) (invariant : State → Prop) (covered : State → Int → Prop) :
    Prop where
  preserved : ∀ state event, invariant state → invariant (step state event)
  kept : ∀ state event day, invariant state → covered state day →
    covered (step state event) day
  reaches : ∀ state event date day, invariant state → date? state event = some date →
    date ≤ day → day < date + horizon → covered (step state event) day

variable {horizon : Int} {invariant : State → Prop} {covered : State → Int → Prop}

/-- With a span covered up to the horizon of an earlier date. -/
theorem Covers.extend (covers : Covers step date? horizon invariant covered)
    {state : State} {events : List Event} {first last : Int} (holds : invariant state)
    (ordered : first ≤ last)
    (span : ∀ day, first ≤ day → day < last + horizon → covered state day)
    (spaced : (last :: runDates step date? state events).IsChain (Spaced horizon)) :
    ∀ day, first ≤ day →
      day < (runDates step date? state events).getLastD last + horizon →
        covered (runFrom step state events) day := by
  induction events generalizing state last with
  | nil => exact span
  | cons event rest ih =>
      have kept : ∀ day, first ≤ day → day < last + horizon →
          covered (step state event) day := fun day from_ below =>
        covers.kept state event day holds (span day from_ below)
      have holdsNext := covers.preserved state event holds
      cases dated : date? state event with
      | none =>
          simp only [runDates, dated, Option.toList_none, List.nil_append] at spaced ⊢
          exact ih holdsNext ordered kept spaced
      | some date =>
          simp only [runDates, dated, Option.toList_some, List.singleton_append] at spaced ⊢
          obtain ⟨⟨notBefore, notFar⟩, later⟩ := List.isChain_cons_cons.mp spaced
          rw [List.getLastD_cons]
          refine ih holdsNext (Int.le_trans ordered notBefore) ?_ later
          intro day from_ below
          by_cases old : day < last + horizon
          · exact kept day from_ old
          · exact covers.reaches state event date day holds dated (by omega) below

/-- Every day is covered from the first date to the end of the last horizon. -/
theorem Covers.gapless (covers : Covers step date? horizon invariant covered)
    {state : State} {events : List Event} {first : Int} {rest : List Int}
    (holds : invariant state)
    (dates : runDates step date? state events = first :: rest)
    (spaced : (first :: rest).IsChain (Spaced horizon)) :
    ∀ day, first ≤ day → day < rest.getLastD first + horizon →
      covered (runFrom step state events) day := by
  induction events generalizing state with
  | nil => cases dates
  | cons event later ih =>
      have holdsNext := covers.preserved state event holds
      cases dated : date? state event with
      | none =>
          simp only [runDates, dated, Option.toList_none, List.nil_append] at dates
          exact ih holdsNext dates
      | some date =>
          simp only [runDates, dated, Option.toList_some, List.singleton_append,
            List.cons.injEq] at dates
          obtain ⟨rfl, rfl⟩ := dates
          exact covers.extend holdsNext (Int.le_refl date)
            (fun day from_ below =>
              covers.reaches state event date day holds dated from_ below) spaced

end KidsChores.Library.SlidingHorizon
