import Mathlib.Data.List.Basic

/-!
# Runs of a step function

A system is a state with one total step per event; a run is a finite list of
events.  The rules below turn facts about one step into facts about every run,
with or without a condition that each event has to meet in the state it finds.
-/

set_option autoImplicit false

namespace KidsChores.Library.Runs

universe u v

variable {State : Type u} {Event : Type v}

/-- The state a run ends in. -/
def runFrom (step : State → Event → State) : State → List Event → State
  | state, [] => state
  | state, event :: rest => runFrom step (step state event) rest

/-- `property` holds in every state of the run, its start included. -/
def Always (step : State → Event → State) (property : State → Prop) :
    State → List Event → Prop
  | state, [] => property state
  | state, event :: rest =>
      property state ∧ Always step property (step state event) rest

/-- Every event of the run meets `condition` in the state it is applied to. -/
def EachMeets (step : State → Event → State)
    (condition : State → Event → Prop) : State → List Event → Prop
  | _, [] => True
  | state, event :: rest =>
      condition state event ∧ EachMeets step condition (step state event) rest

/-- Some event of the run meets `condition` in the state it is applied to. -/
def SomeMeets (step : State → Event → State)
    (condition : State → Event → Prop) : State → List Event → Prop
  | _, [] => False
  | state, event :: rest =>
      condition state event ∨ SomeMeets step condition (step state event) rest

variable {step : State → Event → State}

instance decidableAlways {property : State → Prop} [DecidablePred property] :
    ∀ (state : State) (events : List Event),
      Decidable (Always step property state events)
  | state, [] => inferInstanceAs (Decidable (property state))
  | state, event :: rest =>
      have : Decidable (Always step property (step state event) rest) :=
        decidableAlways (step state event) rest
      inferInstanceAs (Decidable (_ ∧ _))

instance decidableEachMeets {condition : State → Event → Prop}
    [∀ state event, Decidable (condition state event)] :
    ∀ (state : State) (events : List Event),
      Decidable (EachMeets step condition state events)
  | _, [] => inferInstanceAs (Decidable True)
  | state, event :: rest =>
      have : Decidable (EachMeets step condition (step state event) rest) :=
        decidableEachMeets (step state event) rest
      inferInstanceAs (Decidable (_ ∧ _))

instance decidableSomeMeets {condition : State → Event → Prop}
    [∀ state event, Decidable (condition state event)] :
    ∀ (state : State) (events : List Event),
      Decidable (SomeMeets step condition state events)
  | _, [] => inferInstanceAs (Decidable False)
  | state, event :: rest =>
      have : Decidable (SomeMeets step condition (step state event) rest) :=
        decidableSomeMeets (step state event) rest
      inferInstanceAs (Decidable (_ ∨ _))

theorem runFrom_append (start : State) (early late : List Event) :
    runFrom step start (early ++ late) = runFrom step (runFrom step start early) late := by
  induction early generalizing start with
  | nil => rfl
  | cons event rest ih => exact ih (step start event)

theorem Always.at_start {property : State → Prop} {state : State}
    {events : List Event} (always : Always step property state events) :
    property state := by
  cases events with
  | nil => exact always
  | cons event rest => exact always.1

theorem Always.at_end {property : State → Prop} {state : State}
    {events : List Event} (always : Always step property state events) :
    property (runFrom step state events) := by
  induction events generalizing state with
  | nil => exact always
  | cons event rest ih => exact ih always.2

theorem Always.imp {property weaker : State → Prop}
    (implies : ∀ state, property state → weaker state) {state : State}
    {events : List Event} (always : Always step property state events) :
    Always step weaker state events := by
  induction events generalizing state with
  | nil => exact implies state always
  | cons event rest ih => exact ⟨implies state always.1, ih always.2⟩

theorem Always.and {first second : State → Prop} {state : State} {events : List Event}
    (left : Always step first state events) (right : Always step second state events) :
    Always step (fun state => first state ∧ second state) state events := by
  induction events generalizing state with
  | nil => exact ⟨left, right⟩
  | cons event rest ih => exact ⟨⟨left.1, right.1⟩, ih left.2 right.2⟩

theorem EachMeets.imp {condition weaker : State → Event → Prop}
    (implies : ∀ state event, condition state event → weaker state event)
    {state : State} {events : List Event}
    (meets : EachMeets step condition state events) :
    EachMeets step weaker state events := by
  induction events generalizing state with
  | nil => trivial
  | cons event rest ih => exact ⟨implies state event meets.1, ih meets.2⟩

theorem EachMeets.and {first second : State → Event → Prop} {state : State}
    {events : List Event} (left : EachMeets step first state events)
    (right : EachMeets step second state events) :
    EachMeets step (fun state event => first state event ∧ second state event)
      state events := by
  induction events generalizing state with
  | nil => trivial
  | cons event rest ih => exact ⟨⟨left.1, right.1⟩, ih left.2 right.2⟩

theorem eachMeets_of_forall {condition : State → Event → Prop}
    {events : List Event}
    (meets : ∀ state, ∀ event ∈ events, condition state event) (state : State) :
    EachMeets step condition state events := by
  induction events generalizing state with
  | nil => trivial
  | cons event rest ih =>
      exact ⟨meets state event List.mem_cons_self,
        ih (fun state event member =>
          meets state event (List.mem_cons_of_mem _ member)) _⟩

/-! ## Invariants -/

/-- What every step keeps holds along every run. -/
theorem invariant_always (invariant : State → Prop)
    (preserved : ∀ state event, invariant state → invariant (step state event))
    {start : State} (initial : invariant start) (events : List Event) :
    Always step invariant start events := by
  induction events generalizing start with
  | nil => exact initial
  | cons event rest ih => exact ⟨initial, ih (preserved start event initial)⟩

/-- What every step that meets `condition` keeps holds along every run whose
steps all meet it. -/
theorem guarded_always (invariant : State → Prop)
    {condition : State → Event → Prop}
    (preserved : ∀ state event, invariant state → condition state event →
      invariant (step state event))
    {start : State} (initial : invariant start) {events : List Event}
    (meets : EachMeets step condition start events) :
    Always step invariant start events := by
  induction events generalizing start with
  | nil => exact initial
  | cons event rest ih =>
      exact ⟨initial, ih (preserved start event initial meets.1) meets.2⟩

theorem always_append {property : State → Prop} {start : State}
    {early late : List Event} :
    Always step property start (early ++ late) ↔
      Always step property start early ∧
        Always step property (runFrom step start early) late := by
  induction early generalizing start with
  | nil => exact ⟨fun later => ⟨later.at_start, later⟩, fun both => both.2⟩
  | cons event rest ih =>
      rw [List.cons_append, Always, Always, ih, and_assoc]
      rfl

/-- What a step keeps unless it reaches a state no run comes back from holds along
every run that does not end in such a state. -/
theorem always_unless_absorbed {property : State → Prop} (absorbed : State → Prop)
    (remains : ∀ state event, absorbed state → absorbed (step state event))
    (kept : ∀ state event, property state →
      property (step state event) ∨ absorbed (step state event))
    {start : State} (initial : property start) {events : List Event}
    (outside : ¬ absorbed (runFrom step start events)) :
    Always step property start events := by
  induction events generalizing start with
  | nil => exact initial
  | cons event rest ih =>
      rcases kept start event initial with holds | reached
      · exact ⟨initial, ih holds outside⟩
      · exact absurd (invariant_always absorbed remains reached rest).at_end outside

/-- Under a kept invariant, what holds of one step holds of every step. -/
theorem guarded_eachMeets (invariant : State → Prop)
    {condition conclusion : State → Event → Prop}
    (preserved : ∀ state event, invariant state → condition state event →
      invariant (step state event))
    (concludes : ∀ state event, invariant state → condition state event →
      conclusion state event)
    {start : State} (initial : invariant start) {events : List Event}
    (meets : EachMeets step condition start events) :
    EachMeets step conclusion start events := by
  induction events generalizing start with
  | nil => trivial
  | cons event rest ih =>
      exact ⟨concludes start event initial meets.1,
        ih (preserved start event initial meets.1) meets.2⟩

/-- An invariant of the state and the events that led to it. -/
theorem history_invariant (invariant : List Event → State → Prop)
    {condition : State → Event → Prop}
    (preserved : ∀ past state event, invariant past state → condition state event →
      invariant (past ++ [event]) (step state event))
    {past : List Event} {start : State} (initial : invariant past start)
    {events : List Event} (meets : EachMeets step condition start events) :
    invariant (past ++ events) (runFrom step start events) := by
  induction events generalizing past start with
  | nil =>
      rw [List.append_nil]
      exact initial
  | cons event rest ih =>
      have later := ih (preserved past start event initial meets.1) meets.2
      rw [List.append_assoc] at later
      exact later

/-- Where a step keeps `property` exactly when it meets `condition`, a run keeps
it exactly when all its steps do: the first step that misses the condition
reaches a state without the property. -/
theorem always_iff_eachMeets (invariant : State → Prop) {property : State → Prop}
    {condition : State → Event → Prop}
    (preserved : ∀ state event, invariant state → invariant (step state event))
    (exact_step : ∀ state event, invariant state → property state →
      (property (step state event) ↔ condition state event))
    {start : State} (initial : invariant start) (holds : property start)
    (events : List Event) :
    Always step property start events ↔ EachMeets step condition start events := by
  induction events generalizing start with
  | nil => exact ⟨fun _ => trivial, fun _ => holds⟩
  | cons event rest ih =>
      constructor
      · rintro ⟨_, later⟩
        have kept : property (step start event) := later.at_start
        exact ⟨(exact_step start event initial holds).mp kept,
          (ih (preserved start event initial) kept).mp later⟩
      · rintro ⟨meets, later⟩
        have kept := (exact_step start event initial holds).mpr meets
        exact ⟨holds, (ih (preserved start event initial) kept).mpr later⟩

/-- An invariant that implies `property`, that a step keeps if it meets `condition`, and
and that is lost with `property` if it does not: a run keeps `property` exactly when all
its steps meet `condition`. -/
theorem always_iff_of_broken (invariant : State → Prop) {property : State → Prop}
    {guard condition : State → Event → Prop}
    (implies : ∀ state, invariant state → property state)
    (kept : ∀ state event, guard state event → invariant state → condition state event →
      invariant (step state event))
    (broken : ∀ state event, guard state event → invariant state →
      property (step state event) → condition state event)
    {start : State} (initial : invariant start) {events : List Event}
    (guarded : EachMeets step guard start events) :
    Always step property start events ↔ EachMeets step condition start events := by
  induction events generalizing start with
  | nil => exact ⟨fun _ => trivial, fun _ => implies start initial⟩
  | cons event rest ih =>
      constructor
      · rintro ⟨_, later⟩
        have meets := broken start event guarded.1 initial later.at_start
        exact ⟨meets, (ih (kept start event guarded.1 initial meets) guarded.2).mp later⟩
      · rintro ⟨meets, later⟩
        have next := kept start event guarded.1 initial meets
        exact ⟨implies start initial, (ih next guarded.2).mpr later⟩

/-- Two states that stay related when one of them takes an event that is not relevant, and
when both take one that is: events that are not relevant can be left out of a run. -/
theorem related_filter (related : State → State → Prop) (relevant : Event → Bool)
    (ignored : ∀ first second event, ¬ relevant event → related first second →
      related (step first event) second)
    (followed : ∀ first second event, relevant event → related first second →
      related (step first event) (step second event))
    {first second : State} (start : related first second) (events : List Event) :
    related (runFrom step first events)
      (runFrom step second (events.filter relevant)) := by
  induction events generalizing first second with
  | nil => exact start
  | cons event rest ih =>
      by_cases hit : relevant event
      · rw [List.filter_cons_of_pos hit]
        exact ih (followed first second event hit start)
      · rw [List.filter_cons_of_neg hit]
        exact ih (ignored first second event hit start)

/-- A run in two parts: it stays before the first event that meets `condition`, and
after that event. -/
theorem before_or_after {condition : State → Event → Prop} {before after : State → Prop}
    (stays : ∀ state event, before state → ¬ condition state event →
      before (step state event))
    (crosses : ∀ state event, before state → condition state event →
      after (step state event))
    (remains : ∀ state event, after state → after (step state event))
    {start : State} (initial : before start) (events : List Event) :
    (SomeMeets step condition start events → after (runFrom step start events)) ∧
      (¬ SomeMeets step condition start events →
        before (runFrom step start events)) := by
  induction events generalizing start with
  | nil => exact ⟨fun met => met.elim, fun _ => initial⟩
  | cons event rest ih =>
      by_cases met : condition start event
      · have crossed : after (runFrom step (step start event) rest) :=
          (invariant_always after remains (crosses start event initial met) rest).at_end
        exact ⟨fun _ => crossed, fun unmet => (unmet (Or.inl met)).elim⟩
      · obtain ⟨later, never⟩ := ih (stays start event initial met)
        exact ⟨fun some => later (some.resolve_left met),
          fun unmet => never fun some => unmet (Or.inr some)⟩

end KidsChores.Library.Runs
