import Mathlib.Algebra.Order.Group.Int
import KidsChores.Library.Spans
import KidsChores.Properties.AttemptLimits

/-!
# How many attempts get through in a span of time

A fixed window lets two bursts meet at its end.  In any span of a window's length, though,
at most one attempt less than twice the limit gets through, whatever the order of the
commands and whichever calls are aborted.
-/

set_option autoImplicit false

namespace KidsChores.Properties

open KidsChores.Library
open KidsChores.Library.PyDatetime
open KidsChores.Library.Runs
open KidsChores.Services.LimiterCalls
open KidsChores.Services.RateLimit (Limit)

universe u

variable {Id : Type u} [DecidableEq Id]

/-- When a call sends its `INCR`: at its first turn. -/
def hitTime (turns : List (Turn Id)) (id : Id) : Option Instant :=
  (turns.find? fun turn => turn.call = id).map Turn.now

def windowLength (limits : String → Limit) (key : String) : Timedelta :=
  timedeltaSeconds (limits key).windowSeconds

/-- The places of the calls, and when they took them.  The open window does not end before
its length from its opening on. -/
structure DatedCalls (keyOf : Id → String) (limits : String → Limit) (turns : List (Turn Id))
    (limiter : Limiter Id) : Prop where
  tallied : Tallied keyOf limits limiter
  positive : ∀ key, ∀ counter ∈ limiter.counters key, 0 < counter.value
  spaced : (placesOf limiter).Spaced keyOf (windowLength limits) (hitTime turns) limiter.clock
  lasts : ∀ id time, (placesOf limiter).TookAt (hitTime turns) id
      (limiter.opened (keyOf id)) 1 time →
    ∀ counter ∈ limiter.counters (keyOf id), ∀ expiry ∈ counter.expiresAt,
      time + windowLength limits (keyOf id) ≤ expiry

section Steps

variable {keyOf : Id → String} {limits : String → Limit} {turns : List (Turn Id)}
  {limiter next : Limiter Id} {turn : Turn Id}

/-! ## The time of a call -/

theorem hitTime_first (free : hitTime turns turn.call = none) :
    hitTime (turns ++ [turn]) = Function.update (hitTime turns) turn.call (some turn.now) := by
  funext id
  unfold hitTime at free ⊢
  rw [List.find?_append, List.find?_singleton]
  by_cases own : id = turn.call
  · subst own
    rw [Function.update_self, Option.map_eq_none_iff.mp free, if_pos (decide_eq_true rfl)]
    rfl
  · rw [Function.update_of_ne own, if_neg (by simpa using Ne.symm own), Option.or_none]

theorem hitTime_again (known : (hitTime turns turn.call).isSome = true) :
    hitTime (turns ++ [turn]) = hitTime turns := by
  funext id
  unfold hitTime at known ⊢
  rw [List.find?_append, List.find?_singleton]
  by_cases own : turn.call = id
  · subst own
    rw [Option.isSome_map] at known
    obtain ⟨first, found⟩ := Option.isSome_iff_exists.mp known
    rw [found]
    rfl
  · rw [if_neg (by simpa using own), Option.or_none]

omit [DecidableEq Id] in
theorem hit_eq_none_iff {id : Id} : (placesOf limiter).hit id = none ↔
    limiter.phase id = .ready := by
  unfold placesOf
  dsimp only
  cases limiter.phase id <;> simp [Phase.hit]

omit [DecidableEq Id] in
theorem expired_of_gone {now : Instant} {key : String} {counter : Counter Instant}
    (stored : limiter.counters key = some counter)
    (gone : limiter.counters.get now key = none) :
    ∃ expiry, counter.expiresAt = some expiry ∧ expiry ≤ now := by
  by_contra live
  have seen : limiter.counters.get now key = some counter := by
    refine Counters.get_eq_some_iff.mpr ⟨stored, fun expiry expires => ?_⟩
    exact Int.lt_of_not_ge fun past => live ⟨expiry, expires, past⟩
  rw [gone] at seen
  cases seen

theorem finish_expiries {count window : Nat} {key : String} {counter : Counter Instant}
    (stored : (finish limiter turn.call (keyOf turn.call) (limits (keyOf turn.call)) count
      window turn.now).counters key = some counter) :
    ∃ old ∈ limiter.counters key, counter.value = old.value ∧
      (counter.expiresAt = old.expiresAt ∨
        counter.expiresAt = some (turn.now + windowLength limits key)) := by
  unfold finish at stored
  dsimp only at stored
  split at stored
  · unfold Counters.expire at stored
    cases seen : limiter.counters.get turn.now (keyOf turn.call) with
    | none =>
        rw [seen] at stored
        exact ⟨counter, stored, rfl, Or.inl rfl⟩
    | some found =>
        rw [seen] at stored
        rcases update_eq_iff.mp stored with ⟨rfl, new⟩ | ⟨_, old⟩
        · cases new
          exact ⟨found, (Counters.get_eq_some_iff.mp seen).1, rfl, Or.inr rfl⟩
        · exact ⟨counter, old, rfl, Or.inl rfl⟩
  · exact ⟨counter, stored, rfl, Or.inl rfl⟩

/-! ## Turns -/

theorem DatedCalls.untimed (dated : DatedCalls keyOf limits turns limiter)
    (ready : limiter.phase turn.call = .ready) : hitTime turns turn.call = none := by
  rw [← Option.isNone_iff_eq_none, ← Option.not_isSome, dated.spaced.timed,
    hit_eq_none_iff.mpr ready]
  rfl

theorem dated_idle (clock : Instant) :
    DatedCalls keyOf limits [] (Limiter.idle clock : Limiter Id) where
  tallied := tallied_idle clock
  positive := nofun
  spaced := ⟨fun _ => rfl, nofun, nofun, nofun, nofun⟩
  lasts := nofun

/-- A turn of a call that was counted before. -/
theorem DatedCalls.again (dated : DatedCalls keyOf limits turns limiter)
    (order : TurnInOrder limiter turn) (counted : limiter.phase turn.call ≠ .ready)
    (effect : TurnEffect keyOf limits limiter turn next) (clock : next.clock = turn.now)
    (opened : next.opened = limiter.opened)
    (expiries : ∀ key, ∀ counter ∈ next.counters key, ∃ old ∈ limiter.counters key,
      counter.value = old.value ∧ (counter.expiresAt = old.expiresAt ∨
        counter.expiresAt = some (turn.now + windowLength limits key))) :
    DatedCalls keyOf limits (turns ++ [turn]) next := by
  have samePlaces : placesOf next = placesOf limiter := by
    rcases placesOf_step effect with same | ⟨free, _⟩
    · exact same
    · exact absurd (hit_eq_none_iff.mp free) counted
  have known : (hitTime turns turn.call).isSome = true := by
    rw [dated.spaced.timed]
    exact Option.isSome_iff_ne_none.mpr fun free => counted (hit_eq_none_iff.mp free)
  refine ⟨dated.tallied.step effect, ?_, ?_, ?_⟩
  · intro key counter stored
    obtain ⟨old, oldStored, same, _⟩ := expiries key counter stored
    rw [same]
    exact dated.positive key old oldStored
  · rw [samePlaces, hitTime_again known, clock]
    exact dated.spaced.later order
  · intro id time took counter stored expiry expires
    rw [samePlaces, hitTime_again known, opened] at took
    obtain ⟨old, oldStored, _, same | set⟩ := expiries _ counter stored
    · rw [same] at expires
      exact dated.lasts id time took old oldStored expiry expires
    · rw [set] at expires
      cases expires
      have past := dated.spaced.past id time took.time
      exact Int.add_le_add_right (Int.le_trans past order) _

theorem DatedCalls.counted (dated : DatedCalls keyOf limits turns limiter)
    (order : TurnInOrder limiter turn) {counter : Counter Instant}
    (ready : limiter.phase turn.call = .ready)
    (seen : limiter.counters.get turn.now (keyOf turn.call) = some counter) :
    DatedCalls keyOf limits (turns ++ [turn])
      { counters := Function.update limiter.counters (keyOf turn.call)
          (some { counter with value := counter.value + 1 })
        phase := Function.update limiter.phase turn.call
          (.counted (counter.value + 1) (limiter.opened (keyOf turn.call)))
        opened := limiter.opened
        clock := turn.now } := by
  have stored := (Counters.get_eq_some_iff.mp seen).1
  have positive := dated.positive _ counter stored
  have untimed := dated.untimed ready
  have takes : (placesOf limiter).Takes keyOf
      (placesOf ⟨Function.update limiter.counters (keyOf turn.call)
          (some { counter with value := counter.value + 1 }),
        Function.update limiter.phase turn.call
          (.counted (counter.value + 1) (limiter.opened (keyOf turn.call))),
        limiter.opened, turn.now⟩) turn.call (counter.value + 1) :=
    ⟨hit_eq_none_iff.mpr ready, hit_update_phase _ _, fun _ => Nat.le_refl _⟩
  refine ⟨dated.tallied.step (@TurnEffect.counted Id _ keyOf limits _ _ _ ready seen),
    ?_, ?_, ?_⟩
  · intro key raised found
    rcases update_eq_iff.mp found with ⟨_, new⟩ | ⟨_, old⟩
    · cases new
      exact Nat.succ_pos _
    · exact dated.positive key raised old
  · rw [hitTime_first untimed]
    refine dated.spaced.step dated.tallied.placed order takes ?_
    intro id window time took early
    exact Int.le_trans (dated.spaced.closed id window time took early) order
  · intro id time took raised found expiry expires
    rw [hitTime_first untimed] at took
    rcases takes.tookAt took with ⟨_, _, first, _⟩ | ⟨_, old⟩
    · omega
    · rcases update_eq_iff.mp found with ⟨sameKey, new⟩ | ⟨_, kept⟩
      · cases new
        rw [← sameKey] at stored
        exact dated.lasts id time old counter stored expiry expires
      · exact dated.lasts id time old raised kept expiry expires

theorem DatedCalls.opened (dated : DatedCalls keyOf limits turns limiter)
    (order : TurnInOrder limiter turn) (ready : limiter.phase turn.call = .ready)
    (gone : limiter.counters.get turn.now (keyOf turn.call) = none) :
    DatedCalls keyOf limits (turns ++ [turn])
      { counters := Function.update limiter.counters (keyOf turn.call) (some { value := 1 })
        phase := Function.update limiter.phase turn.call
          (.counted 1 (limiter.opened (keyOf turn.call) + 1))
        opened := Function.update limiter.opened (keyOf turn.call)
          (limiter.opened (keyOf turn.call) + 1)
        clock := turn.now } := by
  have untimed := dated.untimed ready
  have takes : (placesOf limiter).Takes keyOf
      (placesOf ⟨Function.update limiter.counters (keyOf turn.call) (some { value := 1 }),
        Function.update limiter.phase turn.call
          (.counted 1 (limiter.opened (keyOf turn.call) + 1)),
        Function.update limiter.opened (keyOf turn.call)
          (limiter.opened (keyOf turn.call) + 1), turn.now⟩) turn.call 1 := by
    refine ⟨hit_eq_none_iff.mpr ready, ?_, ?_⟩
    · unfold placesOf
      dsimp only
      rw [Function.update_self]
      exact hit_update_phase _ _
    · intro key
      unfold placesOf
      dsimp only
      by_cases same : key = keyOf turn.call
      · rw [same, Function.update_self]
        exact Nat.le_succ _
      · rw [Function.update_of_ne same]
  refine ⟨dated.tallied.step (@TurnEffect.opened Id _ keyOf limits _ _ ready gone),
    ?_, ?_, ?_⟩
  · intro key raised found
    rcases update_eq_iff.mp found with ⟨_, new⟩ | ⟨_, old⟩
    · cases new
      exact Nat.one_pos
    · exact dated.positive key raised old
  · rw [hitTime_first untimed]
    refine dated.spaced.step dated.tallied.placed order takes ?_
    intro id window time took early
    have before : window ≤ limiter.opened (keyOf id) :=
      (dated.tallied.placed.past id window 1 took.hit).2
    rcases Nat.lt_or_eq_of_le before with past | rfl
    · exact Int.le_trans (dated.spaced.closed id window time took past) order
    · by_cases sameKey : keyOf id = keyOf turn.call
      · obtain ⟨counter, stored⟩ := stored_of_hit dated.tallied.placed took.hit
        obtain ⟨expiry, expires, ended⟩ := expired_of_gone stored (by rw [sameKey]; exact gone)
        exact Int.le_trans (dated.lasts id time took counter stored expiry expires) ended
      · unfold placesOf at early
        dsimp only at early
        rw [Function.update_of_ne sameKey] at early
        exact absurd early (Nat.lt_irrefl _)
  · intro id time took raised found expiry expires
    rw [hitTime_first untimed] at took
    rcases update_eq_iff.mp found with ⟨_, new⟩ | ⟨other, kept⟩
    · cases new
      cases expires
    · rcases takes.tookAt took with ⟨own, _⟩ | ⟨_, old⟩
      · exact absurd (congrArg keyOf own) other
      · dsimp only at old
        rw [Function.update_of_ne other] at old
        exact dated.lasts id time old raised kept expiry expires

theorem DatedCalls.step (dated : DatedCalls keyOf limits turns limiter)
    (order : TurnInOrder limiter turn) (effect : TurnEffect keyOf limits limiter turn next) :
    DatedCalls keyOf limits (turns ++ [turn]) next := by
  cases effect with
  | counted ready seen => exact dated.counted order ready seen
  | opened ready gone => exact dated.opened order ready gone
  | finished inFlight proceeds =>
      refine dated.again order (by rw [inFlight]; nofun) (.finished inFlight proceeds) rfl rfl ?_
      exact fun key counter stored => finish_expiries stored
  | aborted inFlight stops =>
      refine dated.again order (by rw [inFlight]; nofun) (.aborted inFlight stops) rfl rfl ?_
      exact fun key counter stored => ⟨counter, stored, rfl, Or.inl rfl⟩
  | idle past =>
      refine dated.again order (by rw [past]; nofun) (.idle past) rfl rfl ?_
      exact fun key counter stored => ⟨counter, stored, rfl, Or.inl rfl⟩

end Steps

/-! ## Every run -/

def Returned (limiter : Limiter Id) (id : Id) : Prop :=
  match limiter.phase id with
  | .ended _ _ _ .returned => True
  | _ => False

instance (limiter : Limiter Id) (id : Id) : Decidable (Returned limiter id) := by
  unfold Returned
  split <;> infer_instance

structure ThroughWithin (keyOf : Id → String) (limits : String → Limit)
    (turns : List (Turn Id)) (limiter : Limiter Id) (key : String) (since : Instant)
    (id : Id) : Prop where
  under : keyOf id = key
  returned : Returned limiter id
  soon : ∃ time ∈ hitTime turns id, since ≤ time ∧ time < since + windowLength limits key

theorem DatedCalls.within {keyOf : Id → String} {limits : String → Limit}
    {turns : List (Turn Id)} {limiter : Limiter Id} {key : String} {since : Instant} {id : Id}
    (dated : DatedCalls keyOf limits turns limiter)
    (through : ThroughWithin keyOf limits turns limiter key since id) :
    Places.TookWithin keyOf (windowLength limits) (placesOf limiter) (hitTime turns) key since
      (limits key).maxAttempts id where
  under := through.under
  took := by
    obtain ⟨time, hit, late, early⟩ := through.soon
    have returned := through.returned
    unfold Returned at returned
    split at returned
    · rename_i count window finished phase
      have place : (placesOf limiter).TookAt (hitTime turns) id window count time :=
        ⟨congrArg Phase.hit phase, hit⟩
      refine ⟨count, time, ?_, ?_, late, early⟩
      · rcases dated.tallied.decided id count window finished .returned phase with
          aborted | byPlace
        · cases aborted
        · unfold outcome at byPlace
          split at byPlace
          · rw [← through.under]
            assumption
          · cases byPlace
      · rw [place.windowOf]
        exact place
    · cases returned

/-- In every interleaving and with any aborts, fewer than twice the limit's number of calls
get through within a window's length, whenever that span begins. -/
theorem attempts_per_span (keyOf : Id → String) (limits : String → Limit) (start : Instant)
    (turns : List (Turn Id))
    (order : EachMeets (limiterStep keyOf limits) TurnInOrder (Limiter.idle start) turns)
    (key : String) (since : Instant) (ids : List Id) (different : ids.Nodup)
    (through : ∀ id ∈ ids, ThroughWithin keyOf limits turns
      (runFrom (limiterStep keyOf limits) (Limiter.idle start) turns) key since id) :
    ids.length ≤ 2 * (limits key).maxAttempts - 1 := by
  have dated : DatedCalls keyOf limits turns
      (runFrom (limiterStep keyOf limits) (Limiter.idle start) turns) := by
    refine history_invariant (DatedCalls keyOf limits) ?_ (dated_idle start) order
    intro past limiter turn dated ordered
    exact dated.step ordered (limiterStep_effect keyOf limits limiter turn)
  exact dated.spaced.length_le dated.tallied.placed different fun id member =>
    dated.within (through id member)

/-- A login; four more in the last second of its window, and five in the second after. -/
def twoBursts : List (Turn Nat) :=
  [⟨0, 0, false⟩, ⟨0, 0, false⟩] ++
    ([1, 2, 3, 4].flatMap fun id =>
      [⟨id, timedeltaSeconds 899, false⟩, ⟨id, timedeltaSeconds 899, false⟩]) ++
    [5, 6, 7, 8, 9].flatMap fun id =>
      [⟨id, timedeltaSeconds 900, false⟩, ⟨id, timedeltaSeconds 900, false⟩]

theorem twoBursts_through : ∀ id ∈ [1, 2, 3, 4, 5, 6, 7, 8, 9],
    ThroughWithin oneEmail loginLimits twoBursts
      (runFrom (limiterStep oneEmail loginLimits) (Limiter.idle 0) twoBursts)
      "login:email:teen@example.com" (timedeltaSeconds 899) id := by
  intro id member
  have returned : ∀ id ∈ [1, 2, 3, 4, 5, 6, 7, 8, 9], Returned
      (runFrom (limiterStep oneEmail loginLimits) (Limiter.idle 0) twoBursts) id := by decide
  have soon : ∀ id ∈ [1, 2, 3, 4, 5, 6, 7, 8, 9], ∃ time ∈ hitTime twoBursts id,
      timedeltaSeconds 899 ≤ time ∧ time < timedeltaSeconds 899 +
        windowLength loginLimits "login:email:teen@example.com" := by decide
  exact ⟨rfl, returned id member, soon id member⟩

/-- The nine calls of the two bursts got through, at a limit of five. -/
theorem attempts_per_span_reached : [1, 2, 3, 4, 5, 6, 7, 8, 9].length ≤
    2 * (loginLimits "login:email:teen@example.com").maxAttempts - 1 :=
  attempts_per_span oneEmail loginLimits 0 twoBursts (by decide) _ _ _ (by decide)
    twoBursts_through

end KidsChores.Properties
