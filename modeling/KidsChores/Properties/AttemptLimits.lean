import KidsChores.Library.Places
import KidsChores.Routers.Auth
import KidsChores.Services.LimiterCalls

/-!
# The rate limiter, call by call

Whatever the order of their commands, the calls of a window are counted one by one, and
only the first ones return.  That the window ends hangs on a single `EXPIRE`: the one of
the call that opened it.
-/

set_option autoImplicit false

namespace KidsChores.Properties

open KidsChores.Library
open KidsChores.Library.PyDatetime
open KidsChores.Library.Runs
open KidsChores.Services.LimiterCalls
open KidsChores.Services.RateLimit (Limit)

universe u

variable {Id : Type u}

structure SameUnder (keyOf : Id → String) (key : String) (first second : Limiter Id) :
    Prop where
  counter : first.counters key = second.counters key
  opened : first.opened key = second.opened key
  phase : ∀ id, keyOf id = key → first.phase id = second.phase id

/-- The calls of a window take its places one by one; a call that is not aborted returns
if its place is within the limit and raises if it is not, so no more return than the
limit allows. -/
structure Bounded (keyOf : Id → String) (limits : String → Limit) (limiter : Limiter Id) :
    Prop where
  distinct : ∀ id other spot, (limiter.phase id).hit = some spot →
    (limiter.phase other).hit = some spot → keyOf id = keyOf other → id = other
  gapless : ∀ id window count, (limiter.phase id).hit = some (window, count) →
    ∀ place, 0 < place → place ≤ count →
      ∃ other, keyOf other = keyOf id ∧ (limiter.phase other).hit = some (window, place)
  decided : ∀ id count window finished outcome,
    limiter.phase id = .ended count window finished outcome → outcome ≠ .aborted →
      if count ≤ (limits (keyOf id)).maxAttempts then outcome = .returned else outcome = .raised
  atMost : ∀ key window (ids : List Id), ids.Nodup →
    (∀ id ∈ ids, keyOf id = key ∧
      ∃ count finished, limiter.phase id = .ended count window finished .returned) →
    ids.length ≤ (limits key).maxAttempts

/-- A counter is gone a window's length after any hit of it that ended. -/
def Released (keyOf : Id → String) (limits : String → Limit) (limiter : Limiter Id) : Prop :=
  ∀ id count finished outcome,
    limiter.phase id = .ended count (limiter.opened (keyOf id)) finished outcome →
    ∀ later, finished + timedeltaSeconds (limits (keyOf id)).windowSeconds ≤ later →
      limiter.counters.get later (keyOf id) = none

/-- A call that ends in the window it was counted in opened it and is not aborted, or finds
its expiry set. -/
def EndsReleased (keyOf : Id → String) (limiter : Limiter Id) (turn : Turn Id) : Prop :=
  match limiter.phase turn.call with
  | .counted count window => window = limiter.opened (keyOf turn.call) →
      (count = 1 ∧ turn.aborted = false) ∨
        ∃ counter ∈ limiter.counters (keyOf turn.call), counter.expiresAt ≠ none
  | _ => True

instance (keyOf : Id → String) (limiter : Limiter Id) (turn : Turn Id) :
    Decidable (EndsReleased keyOf limiter turn) := by
  unfold EndsReleased
  split <;> infer_instance

def valueOf (stored : Option (Counter Instant)) : Nat := (stored.map Counter.value).getD 0

def placesOf (limiter : Limiter Id) : Places Id String where
  hit := fun id => (limiter.phase id).hit
  taken := fun key => valueOf (limiter.counters key)
  opened := limiter.opened

section Steps

variable [DecidableEq Id] {keyOf : Id → String} {limits : String → Limit}
  {limiter next : Limiter Id} {turn : Turn Id}

/-! ## One key at a time -/

theorem sameUnder_other {key : String} {first second : Limiter Id} (turn : Turn Id)
    (different : keyOf turn.call ≠ key) (same : SameUnder keyOf key first second) :
    SameUnder keyOf key (limiterStep keyOf limits first turn) second := by
  have keptPhase : ∀ phase id, keyOf id = key →
      Function.update first.phase turn.call phase id = second.phase id := by
    intro phase id under
    rw [Function.update_of_ne (by rintro rfl; exact different under)]
    exact same.phase id under
  have effect := limiterStep_effect keyOf limits first turn
  generalize limiterStep keyOf limits first turn = stepped at effect ⊢
  cases effect with
  | counted ready seen =>
      refine ⟨?_, same.opened, keptPhase _⟩
      rw [← same.counter]
      exact Function.update_of_ne different.symm _ _
  | opened ready gone =>
      refine ⟨?_, ?_, keptPhase _⟩
      · rw [← same.counter]
        exact Function.update_of_ne different.symm _ _
      · rw [← same.opened]
        exact Function.update_of_ne different.symm _ _
  | finished inFlight proceeds =>
      refine ⟨?_, same.opened, keptPhase _⟩
      rw [← same.counter]
      unfold finish
      dsimp only
      split
      · exact Counters.expire_other different.symm
      · rfl
  | aborted inFlight stops => exact ⟨same.counter, same.opened, keptPhase _⟩
  | idle past => exact ⟨same.counter, same.opened, same.phase⟩

theorem sameUnder_both {key : String} {first second : Limiter Id} (turn : Turn Id)
    (under : keyOf turn.call = key) (same : SameUnder keyOf key first second) :
    SameUnder keyOf key (limiterStep keyOf limits first turn)
      (limiterStep keyOf limits second turn) := by
  subst under
  have samePhase := same.phase turn.call rfl
  have updated : ∀ phase id, keyOf id = keyOf turn.call →
      Function.update first.phase turn.call phase id =
        Function.update second.phase turn.call phase id := by
    intro phase id under
    by_cases hit : id = turn.call
    · rw [hit, Function.update_self, Function.update_self]
    · rw [Function.update_of_ne hit, Function.update_of_ne hit]
      exact same.phase id under
  unfold limiterStep
  rw [← samePhase]
  cases first.phase turn.call with
  | ready =>
      obtain ⟨reply, counters⟩ := @Counters.incr_congr _ _ _ _ first.counters turn.now
        (keyOf turn.call) second.counters same.counter
      have seen : first.counters.get turn.now (keyOf turn.call) =
          second.counters.get turn.now (keyOf turn.call) := by
        unfold Counters.get
        rw [same.counter]
      refine ⟨counters, ?_, ?_⟩
      · simp only [countHit, seen, same.opened, Function.update_self]
      · intro id under
        simp only [countHit, reply, seen, same.opened]
        exact updated _ id under
  | counted count window =>
      dsimp only
      split
      · exact ⟨same.counter, same.opened, updated _⟩
      · refine ⟨?_, same.opened, updated _⟩
        unfold finish
        dsimp only
        split
        · exact Counters.expire_congr same.counter
        · exact same.counter
  | ended count window finished outcome => exact ⟨same.counter, same.opened, same.phase⟩

/-! ## Counting -/

theorem hit_update_phase (call : Id) (phase : Phase) :
    (fun id => (Function.update limiter.phase call phase id).hit) =
      Function.update (fun id => (limiter.phase id).hit) call phase.hit :=
  Function.comp_update Phase.hit limiter.phase call phase

omit [DecidableEq Id] in
theorem taken_update (key : String) (counter : Counter Instant) :
    (fun asked => valueOf (Function.update limiter.counters key (some counter) asked)) =
      Function.update (fun asked => valueOf (limiter.counters asked)) key counter.value :=
  Function.comp_update valueOf limiter.counters key (some counter)

theorem placesOf_ended {phase : Phase} {counters : Counters String Instant} {now : Instant}
    (same : phase.hit = (limiter.phase turn.call).hit)
    (values : ∀ key, (counters key).map Counter.value =
      (limiter.counters key).map Counter.value) :
    placesOf { limiter with
      counters := counters
      phase := Function.update limiter.phase turn.call phase
      clock := now } = placesOf limiter := by
  unfold placesOf
  dsimp only
  rw [hit_update_phase, same, Function.update_eq_self]
  simp only [valueOf, values]

theorem placesOf_step (effect : TurnEffect keyOf limits limiter turn next) :
    placesOf next = placesOf limiter ∨
      ((placesOf limiter).hit turn.call = none ∧
        (placesOf next = (placesOf limiter).take turn.call (keyOf turn.call) ∨
          placesOf next = (placesOf limiter).openWindow turn.call (keyOf turn.call))) := by
  cases effect with
  | counted ready seen =>
      have stored := (Counters.get_eq_some_iff.mp seen).1
      refine Or.inr ⟨congrArg Phase.hit ready, Or.inl ?_⟩
      simp only [placesOf, Places.take, hit_update_phase, taken_update, stored]
      rfl
  | opened ready gone =>
      refine Or.inr ⟨congrArg Phase.hit ready, Or.inr ?_⟩
      simp only [placesOf, Places.openWindow, hit_update_phase, taken_update]
      rfl
  | finished inFlight proceeds =>
      refine Or.inl (placesOf_ended (by rw [inFlight]; rfl) ?_)
      intro key
      split
      · exact Counters.expire_value
      · rfl
  | aborted inFlight stops =>
      exact Or.inl (placesOf_ended (by rw [inFlight]; rfl) fun _ => rfl)
  | idle past => exact Or.inl rfl

/-- Places are taken one by one, and calls that ended and were not aborted were decided by
theirs. -/
structure Tallied (keyOf : Id → String) (limits : String → Limit) (limiter : Limiter Id) :
    Prop where
  placed : (placesOf limiter).WellPlaced keyOf
  decided : ∀ id count window finished ended,
    limiter.phase id = .ended count window finished ended →
      ended = .aborted ∨ ended = outcome (limits (keyOf id)) count

omit [DecidableEq Id] in
theorem tallied_idle (clock : Instant) :
    Tallied keyOf limits (Limiter.idle clock : Limiter Id) where
  placed := by
    constructor
    · intro id window place hit
      cases hit
    · intro id place hit
      cases hit
    · intro id other spot hit
      cases hit
    · intro key place positive bound
      exact absurd (Nat.lt_of_lt_of_le positive bound) (Nat.lt_irrefl 0)
    · intro id window count hit
      cases hit
  decided := by
    intro id count window finished ended phase
    cases phase

theorem placed_step (placed : (placesOf limiter).WellPlaced keyOf)
    (effect : TurnEffect keyOf limits limiter turn next) :
    (placesOf next).WellPlaced keyOf := by
  rcases placesOf_step effect with same | ⟨free, taken | opened⟩
  · rw [same]
    exact placed
  · rw [taken]
    exact placed.take free
  · rw [opened]
    exact placed.openWindow free

theorem Tallied.step (tallied : Tallied keyOf limits limiter)
    (effect : TurnEffect keyOf limits limiter turn next) : Tallied keyOf limits next where
  placed := placed_step tallied.placed effect
  decided := by
    intro id count window finished ended phase
    cases effect with
    | idle past => exact tallied.decided id count window finished ended phase
    | _ =>
        rcases update_eq_iff.mp phase with ⟨rfl, now⟩ | ⟨_, before⟩
        · cases now <;> simp
        · exact tallied.decided id count window finished ended before

omit [DecidableEq Id] in
theorem Tallied.bounded (tallied : Tallied keyOf limits limiter) :
    Bounded keyOf limits limiter where
  distinct := tallied.placed.distinct
  gapless := tallied.placed.gapless
  decided := by
    intro id count window finished ended phase completed
    have byPlace := (tallied.decided id count window finished ended phase).resolve_left completed
    rw [byPlace]
    unfold outcome
    split
    · rfl
    · rfl
  atMost := by
    intro key window ids different returned
    refine @Places.WellPlaced.length_le _ _ _ _ tallied.placed key window _ ids different ?_
    intro id member
    obtain ⟨under, count, finished, phase⟩ := returned id member
    refine ⟨under, count, ?_, congrArg Phase.hit phase⟩
    rcases tallied.decided id count window finished .returned phase with early | byPlace
    · cases early
    · unfold outcome at byPlace
      split at byPlace
      · rw [← under]
        assumption
      · cases byPlace

/-! ## The end of a window -/

/-- The call that opened a window is still to set its expiry, or has set it; in the second
case every call of the window that ended did so a window's length before it or later. -/
structure WindowsEnd (keyOf : Id → String) (limits : String → Limit) (limiter : Limiter Id) :
    Prop where
  placed : (placesOf limiter).WellPlaced keyOf
  positive : ∀ key, ∀ counter ∈ limiter.counters key, 0 < counter.value
  opener : ∀ id window, limiter.phase id = .counted 1 window →
    window = limiter.opened (keyOf id) ∧
      ∃ counter, limiter.counters (keyOf id) = some counter ∧ counter.expiresAt = none
  armed : ∀ key, ∀ counter ∈ limiter.counters key, ∀ expiry ∈ counter.expiresAt,
    expiry ≤ limiter.clock + timedeltaSeconds (limits key).windowSeconds
  ended : ∀ id count finished ended,
    limiter.phase id = .ended count (limiter.opened (keyOf id)) finished ended →
      ∃ counter expiry, limiter.counters (keyOf id) = some counter ∧
        counter.expiresAt = some expiry ∧
          expiry ≤ finished + timedeltaSeconds (limits (keyOf id)).windowSeconds

omit [DecidableEq Id] in
theorem WindowsEnd.released (ends : WindowsEnd keyOf limits limiter) :
    Released keyOf limits limiter := by
  intro id count finished ended phase later late
  obtain ⟨counter, expiry, stored, armed, soon⟩ := ends.ended id count finished ended phase
  exact Counters.get_expired stored armed (Int.le_trans soon late)

omit [DecidableEq Id] in
theorem windowsEnd_idle (clock : Instant) :
    WindowsEnd keyOf limits (Limiter.idle clock : Limiter Id) where
  placed := (@tallied_idle Id keyOf limits clock).placed
  positive := nofun
  opener := nofun
  armed := nofun
  ended := nofun

omit [DecidableEq Id] in
theorem stored_of_hit (placed : (placesOf limiter).WellPlaced keyOf) {id : Id} {count : Nat}
    (hit : (limiter.phase id).hit = some (limiter.opened (keyOf id), count)) :
    ∃ counter, limiter.counters (keyOf id) = some counter := by
  have taken := placed.present id count hit
  have positive := (placed.past id _ count hit).1
  cases stored : limiter.counters (keyOf id) with
  | none =>
      have none_taken : (placesOf limiter).taken (keyOf id) = 0 := by
        simp [placesOf, valueOf, stored]
      omega
  | some counter => exact ⟨counter, rfl⟩

omit [DecidableEq Id] in
/-- Expiries stay within a window's length of a later clock. -/
theorem WindowsEnd.armed_later (ends : WindowsEnd keyOf limits limiter)
    (order : TurnInOrder limiter turn) {key : String} {counter : Counter Instant}
    {expiry : Instant} (stored : counter ∈ limiter.counters key)
    (expires : expiry ∈ counter.expiresAt) :
    expiry ≤ turn.now + timedeltaSeconds (limits key).windowSeconds :=
  Int.le_trans (ends.armed key counter stored expiry expires) (Int.add_le_add_right order _)

omit [DecidableEq Id] in
theorem WindowsEnd.opener_unique (ends : WindowsEnd keyOf limits limiter) {id other : Id}
    {window otherWindow : Nat} (first : limiter.phase id = .counted 1 window)
    (second : limiter.phase other = .counted 1 otherWindow)
    (sameKey : keyOf id = keyOf other) : id = other := by
  have sameWindow : otherWindow = window := by
    rw [(ends.opener id window first).1, (ends.opener other otherWindow second).1, sameKey]
  refine ends.placed.distinct id other (window, 1) (congrArg Phase.hit first) ?_ sameKey
  rw [← sameWindow]
  exact congrArg Phase.hit second

omit [DecidableEq Id] in
/-- What a call that is not an opener, or is aborted, finds when it ends. -/
theorem expiry_found (ends : WindowsEnd keyOf limits limiter) (order : TurnInOrder limiter turn)
    {counter : Counter Instant} (stored : limiter.counters (keyOf turn.call) = some counter)
    (armed : counter.expiresAt ≠ none) :
    ∃ counter expiry, limiter.counters (keyOf turn.call) = some counter ∧
      counter.expiresAt = some expiry ∧
        expiry ≤ turn.now + timedeltaSeconds (limits (keyOf turn.call)).windowSeconds := by
  obtain ⟨expiry, expires⟩ := Option.ne_none_iff_exists'.mp armed
  exact ⟨counter, expiry, stored, expires, ends.armed_later order stored expires⟩

omit [DecidableEq Id] in
theorem endsReleased_iff {count window : Nat}
    (inFlight : limiter.phase turn.call = .counted count window) :
    EndsReleased keyOf limiter turn ↔ (window = limiter.opened (keyOf turn.call) →
      (count = 1 ∧ turn.aborted = false) ∨
        ∃ counter ∈ limiter.counters (keyOf turn.call), counter.expiresAt ≠ none) := by
  unfold EndsReleased
  rw [inFlight]

theorem windowsEnd_ended (ends : WindowsEnd keyOf limits limiter) (order : TurnInOrder limiter turn)
    {count window : Nat} {result : Outcome}
    (found : window = limiter.opened (keyOf turn.call) →
      ∃ counter ∈ limiter.counters (keyOf turn.call), counter.expiresAt ≠ none)
    (effect : TurnEffect keyOf limits limiter turn { limiter with
      phase := Function.update limiter.phase turn.call (.ended count window turn.now result)
      clock := turn.now }) :
    WindowsEnd keyOf limits { limiter with
      phase := Function.update limiter.phase turn.call (.ended count window turn.now result)
      clock := turn.now } where
  placed := placed_step ends.placed effect
  positive := ends.positive
  opener := by
    intro id opened phase
    rcases update_eq_iff.mp phase with ⟨_, now⟩ | ⟨_, before⟩
    · cases now
    · exact ends.opener id opened before
  armed := by
    intro key counter stored expiry expires
    exact ends.armed_later order stored expires
  ended := by
    intro id place finished ended phase
    rcases update_eq_iff.mp phase with ⟨rfl, now⟩ | ⟨_, before⟩
    · injection now with _ sameWindow finishedNow _
      obtain ⟨counter, stored, armed⟩ := found sameWindow
      rw [← finishedNow]
      have soon := expiry_found ends order stored armed
      exact soon
    · exact ends.ended id place finished ended before

/-- The call that opened the window sets its expiry; no other call of it ended yet. -/
theorem windowsEnd_opener (ends : WindowsEnd keyOf limits limiter) {window : Nat}
    (order : TurnInOrder limiter turn)
    (inFlight : limiter.phase turn.call = .counted 1 window)
    (effect : TurnEffect keyOf limits limiter turn (finish limiter turn.call
      (keyOf turn.call) (limits (keyOf turn.call)) 1 window turn.now)) :
    WindowsEnd keyOf limits (finish limiter turn.call (keyOf turn.call)
      (limits (keyOf turn.call)) 1 window turn.now) := by
  obtain ⟨rfl, counter, stored, unarmed⟩ := ends.opener _ window inFlight
  have counters : (finish limiter turn.call (keyOf turn.call) (limits (keyOf turn.call)) 1
      (limiter.opened (keyOf turn.call)) turn.now).counters = Function.update limiter.counters
        (keyOf turn.call) (some { counter with expiresAt := some (turn.now +
          timedeltaSeconds (limits (keyOf turn.call)).windowSeconds) }) := by
    unfold finish
    dsimp only
    rw [if_pos rfl, Counters.expire_unarmed stored unarmed]
  refine ⟨placed_step ends.placed effect, ?_, ?_, ?_, ?_⟩
  · intro key raised found
    rw [counters] at found
    rcases update_eq_iff.mp found with ⟨_, new⟩ | ⟨_, old⟩
    · cases new
      exact ends.positive _ counter stored
    · exact ends.positive key raised old
  · intro id window phase
    rcases update_eq_iff.mp phase with ⟨_, now⟩ | ⟨other, before⟩
    · cases now
    · obtain ⟨same, found, storedThere, unarmedThere⟩ := ends.opener id window before
      refine ⟨same, found, ?_, unarmedThere⟩
      rw [counters, Function.update_of_ne]
      · exact storedThere
      · exact fun sameKey => other (ends.opener_unique before inFlight sameKey)
  · intro key found storedThere expiry expires
    rw [counters] at storedThere
    rcases update_eq_iff.mp storedThere with ⟨rfl, new⟩ | ⟨_, old⟩
    · cases new
      cases expires
      exact Int.le_refl _
    · exact ends.armed_later order old expires
  · intro id count finished ended phase
    rw [counters]
    rcases update_eq_iff.mp phase with ⟨rfl, now⟩ | ⟨_, before⟩
    · injection now with _ _ finishedNow _
      rw [← finishedNow]
      exact ⟨_, _, Function.update_self _ _ _, rfl, Int.le_refl _⟩
    · obtain ⟨found, expiry, storedThere, armed, soon⟩ :=
        ends.ended id count finished ended before
      by_cases sameKey : keyOf id = keyOf turn.call
      · rw [sameKey, stored] at storedThere
        cases storedThere
        rw [unarmed] at armed
        cases armed
      · rw [Function.update_of_ne sameKey]
        exact ⟨found, expiry, storedThere, armed, soon⟩

theorem windowsEnd_counted (ends : WindowsEnd keyOf limits limiter)
    (order : TurnInOrder limiter turn) {counter : Counter Instant}
    (ready : limiter.phase turn.call = .ready)
    (seen : limiter.counters.get turn.now (keyOf turn.call) = some counter) :
    WindowsEnd keyOf limits
      { counters := Function.update limiter.counters (keyOf turn.call)
          (some { counter with value := counter.value + 1 })
        phase := Function.update limiter.phase turn.call
          (.counted (counter.value + 1) (limiter.opened (keyOf turn.call)))
        opened := limiter.opened
        clock := turn.now } where
  placed := placed_step ends.placed (@TurnEffect.counted Id _ keyOf limits _ _ _ ready seen)
  positive := by
    intro key raised found
    rcases update_eq_iff.mp found with ⟨_, new⟩ | ⟨_, old⟩
    · cases new
      exact Nat.succ_pos _
    · exact ends.positive key raised old
  opener := by
    have stored := (Counters.get_eq_some_iff.mp seen).1
    intro id window phase
    rcases update_eq_iff.mp phase with ⟨_, now⟩ | ⟨_, before⟩
    · injection now with first _
      have positive := ends.positive _ counter stored
      omega
    · obtain ⟨same, found, storedThere, unarmed⟩ := ends.opener id window before
      refine ⟨same, ?_⟩
      by_cases sameKey : keyOf id = keyOf turn.call
      · rw [sameKey, stored] at storedThere
        cases storedThere
        exact ⟨_, update_eq_iff.mpr (Or.inl ⟨sameKey, rfl⟩), unarmed⟩
      · exact ⟨found, update_eq_iff.mpr (Or.inr ⟨sameKey, storedThere⟩), unarmed⟩
  armed := by
    have stored := (Counters.get_eq_some_iff.mp seen).1
    intro key found storedThere expiry expires
    rcases update_eq_iff.mp storedThere with ⟨rfl, new⟩ | ⟨_, old⟩
    · cases new
      exact ends.armed_later order stored expires
    · exact ends.armed_later order old expires
  ended := by
    have stored := (Counters.get_eq_some_iff.mp seen).1
    intro id count finished ended phase
    rcases update_eq_iff.mp phase with ⟨_, now⟩ | ⟨_, before⟩
    · cases now
    · obtain ⟨found, expiry, storedThere, armed, soon⟩ :=
        ends.ended id count finished ended before
      by_cases sameKey : keyOf id = keyOf turn.call
      · rw [sameKey, stored] at storedThere
        cases storedThere
        exact ⟨_, expiry, update_eq_iff.mpr (Or.inl ⟨sameKey, rfl⟩), armed, soon⟩
      · exact ⟨found, expiry, update_eq_iff.mpr (Or.inr ⟨sameKey, storedThere⟩), armed, soon⟩

theorem windowsEnd_opened (ends : WindowsEnd keyOf limits limiter)
    (order : TurnInOrder limiter turn) (ready : limiter.phase turn.call = .ready)
    (gone : limiter.counters.get turn.now (keyOf turn.call) = none) :
    WindowsEnd keyOf limits
      { counters := Function.update limiter.counters (keyOf turn.call) (some { value := 1 })
        phase := Function.update limiter.phase turn.call
          (.counted 1 (limiter.opened (keyOf turn.call) + 1))
        opened := Function.update limiter.opened (keyOf turn.call)
          (limiter.opened (keyOf turn.call) + 1)
        clock := turn.now } where
  placed := placed_step ends.placed (@TurnEffect.opened Id _ keyOf limits _ _ ready gone)
  positive := by
    intro key raised found
    rcases update_eq_iff.mp found with ⟨_, new⟩ | ⟨_, old⟩
    · cases new
      exact Nat.one_pos
    · exact ends.positive key raised old
  opener := by
    intro id window phase
    rcases update_eq_iff.mp phase with ⟨rfl, now⟩ | ⟨_, before⟩
    · injection now with _ sameWindow
      refine ⟨?_, _, Function.update_self _ _ _, rfl⟩
      dsimp only
      rw [Function.update_self]
      exact sameWindow.symm
    · obtain ⟨same, found, storedThere, unarmed⟩ := ends.opener id window before
      have sameKey : keyOf id ≠ keyOf turn.call := by
        intro sameKey
        rw [sameKey] at storedThere
        rw [Counters.get_unarmed storedThere unarmed] at gone
        cases gone
      exact ⟨same.trans (Function.update_of_ne sameKey _ _).symm, found,
        update_eq_iff.mpr (Or.inr ⟨sameKey, storedThere⟩), unarmed⟩
  armed := by
    intro key found storedThere expiry expires
    rcases update_eq_iff.mp storedThere with ⟨_, new⟩ | ⟨_, old⟩
    · cases new
      cases expires
    · exact ends.armed_later order old expires
  ended := by
    intro id count finished ended phase
    rcases update_eq_iff.mp phase with ⟨_, now⟩ | ⟨_, before⟩
    · cases now
    · dsimp only at before
      by_cases sameKey : keyOf id = keyOf turn.call
      · have bound := (ends.placed.past id _ count (congrArg Phase.hit before)).2
        dsimp only [placesOf] at bound
        rw [sameKey, Function.update_self] at bound
        omega
      · rw [Function.update_of_ne sameKey] at before
        obtain ⟨found, expiry, storedThere, armed, soon⟩ :=
          ends.ended id count finished ended before
        exact ⟨found, expiry, update_eq_iff.mpr (Or.inr ⟨sameKey, storedThere⟩), armed, soon⟩

theorem WindowsEnd.step (ends : WindowsEnd keyOf limits limiter) (order : TurnInOrder limiter turn)
    (released : EndsReleased keyOf limiter turn)
    (effect : TurnEffect keyOf limits limiter turn next) : WindowsEnd keyOf limits next := by
  cases effect with
  | counted ready seen => exact windowsEnd_counted ends order ready seen
  | opened ready gone => exact windowsEnd_opened ends order ready gone
  | @finished count window inFlight proceeds =>
      have whole := @TurnEffect.finished Id _ keyOf limits limiter turn _ _ inFlight proceeds
      by_cases first : count = 1
      · subst first
        exact windowsEnd_opener ends order inFlight whole
      · have found := (endsReleased_iff inFlight).mp released
        unfold finish at whole ⊢
        rw [if_neg first] at whole ⊢
        refine windowsEnd_ended ends order ?_ whole
        intro current
        exact (found current).resolve_left fun opener => first opener.1
  | aborted inFlight stops =>
      have found := (endsReleased_iff inFlight).mp released
      refine windowsEnd_ended ends order ?_ (.aborted inFlight stops)
      intro current
      refine (found current).resolve_left fun opener => ?_
      rw [stops] at opener
      cases opener.2
  | idle past =>
      have placed := placed_step ends.placed
        (@TurnEffect.idle Id _ keyOf limits limiter turn _ _ _ _ past)
      refine ⟨placed, ends.positive, ends.opener, ?_, ends.ended⟩
      intro key counter stored expiry expires
      exact ends.armed_later order stored expires

theorem endsReleased_of_released (placed : (placesOf limiter).WellPlaced keyOf)
    (effect : TurnEffect keyOf limits limiter turn next)
    (released : Released keyOf limits next) : EndsReleased keyOf limiter turn := by
  have expires : ∀ {count window : Nat}, limiter.phase turn.call = .counted count window →
      window = limiter.opened (keyOf turn.call) →
        (∀ later, turn.now + timedeltaSeconds (limits (keyOf turn.call)).windowSeconds ≤ later →
          limiter.counters.get later (keyOf turn.call) = none) →
            ∃ counter ∈ limiter.counters (keyOf turn.call), counter.expiresAt ≠ none := by
    rintro count window inFlight rfl gone
    obtain ⟨counter, stored⟩ := stored_of_hit placed (congrArg Phase.hit inFlight)
    refine ⟨counter, stored, fun unarmed => ?_⟩
    have forever := Counters.get_unarmed stored unarmed
    cases (gone _ (Int.le_refl _)).symm.trans (forever _)
  cases effect with
  | counted ready seen =>
      unfold EndsReleased
      rw [ready]
      trivial
  | opened ready gone =>
      unfold EndsReleased
      rw [ready]
      trivial
  | @finished count window inFlight proceeds =>
      refine (endsReleased_iff inFlight).mpr ?_
      rintro rfl
      by_cases first : count = 1
      · exact Or.inl ⟨first, proceeds⟩
      · refine Or.inr (expires inFlight rfl ?_)
        unfold finish at released
        rw [if_neg first] at released
        exact released turn.call count turn.now _ (Function.update_self _ _ _)
  | aborted inFlight stops =>
      refine (endsReleased_iff inFlight).mpr ?_
      rintro rfl
      refine Or.inr (expires inFlight rfl ?_)
      exact released turn.call _ turn.now _ (Function.update_self _ _ _)
  | idle past =>
      unfold EndsReleased
      rw [past]
      trivial

end Steps

/-- In every interleaving and with any aborts, the limiter bounds the calls of every window
and no key bears on another.  Each window ends in time exactly if no call that opened it is
aborted, and none that it counted ends before the opener has set its expiry. -/
theorem attempts_released_iff [DecidableEq Id] (keyOf : Id → String)
    (limits : String → Limit) (start : Instant) (turns : List (Turn Id))
    (order : EachMeets (limiterStep keyOf limits) TurnInOrder (Limiter.idle start) turns) :
    Always (limiterStep keyOf limits) (Bounded keyOf limits) (Limiter.idle start) turns ∧
      (∀ key, SameUnder keyOf key
        (runFrom (limiterStep keyOf limits) (Limiter.idle start) turns)
        (runFrom (limiterStep keyOf limits) (Limiter.idle start)
          (turns.filter fun turn => keyOf turn.call = key))) ∧
      (Always (limiterStep keyOf limits) (Released keyOf limits) (Limiter.idle start) turns ↔
        EachMeets (limiterStep keyOf limits) (EndsReleased keyOf) (Limiter.idle start) turns) := by
  refine ⟨?_, ?_, ?_⟩
  · refine (invariant_always (Tallied keyOf limits) ?_ (tallied_idle start) turns).imp
      fun _ tallied => tallied.bounded
    intro limiter turn tallied
    exact tallied.step (limiterStep_effect keyOf limits limiter turn)
  · intro key
    refine related_filter (SameUnder keyOf key) _ ?_ ?_ ⟨rfl, rfl, fun _ _ => rfl⟩ turns
    · intro first second turn other same
      exact sameUnder_other turn (by simpa using other) same
    · intro first second turn under same
      exact sameUnder_both turn (by simpa using under) same
  · refine always_iff_of_broken (WindowsEnd keyOf limits) (fun _ ends => ends.released) ?_ ?_
      (windowsEnd_idle start) order
    · intro limiter turn ordered ends released
      exact ends.step ordered released (limiterStep_effect keyOf limits limiter turn)
    · intro limiter turn _ ends released
      exact endsReleased_of_released ends.placed
        (limiterStep_effect keyOf limits limiter turn) released

/-- A login attempt is aborted after its `INCR`; five more follow, a year later. -/
def abortedOpener : List (Turn Nat) :=
  [⟨0, 0, false⟩, ⟨0, 0, true⟩] ++ [1, 2, 3, 4, 5].flatMap fun id =>
    [⟨id, timedeltaHours (365 * 24), false⟩, ⟨id, timedeltaHours (365 * 24), false⟩]

def oneEmail (_ : Nat) : String := "login:email:teen@example.com"

def loginLimits (_ : String) : Limit := KidsChores.Routers.Auth.loginEmailLimit

/-- The fifth of them is refused: the counter of the aborted attempt is still there. -/
theorem refused_a_year_later :
    EachMeets (limiterStep oneEmail loginLimits) TurnInOrder (Limiter.idle 0) abortedOpener ∧
      (runFrom (limiterStep oneEmail loginLimits) (Limiter.idle 0) abortedOpener).phase 5 =
        .ended 6 1 (timedeltaHours (365 * 24)) .raised ∧
      ¬ Always (limiterStep oneEmail loginLimits) (Released oneEmail loginLimits)
        (Limiter.idle 0) abortedOpener := by
  refine ⟨by decide, by decide, ?_⟩
  intro always
  have gone := always.at_end 0 1 0 .aborted (by decide) (timedeltaHours (365 * 24)) (by decide)
  revert gone
  decide

/-- Six attempts, the first of which sets the expiry at once, and one when it is over. -/
def loginAttempts : List (Turn Nat) :=
  ([0, 1, 2, 3, 4, 5].flatMap fun id => [⟨id, 0, false⟩, ⟨id, 0, false⟩]) ++
    [⟨6, timedeltaHours 1, false⟩, ⟨6, timedeltaHours 1, false⟩]

theorem login_attempts_released :
    Always (limiterStep oneEmail loginLimits) (Bounded oneEmail loginLimits) (Limiter.idle 0)
        loginAttempts ∧
      Always (limiterStep oneEmail loginLimits) (Released oneEmail loginLimits) (Limiter.idle 0)
        loginAttempts :=
  have ends := attempts_released_iff oneEmail loginLimits 0 loginAttempts (by decide)
  ⟨ends.1, ends.2.2.mpr (by decide)⟩

end KidsChores.Properties
