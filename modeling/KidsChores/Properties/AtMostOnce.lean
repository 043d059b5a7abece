import Mathlib.Data.Fintype.Defs
import KidsChores.Routers.Tasks
import KidsChores.Services.IdempotentCalls

/-!
# Handlers run at most once

The `GET` of a call and its `SET NX` enclose the handler without reserving the
key.  Calls under one key run one handler and return one response exactly when
a handler starts only while the key is uncached and no other call has run its
own and not yet stored the response.
-/

set_option autoImplicit false

namespace KidsChores.Properties

open KidsChores.Models
open KidsChores.Library.PyDatetime
open KidsChores.Library.Runs
open KidsChores.Routers
open KidsChores.Routers.Tasks
open KidsChores.Services.Idempotency
open KidsChores.Services.IdempotentCalls
open KidsChores.Session

section Calls

variable {Id State Response Error : Type}

def Keyed (calls : Id → IdempotentCall State Response Error) (memberId : Uuid)
    (idempotencyKey : String) (id : Id) : Prop :=
  (calls id).memberId = memberId ∧ (calls id).idempotencyKey = idempotencyKey

def OneEffect (calls : Id → IdempotentCall State Response Error) (memberId : Uuid)
    (idempotencyKey : String) (config : Config Id State Response) : Prop :=
  ∀ first second, Keyed calls memberId idempotencyKey first →
    Keyed calls memberId idempotencyKey second →
    (config.phase first).TookEffect → (config.phase second).TookEffect →
    first = second

def OneResponse (calls : Id → IdempotentCall State Response Error) (memberId : Uuid)
    (idempotencyKey : String) (config : Config Id State Response) : Prop :=
  ∀ first second, Keyed calls memberId idempotencyKey first →
    Keyed calls memberId idempotencyKey second →
    ∀ one two, (config.phase first).returned? = some one →
      (config.phase second).returned? = some two → one = two

/-- A handler that will return starts while the key is uncached and no other
call under it is on its way from its handler to its `SET NX`. -/
def RunsReserved (calls : Id → IdempotentCall State Response Error)
    (memberId : Uuid) (idempotencyKey : String) {start : Instant}
    (config : Config Id State Response) (turn : Turn Id start) : Prop :=
  Keyed calls memberId idempotencyKey turn.id →
    config.phase turn.id = .missed →
    ((calls turn.id).handler config.state).isOk →
      config.cache.get turn.now memberId idempotencyKey = none ∧
        ∀ other, other ≠ turn.id → Keyed calls memberId idempotencyKey other →
          (config.phase other).storing = false

instance [Fintype Id] [DecidableEq Id] [DecidableEq Response]
    (calls : Id → IdempotentCall State Response Error) (memberId : Uuid)
    (idempotencyKey : String) {start : Instant} (config : Config Id State Response)
    (turn : Turn Id start) :
    Decidable (RunsReserved calls memberId idempotencyKey config turn) :=
  have (id : Id) : Decidable (Keyed calls memberId idempotencyKey id) :=
    inferInstanceAs (Decidable (_ ∧ _))
  inferInstanceAs (Decidable (_ → _ → _ → _))

/-! ## What a step does -/

variable [DecidableEq Id]

inductive Stepped (calls : Id → IdempotentCall State Response Error)
    {start : Instant} (config : Config Id State Response) (turn : Turn Id start) :
    Config Id State Response → Prop where
  | idle : Stepped calls config turn config
  | hit {cached : Response} (ready : config.phase turn.id = .ready)
      (found : config.cache.get turn.now (calls turn.id).memberId
        (calls turn.id).idempotencyKey = some cached) :
      Stepped calls config turn
        (config.enter turn.id (replay (calls turn.id).deserialize cached))
  | miss (ready : config.phase turn.id = .ready) :
      Stepped calls config turn (config.enter turn.id .missed)
  | raise (missed : config.phase turn.id = .missed)
      (fails : ∀ outcome, (calls turn.id).handler config.state ≠ .ok outcome) :
      Stepped calls config turn (config.enter turn.id .raised)
  | run {response : Response} {next : State}
      (missed : config.phase turn.id = .missed)
      (returns : (calls turn.id).handler config.state = .ok (response, next)) :
      Stepped calls config turn
        { config.enter turn.id (.ran response) with state := next }
  | store {response : Response} (ran : config.phase turn.id = .ran response) :
      Stepped calls config turn
        { config.enter turn.id (.executed response) with
          cache := config.cache.setNx turn.now (calls turn.id).memberId
            (calls turn.id).idempotencyKey response }

theorem callStep_stepped (calls : Id → IdempotentCall State Response Error)
    {start : Instant} (config : Config Id State Response) (turn : Turn Id start) :
    Stepped calls config turn (callStep calls config turn) := by
  cases phase : config.phase turn.id with
  | ready =>
      cases found : config.cache.get turn.now (calls turn.id).memberId
          (calls turn.id).idempotencyKey with
      | some cached =>
          simp only [callStep, phase, found]
          exact .hit phase found
      | none =>
          simp only [callStep, phase, found]
          exact .miss phase
  | missed =>
      cases handled : (calls turn.id).handler config.state with
      | error raised =>
          simp only [callStep, phase, handled]
          exact .raise phase (by simp [handled])
      | ok outcome =>
          obtain ⟨response, next⟩ := outcome
          simp only [callStep, phase, handled]
          exact .run phase handled
  | ran response =>
      simp only [callStep, phase]
      exact .store phase
  | executed response =>
      simp only [callStep, phase]
      exact .idle
  | replayed response =>
      simp only [callStep, phase]
      exact .idle
  | raised =>
      simp only [callStep, phase]
      exact .idle

theorem enter_self (config : Config Id State Response) (id : Id)
    (phase : Phase Response) : (config.enter id phase).phase id = phase :=
  Function.update_self ..

theorem enter_other (config : Config Id State Response) {id other : Id}
    (phase : Phase Response) (different : other ≠ id) :
    (config.enter id phase).phase other = config.phase other :=
  Function.update_of_ne different ..

theorem Stepped.others {calls : Id → IdempotentCall State Response Error}
    {start : Instant} {config next : Config Id State Response}
    {turn : Turn Id start} (stepped : Stepped calls config turn next) {other : Id}
    (different : other ≠ turn.id) : next.phase other = config.phase other := by
  cases stepped with
  | idle => rfl
  | hit => exact enter_other config _ different
  | miss => exact enter_other config _ different
  | raise => exact enter_other config _ different
  | run => exact enter_other config _ different
  | store => exact enter_other config _ different

theorem Stepped.tookEffect {calls : Id → IdempotentCall State Response Error}
    {start : Instant} {config next : Config Id State Response}
    {turn : Turn Id start} (stepped : Stepped calls config turn next) {id : Id}
    (took : (config.phase id).TookEffect) : (next.phase id).TookEffect := by
  by_cases same : id = turn.id
  · subst same
    cases stepped with
    | idle => exact took
    | hit ready =>
        rw [ready] at took
        exact took.elim
    | miss ready =>
        rw [ready] at took
        exact took.elim
    | raise missed =>
        rw [missed] at took
        exact took.elim
    | run =>
        show Phase.TookEffect ((config.enter turn.id _).phase turn.id)
        rw [enter_self]
        trivial
    | store =>
        show Phase.TookEffect ((config.enter turn.id _).phase turn.id)
        rw [enter_self]
        trivial
  · rw [stepped.others same]
    exact took

/-! ## What Redis holds for the key -/

def CachedFor (start : Instant) (cache : Cache Response) (memberId : Uuid)
    (idempotencyKey : String) (response : Response) : Prop :=
  ∀ now, start ≤ now → now < start + timedeltaSeconds ttlSeconds →
    cache.get now memberId idempotencyKey = some response

/-- The key is cached from the first completed `SET NX` on, and while only one
handler has run, with what every returned call has returned. -/
structure Sound (start : Instant) (calls : Id → IdempotentCall State Response Error)
    (memberId : Uuid) (idempotencyKey : String) (config : Config Id State Response) :
    Prop where
  missing : config.cache.get start memberId idempotencyKey = none ∨
    ∃ id response, Keyed calls memberId idempotencyKey id ∧
      config.phase id = .executed response
  stored : ∀ id response, Keyed calls memberId idempotencyKey id →
    config.phase id = .executed response →
    ∃ known, CachedFor start config.cache memberId idempotencyKey known
  linked : OneEffect calls memberId idempotencyKey config →
    ∀ id response, Keyed calls memberId idempotencyKey id →
      (config.phase id).returned? = some response →
      CachedFor start config.cache memberId idempotencyKey response

theorem start_within (start : Instant) :
    start < start + timedeltaSeconds ttlSeconds := by
  dsimp only [timedeltaSeconds, ttlSeconds, Instant, Timedelta] at *
  omega

theorem CachedFor.unique {start : Instant} {cache : Cache Response}
    {memberId : Uuid} {idempotencyKey : String} {one two : Response}
    (first : CachedFor start cache memberId idempotencyKey one)
    (second : CachedFor start cache memberId idempotencyKey two) : one = two := by
  have known := first start (Int.le_refl start) (start_within start)
  rw [second start (Int.le_refl start) (start_within start)] at known
  exact (Option.some.inj known).symm

theorem CachedFor.not_missing {start : Instant} {cache : Cache Response}
    {memberId : Uuid} {idempotencyKey : String} {response : Response}
    (cached : CachedFor start cache memberId idempotencyKey response) :
    cache.get start memberId idempotencyKey ≠ none := by
  rw [cached start (Int.le_refl start) (start_within start)]
  exact Option.some_ne_none response

omit [DecidableEq Id] in
theorem Sound.get_some {start : Instant}
    {calls : Id → IdempotentCall State Response Error} {memberId : Uuid}
    {idempotencyKey : String} {config : Config Id State Response}
    (sound : Sound start calls memberId idempotencyKey config)
    (turn : Turn Id start) {response : Response}
    (found : config.cache.get turn.now memberId idempotencyKey = some response) :
    CachedFor start config.cache memberId idempotencyKey response := by
  rcases sound.missing with missing | ⟨id, executed, keyed, phase⟩
  · have still := Cache.get_none_later missing turn.since
    rw [still] at found
    cases found
  · obtain ⟨known, cached⟩ := sound.stored id executed keyed phase
    have same := cached turn.now turn.since turn.before
    rw [found] at same
    cases same
    exact cached

theorem replay_returned {deserialize : Response → Except Error Response}
    (faithful : ∀ stored response,
      deserialize stored = .ok response → response = stored)
    {cached response : Response}
    (returned : (replay deserialize cached).returned? = some response) :
    response = cached := by
  unfold replay at returned
  split at returned
  · cases returned
  · rename_i read
    cases returned
    exact faithful cached response read

theorem Stepped.oneEffect {calls : Id → IdempotentCall State Response Error}
    {start : Instant} {memberId : Uuid} {idempotencyKey : String}
    {config next : Config Id State Response} {turn : Turn Id start}
    (stepped : Stepped calls config turn next)
    (one : OneEffect calls memberId idempotencyKey next) :
    OneEffect calls memberId idempotencyKey config :=
  fun first second keyed keyed' took took' =>
    one first second keyed keyed' (stepped.tookEffect took) (stepped.tookEffect took')

/-- A step that stores nothing keeps the invariant, if what it returns is
cached. -/
theorem Sound.kept {start : Instant}
    {calls : Id → IdempotentCall State Response Error} {memberId : Uuid}
    {idempotencyKey : String} {config next : Config Id State Response}
    {turn : Turn Id start} (stepped : Stepped calls config turn next)
    (sound : Sound start calls memberId idempotencyKey config)
    (sameCache : next.cache = config.cache)
    (before : ∀ response, config.phase turn.id ≠ .executed response)
    (after : ∀ response, next.phase turn.id ≠ .executed response)
    (returned : Keyed calls memberId idempotencyKey turn.id → ∀ response,
      (next.phase turn.id).returned? = some response →
      CachedFor start config.cache memberId idempotencyKey response) :
    Sound start calls memberId idempotencyKey next := by
  constructor
  · rw [sameCache]
    apply sound.missing.imp_right
    rintro ⟨id, response, keyed, phase⟩
    have different : id ≠ turn.id := by
      rintro rfl
      exact before response phase
    exact ⟨id, response, keyed, (stepped.others different).trans phase⟩
  · intro id response keyed phase
    rw [sameCache]
    have different : id ≠ turn.id := by
      rintro rfl
      exact after response phase
    rw [stepped.others different] at phase
    exact sound.stored id response keyed phase
  · intro one id response keyed phase
    rw [sameCache]
    by_cases same : id = turn.id
    · subst same
      exact returned keyed response phase
    · rw [stepped.others same] at phase
      exact sound.linked (stepped.oneEffect one) id response keyed phase

omit [DecidableEq Id] in
/-- The `SET NX` of the one call whose handler ran stores its response for the
day. -/
theorem Sound.set {start : Instant}
    {calls : Id → IdempotentCall State Response Error} {memberId : Uuid}
    {idempotencyKey : String} {config : Config Id State Response}
    {turn : Turn Id start} {response : Response}
    (sound : Sound start calls memberId idempotencyKey config)
    (ran : config.phase turn.id = .ran response)
    (keyed : Keyed calls memberId idempotencyKey turn.id) :
    ∃ known, CachedFor start (config.cache.setNx turn.now memberId idempotencyKey
        response) memberId idempotencyKey known ∧
      (OneEffect calls memberId idempotencyKey config →
        known = response ∧ ∀ id other, Keyed calls memberId idempotencyKey id →
          (config.phase id).returned? ≠ some other) := by
  rcases sound.missing with missing | ⟨other, stored, otherKeyed, executed⟩
  · refine ⟨response, ?_, fun one => ⟨rfl, ?_⟩⟩
    · intro now _ live
      apply Cache.get_setNx_same (Cache.get_none_later missing turn.since)
      have since := turn.since
      dsimp only [Instant, Timedelta] at *
      omega
    · intro id other idKeyed returned
      exact (sound.linked one id other idKeyed returned).not_missing missing
  · obtain ⟨known, cached⟩ := sound.stored other stored otherKeyed executed
    refine ⟨known, ?_, ?_⟩
    · rw [Cache.setNx_cached (cached turn.now turn.since turn.before)]
      exact cached
    · intro one
      have same : other = turn.id := one other turn.id otherKeyed keyed
        (by rw [executed]; trivial) (by rw [ran]; trivial)
      rw [same, ran] at executed
      cases executed

theorem Sound.stored_own {start : Instant}
    {calls : Id → IdempotentCall State Response Error} {memberId : Uuid}
    {idempotencyKey : String} {config : Config Id State Response}
    {turn : Turn Id start} {response : Response}
    (sound : Sound start calls memberId idempotencyKey config)
    (ran : config.phase turn.id = .ran response)
    (keyed : Keyed calls memberId idempotencyKey turn.id) :
    Sound start calls memberId idempotencyKey
      { config.enter turn.id (.executed response) with
        cache := config.cache.setNx turn.now (calls turn.id).memberId
          (calls turn.id).idempotencyKey response } := by
  have stepped : Stepped calls config turn _ := .store ran
  obtain ⟨known, cached, alone⟩ := sound.set ran keyed
  obtain ⟨rfl, rfl⟩ := keyed
  refine ⟨Or.inr ⟨turn.id, response, ⟨rfl, rfl⟩, enter_self config _ _⟩,
    fun _ _ _ _ => ⟨known, cached⟩, ?_⟩
  intro one id other idKeyed returned
  obtain ⟨rfl, noOther⟩ := alone (stepped.oneEffect one)
  by_cases same : id = turn.id
  · subst same
    rw [enter_self] at returned
    cases returned
    exact cached
  · rw [stepped.others same] at returned
    exact (noOther id other idKeyed returned).elim

theorem Sound.stored_other {start : Instant}
    {calls : Id → IdempotentCall State Response Error} {memberId : Uuid}
    {idempotencyKey : String} {config : Config Id State Response}
    {turn : Turn Id start} {response : Response}
    (sound : Sound start calls memberId idempotencyKey config)
    (ran : config.phase turn.id = .ran response)
    (unkeyed : ¬ Keyed calls memberId idempotencyKey turn.id) :
    Sound start calls memberId idempotencyKey
      { config.enter turn.id (.executed response) with
        cache := config.cache.setNx turn.now (calls turn.id).memberId
          (calls turn.id).idempotencyKey response } := by
  have stepped : Stepped calls config turn _ := .store ran
  have reads : ∀ now, (config.cache.setNx turn.now (calls turn.id).memberId
      (calls turn.id).idempotencyKey response).get now memberId idempotencyKey =
        config.cache.get now memberId idempotencyKey :=
    fun now => Cache.get_setNx_other unkeyed
  have apart : ∀ id, Keyed calls memberId idempotencyKey id → id ≠ turn.id := by
    rintro id keyed rfl
    exact unkeyed keyed
  constructor
  · rcases sound.missing with missing | ⟨id, executed, keyed, phase⟩
    · exact Or.inl ((reads start).trans missing)
    · exact Or.inr ⟨id, executed, keyed,
        (stepped.others (apart id keyed)).trans phase⟩
  · intro id executed keyed phase
    rw [stepped.others (apart id keyed)] at phase
    obtain ⟨known, cached⟩ := sound.stored id executed keyed phase
    exact ⟨known, fun now since before => (reads now).trans (cached now since before)⟩
  · intro one id returned keyed phase
    rw [stepped.others (apart id keyed)] at phase
    have cached := sound.linked (stepped.oneEffect one) id returned keyed phase
    exact fun now since before => (reads now).trans (cached now since before)

theorem Sound.step {start : Instant}
    {calls : Id → IdempotentCall State Response Error} {memberId : Uuid}
    {idempotencyKey : String} {config : Config Id State Response}
    (sound : Sound start calls memberId idempotencyKey config)
    (turn : Turn Id start) :
    Sound start calls memberId idempotencyKey (callStep calls config turn) := by
  have stepped := callStep_stepped calls config turn
  generalize callStep calls config turn = next at stepped ⊢
  cases stepped with
  | idle => exact sound
  | @hit cached ready found =>
      refine sound.kept (.hit ready found) rfl (by simp [ready]) ?_ ?_
      · intro response
        rw [enter_self]
        unfold replay
        split <;> simp
      · rintro ⟨rfl, rfl⟩ response returned
        rw [enter_self] at returned
        cases replay_returned (calls turn.id).faithful returned
        exact sound.get_some turn found
  | miss ready =>
      refine sound.kept (.miss ready) rfl (by simp [ready]) ?_ ?_
      · intro response
        simp [enter_self]
      · intro _ response returned
        rw [enter_self] at returned
        cases returned
  | raise missed fails =>
      refine sound.kept (.raise missed fails) rfl (by simp [missed]) ?_ ?_
      · intro response
        simp [enter_self]
      · intro _ response returned
        rw [enter_self] at returned
        cases returned
  | run missed returns =>
      refine sound.kept (.run missed returns) rfl (by simp [missed]) ?_ ?_
      · intro response
        simp [enter_self]
      · intro _ response returned
        simp [enter_self, Phase.returned?] at returned
  | @store response ran =>
      by_cases keyed : Keyed calls memberId idempotencyKey turn.id
      · exact sound.stored_own ran keyed
      · exact sound.stored_other ran keyed

omit [DecidableEq Id] in
theorem sound_opening {start : Instant}
    (calls : Id → IdempotentCall State Response Error) {memberId : Uuid}
    {idempotencyKey : String} (state : State) {cache : Cache Response}
    (fresh : cache.get start memberId idempotencyKey = none) :
    Sound start calls memberId idempotencyKey (opening state cache) := by
  constructor
  · exact Or.inl fresh
  · intro id response _ phase
    cases phase
  · intro _ id response _ returned
    cases returned

/-! ## Exactly when a handler runs once -/

omit [DecidableEq Id] in
/-- Where the key is uncached and no call is between its handler and its `SET NX`,
no handler has run. -/
theorem Sound.no_effect {start : Instant}
    {calls : Id → IdempotentCall State Response Error} {memberId : Uuid}
    {idempotencyKey : String} {config : Config Id State Response}
    (sound : Sound start calls memberId idempotencyKey config)
    {turn : Turn Id start}
    (missing : config.cache.get turn.now memberId idempotencyKey = none) {id : Id}
    (keyed : Keyed calls memberId idempotencyKey id)
    (notStoring : (config.phase id).storing = false) :
    ¬ (config.phase id).TookEffect := by
  intro took
  cases phase : config.phase id with
  | ran response =>
      rw [phase] at notStoring
      cases notStoring
  | executed response =>
      obtain ⟨known, cached⟩ := sound.stored id response keyed phase
      rw [cached turn.now turn.since turn.before] at missing
      cases missing
  | ready | missed | replayed response | raised =>
      rw [phase] at took
      exact took

theorem Stepped.tookEffect_back {calls : Id → IdempotentCall State Response Error}
    {start : Instant} {config next : Config Id State Response}
    {turn : Turn Id start} (stepped : Stepped calls config turn next) {id : Id}
    (took : (next.phase id).TookEffect) :
    (config.phase id).TookEffect ∨
      (id = turn.id ∧ config.phase turn.id = .missed ∧
        ∃ outcome, (calls turn.id).handler config.state = .ok outcome) := by
  by_cases same : id = turn.id
  · subst same
    cases stepped with
    | idle => exact Or.inl took
    | hit =>
        rw [enter_self, replay] at took
        split at took <;> exact took.elim
    | miss =>
        rw [enter_self] at took
        exact took.elim
    | raise =>
        rw [enter_self] at took
        exact took.elim
    | run missed returns => exact Or.inr ⟨rfl, missed, _, returns⟩
    | store ran =>
        left
        rw [ran]
        trivial
  · rw [stepped.others same] at took
    exact Or.inl took

omit [DecidableEq Id] in
theorem isOk_iff {Value : Type} {result : Except Error Value} :
    result.isOk ↔ ∃ outcome, result = .ok outcome := by
  cases result with
  | error raised => simp [Except.isOk, Except.toBool]
  | ok outcome => simp [Except.isOk, Except.toBool]

/-- A step keeps the one effect exactly when it is no unreserved run. -/
theorem oneEffect_step {start : Instant}
    {calls : Id → IdempotentCall State Response Error} {memberId : Uuid}
    {idempotencyKey : String} {config : Config Id State Response}
    (sound : Sound start calls memberId idempotencyKey config)
    (one : OneEffect calls memberId idempotencyKey config) (turn : Turn Id start) :
    OneEffect calls memberId idempotencyKey (callStep calls config turn) ↔
      RunsReserved calls memberId idempotencyKey config turn := by
  have stepped := callStep_stepped calls config turn
  constructor
  · intro after keyed missed succeeds
    obtain ⟨outcome, returns⟩ := isOk_iff.mp succeeds
    have ran : ((callStep calls config turn).phase turn.id).TookEffect := by
      simp only [callStep, missed, returns]
      rw [enter_self]
      trivial
    have alone : ∀ other, Keyed calls memberId idempotencyKey other →
        (config.phase other).TookEffect → other = turn.id :=
      fun other otherKeyed took =>
        after other turn.id otherKeyed keyed (stepped.tookEffect took) ran
    constructor
    · rcases sound.missing with missing | ⟨id, response, idKeyed, executed⟩
      · exact Cache.get_none_later missing turn.since
      · have same := alone id idKeyed (by rw [executed]; trivial)
        rw [same, missed] at executed
        cases executed
    · intro other different otherKeyed
      cases phase : config.phase other with
      | ran response =>
          exact (different (alone other otherKeyed (by rw [phase]; trivial))).elim
      | ready | missed | executed response | replayed response | raised => rfl
  · intro reserved first second keyed keyed' took took'
    have before : ∀ id, Keyed calls memberId idempotencyKey id →
        ((callStep calls config turn).phase id).TookEffect →
        id = turn.id ∨ (config.phase id).TookEffect :=
      fun id _ later => (stepped.tookEffect_back later).symm.imp_left And.left
    by_cases runs : Keyed calls memberId idempotencyKey turn.id ∧
        config.phase turn.id = .missed ∧
        ∃ outcome, (calls turn.id).handler config.state = .ok outcome
    · obtain ⟨ownKeyed, missed, outcome, returns⟩ := runs
      obtain ⟨missing, noneStoring⟩ :=
        reserved ownKeyed missed (isOk_iff.mpr ⟨outcome, returns⟩)
      have only : ∀ id, Keyed calls memberId idempotencyKey id →
          ((callStep calls config turn).phase id).TookEffect → id = turn.id := by
        intro id idKeyed later
        rcases before id idKeyed later with same | earlier
        · exact same
        · by_contra different
          exact sound.no_effect missing idKeyed (noneStoring id different idKeyed)
            earlier
      rw [only first keyed took, only second keyed' took']
    · have earlier : ∀ id, Keyed calls memberId idempotencyKey id →
          ((callStep calls config turn).phase id).TookEffect →
          (config.phase id).TookEffect := by
        intro id idKeyed later
        rcases stepped.tookEffect_back later with took | ⟨rfl, missed, returns⟩
        · exact took
        · exact (runs ⟨idKeyed, missed, returns⟩).elim
      exact one first second keyed keyed' (earlier first keyed took)
        (earlier second keyed' took')

omit [DecidableEq Id] in
theorem Sound.oneResponse {start : Instant}
    {calls : Id → IdempotentCall State Response Error} {memberId : Uuid}
    {idempotencyKey : String} {config : Config Id State Response}
    (sound : Sound start calls memberId idempotencyKey config)
    (one : OneEffect calls memberId idempotencyKey config) :
    OneResponse calls memberId idempotencyKey config := by
  intro first second keyed keyed' one_ two returned returned'
  exact (sound.linked one first one_ keyed returned).unique
    (sound.linked one second two keyed' returned')

/-- Along any schedule of calls within a day, at most one handler under the key
runs and all calls return one response, exactly when each handler that returns
was started while the key was uncached and no other call had run its own and not
stored the response yet. -/
theorem atMostOnce_iff_reserved (calls : Id → IdempotentCall State Response Error)
    (memberId : Uuid) (idempotencyKey : String) (start : Instant) (state : State)
    (cache : Cache Response)
    (fresh : cache.get start memberId idempotencyKey = none)
    (schedule : List (Turn Id start)) :
    Always (callStep calls)
        (fun config => OneEffect calls memberId idempotencyKey config ∧
          OneResponse calls memberId idempotencyKey config)
        (opening state cache) schedule ↔
      EachMeets (callStep calls) (RunsReserved calls memberId idempotencyKey)
        (opening state cache) schedule := by
  have opened : Sound start calls memberId idempotencyKey (opening state cache) :=
    sound_opening calls state fresh
  refine always_iff_eachMeets (Sound start calls memberId idempotencyKey)
    (fun config turn sound => sound.step turn) ?_ opened ?_ schedule
  · intro config turn sound holds
    constructor
    · intro after
      exact (oneEffect_step sound holds.1 turn).mp after.1
    · intro reserved
      have one := (oneEffect_step sound holds.1 turn).mpr reserved
      exact ⟨one, (sound.step turn).oneResponse one⟩
  · have one : OneEffect calls memberId idempotencyKey
        (opening state cache : Config Id State Response) :=
      fun first second _ _ took => took.elim
    exact ⟨one, opened.oneResponse one⟩

end Calls

/-! ## A double tap -/

theorem asTask_faithful (stored response : Response)
    (read : asTask stored = .ok response) : response = stored := by
  cases stored with
  | task _ =>
      cases read
      rfl
  | bulk _ => cases read

def reviewedDefinition : TaskDefinition :=
  { sampleDefinition with requiresReview := true }

/-- A request to complete the sample task, past its loads: the handler holds the
pending row the request has read. -/
def completeCall (now : Instant) : IdempotentCall OpenSession Response RequestError where
  memberId := sampleTeen.id
  idempotencyKey := "tap"
  handler := fun session =>
    (completeHandler ⟨now, now⟩ none sampleHousehold reviewedDefinition sampleTeen
      sampleTask session).map fun result => (.task (.ofTask result.1), result.2)
  deserialize := asTask
  faithful := asTask_faithful

/-- The tap and its retry a second later. -/
def twoTaps (retry : Bool) : IdempotentCall OpenSession Response RequestError :=
  completeCall (if retry then timedeltaSeconds 1 else 0)

theorem early_turn (seconds : Fin 86400) : (0 : Instant) ≤ timedeltaSeconds seconds ∧
    timedeltaSeconds seconds < 0 + timedeltaSeconds ttlSeconds := by
  have bound := seconds.isLt
  dsimp only [timedeltaSeconds, ttlSeconds, Instant, Timedelta] at *
  omega

def tapTurn (retry : Bool) (seconds : Fin 86400) : Turn Bool 0 :=
  ⟨retry, timedeltaSeconds seconds, (early_turn seconds).1, (early_turn seconds).2⟩

def tapsOpened : Config Bool OpenSession Response :=
  opening ⟨sampleDatabase reviewedDefinition sampleTask, true⟩ []

/-- A retry after the first request has returned replays its response. -/
theorem atMostOnce_late_retry :
    Always (callStep twoTaps)
      (fun config => OneEffect twoTaps sampleTeen.id "tap" config ∧
        OneResponse twoTaps sampleTeen.id "tap" config)
      tapsOpened
      [tapTurn false 0, tapTurn false 0, tapTurn false 0, tapTurn true 1,
        tapTurn true 1, tapTurn true 1] :=
  (atMostOnce_iff_reserved twoTaps sampleTeen.id "tap" 0 _ _ rfl _).mpr
    (by decide +kernel)

def pendingReview (now : Instant) : Response :=
  .task (.ofTask { sampleTask with
    status := .reviewPending
    completedAt := some now })

/-- A retry that overlaps the first request runs the handler again, and the two
return different completion times. -/
theorem overlapping_retry_runs_twice :
    let schedule := [tapTurn false 0, tapTurn true 1, tapTurn false 1, tapTurn true 1,
      tapTurn false 1, tapTurn true 1]
    let final := runFrom (callStep twoTaps) tapsOpened schedule
    ((final.phase false).TookEffect ∧ (final.phase true).TookEffect) ∧
      (∃ first second, (final.phase false).returned? = some first ∧
        (final.phase true).returned? = some second ∧ first ≠ second) ∧
      ¬ OneEffect twoTaps sampleTeen.id "tap" final ∧
      ¬ OneResponse twoTaps sampleTeen.id "tap" final := by
  intro schedule final
  have first : final.phase false = .executed (pendingReview 0) := by decide +kernel
  have second : final.phase true = .executed (pendingReview (timedeltaSeconds 1)) := by
    decide +kernel
  have different : pendingReview 0 ≠ pendingReview (timedeltaSeconds 1) := by decide
  refine ⟨?_, ⟨_, _, ?_, ?_, different⟩, ?_, ?_⟩
  · rw [first, second]
    exact ⟨trivial, trivial⟩
  · rw [first, Phase.returned?]
  · rw [second, Phase.returned?]
  · intro one
    have same := one false true ⟨rfl, rfl⟩ ⟨rfl, rfl⟩ (by rw [first]; trivial)
      (by rw [second]; trivial)
    cases same
  · intro one
    exact different (one false true ⟨rfl, rfl⟩ ⟨rfl, rfl⟩ _ _ (by rw [first]; rfl)
      (by rw [second]; rfl))

end KidsChores.Properties
