import KidsChores.Properties.AtMostOnce
import KidsChores.Routers.IdempotentRequests

/-!
# Cached responses and committed changes

The response is cached before the change it reports is committed.  From the
`SET NX` to the commit a replay can report what is not committed yet, and for a
day what never will be when the request fails in between.
-/

set_option autoImplicit false

namespace KidsChores.Properties

open KidsChores.Models
open KidsChores.Library.PyDatetime
open KidsChores.Library.Runs
open KidsChores.Routers
open KidsChores.Routers.IdempotentRequests
open KidsChores.Routers.Tasks
open KidsChores.Services.Idempotency
open KidsChores.Session

section Requests

variable {Id State Response Error : Type}

/-- What every response still cached shares with the request that stored it. -/
def EveryCached (good : Phase State Response → Response → Prop)
    (config : Config Id State Response) : Prop :=
  ∀ entry ∈ config.cache, config.now < entry.expiresAt →
    good (config.phase entry.response.1) entry.response.2

def CachedIsCommitted : Config Id State Response → Prop :=
  EveryCached fun phase response => phase = .committed response

def CachedIsOpen : Config Id State Response → Prop :=
  EveryCached fun phase response =>
    phase = .committed response ∨ ∃ change, phase = .stored response change

/-- No request stands between its `SET NX` and the end of its transaction. -/
def AtRest (config : Config Id State Response) : Prop :=
  ∀ id response change, config.phase id ≠ .stored response change

theorem CachedIsOpen.committed {config : Config Id State Response}
    (isOpen : CachedIsOpen config) (atRest : AtRest config) :
    CachedIsCommitted config := by
  intro entry member live
  rcases isOpen entry member live with committed | ⟨change, stored⟩
  · exact committed
  · exact (atRest _ _ change stored).elim

def StoresNothing (requests : Id → Mutation State Response Error)
    (config : Config Id State Response) (step : Step Id) : Prop :=
  ∀ response change, config.phase step.id = .ran response change →
    step.outcome ≠ .fails →
    config.cache.get (config.now + step.elapsed) (requests step.id).memberId
      (requests step.id).idempotencyKey ≠ none

/-- The step is no failure of a request whose response is cached: neither of its
`SET NX` after it stored the response nor of its commit. -/
def NoFailureAfterStore (requests : Id → Mutation State Response Error)
    (config : Config Id State Response) (step : Step Id) : Prop :=
  (∀ response change, config.phase step.id = .ran response change →
    step.outcome = .failsAfter →
    config.cache.get (config.now + step.elapsed) (requests step.id).memberId
      (requests step.id).idempotencyKey ≠ none) ∧
  (∀ response change, config.phase step.id = .stored response change →
    step.outcome = .fails →
    ∀ entry ∈ config.cache, config.now + step.elapsed < entry.expiresAt →
      entry.response.1 ≠ step.id)

/-! ## What a step does to the cached responses -/

theorem EveryCached.tick {good : Phase State Response → Response → Prop}
    {config : Config Id State Response} (every : EveryCached good config)
    (elapsed : Nat) : EveryCached good (config.tick elapsed) := by
  intro entry member live
  apply every entry member
  dsimp only [Config.tick, Instant] at *
  omega

variable [DecidableEq Id]

/-- Only the stepping request's own responses can lose what they had. -/
theorem EveryCached.enter {good : Phase State Response → Response → Prop}
    {config : Config Id State Response} (every : EveryCached good config) {id : Id}
    {phase : Phase State Response}
    (keeps : ∀ response, good (config.phase id) response → good phase response) :
    EveryCached good (config.enter id phase) := by
  intro entry member live
  have before := every entry member live
  simp only [Config.enter]
  by_cases same : entry.response.1 = id
  · rw [same, Function.update_self]
    rw [same] at before
    exact keeps _ before
  · rw [Function.update_of_ne same]
    exact before

omit [DecidableEq Id] in
theorem store_cached {config : Config Id State Response} {id : Id}
    {request : Mutation State Response Error} {response : Response}
    (cached : config.cache.get config.now request.memberId request.idempotencyKey ≠
      none) : config.store id request response = config := by
  obtain ⟨known, found⟩ := Option.ne_none_iff_exists'.mp cached
  unfold Config.store
  rw [Cache.setNx_cached found]

theorem EveryCached.set {good : Phase State Response → Response → Prop}
    {config : Config Id State Response} (every : EveryCached good config) {id : Id}
    {request : Mutation State Response Error} {response : Response}
    {phase : Phase State Response}
    (nothingYet : ∀ known, ¬ good (config.phase id) known) :
    EveryCached good ((config.store id request response).enter id phase) ↔
      (config.cache.get config.now request.memberId request.idempotencyKey = none →
        good phase response) := by
  have entered : EveryCached good (config.enter id phase) :=
    every.enter fun known was => (nothingYet known was).elim
  by_cases missing : config.cache.get config.now request.memberId
      request.idempotencyKey = none
  · have live : config.now < config.now + timedeltaSeconds ttlSeconds :=
      start_within config.now
    have added : EveryCached good ((config.store id request response).enter id phase) ↔
        good phase response ∧ EveryCached good (config.enter id phase) := by
      simp only [EveryCached, Config.store, Config.enter, Cache.setNx_missing missing,
        List.forall_mem_cons, live, true_imp_iff, Function.update_self]
    rw [added]
    exact ⟨fun both _ => both.1, fun known => ⟨known missing, entered⟩⟩
  · rw [store_cached missing]
    exact iff_of_true entered fun free => (missing free).elim

/-- What one step of a request can do, at the time it takes it. -/
inductive Advanced (requests : Id → Mutation State Response Error)
    (config : Config Id State Response) (id : Id) (outcome : Outcome) :
    Config Id State Response → Prop where
  | ended (ran : ∀ response change, config.phase id ≠ .ran response change)
      (stored : ∀ response change, config.phase id ≠ .stored response change) :
      Advanced requests config id outcome config
  | before {phase : Phase State Response}
      (ran : ∀ response change, config.phase id ≠ .ran response change)
      (stored : ∀ response change, config.phase id ≠ .stored response change)
      (committed : ∀ response, config.phase id ≠ .committed response) :
      Advanced requests config id outcome (config.enter id phase)
  | notSet {response : Response} {change : State → State}
      (ran : config.phase id = .ran response change) (fails : outcome = .fails) :
      Advanced requests config id outcome (config.enter id .failed)
  | set {response : Response} {change : State → State}
      (ran : config.phase id = .ran response change) (succeeds : outcome = .succeeds) :
      Advanced requests config id outcome
        ((config.store id (requests id) response).enter id (.stored response change))
  | setFailed {response : Response} {change : State → State}
      (ran : config.phase id = .ran response change) (late : outcome = .failsAfter) :
      Advanced requests config id outcome
        ((config.store id (requests id) response).enter id .failed)
  | rolledBack {response : Response} {change : State → State}
      (stored : config.phase id = .stored response change) (fails : outcome = .fails) :
      Advanced requests config id outcome (config.enter id .failed)
  | commit {response : Response} {change : State → State}
      (stored : config.phase id = .stored response change)
      (reaches : outcome ≠ .fails) :
      Advanced requests config id outcome
        { config.enter id (.committed response) with state := change config.state }

theorem advance_advanced (requests : Id → Mutation State Response Error)
    (config : Config Id State Response) (id : Id) (outcome : Outcome) :
    Advanced requests config id outcome (advance requests config id outcome) := by
  cases phase : config.phase id with
  | ready =>
      have early : ∀ next, Advanced requests config id outcome (config.enter id next) :=
        fun next => .before (by simp [phase]) (by simp [phase]) (by simp [phase])
      cases outcome with
      | succeeds =>
          simp only [advance, phase]
          split
          · exact early _
          · exact early _
      | fails | failsAfter =>
          simp only [advance, phase]
          exact early _
  | missed =>
      have early : ∀ next, Advanced requests config id outcome (config.enter id next) :=
        fun next => .before (by simp [phase]) (by simp [phase]) (by simp [phase])
      cases outcome with
      | succeeds =>
          simp only [advance, phase]
          split
          · exact early _
          · exact early _
      | fails | failsAfter =>
          simp only [advance, phase]
          exact early _
  | ran response change =>
      cases outcome with
      | succeeds =>
          simp only [advance, phase]
          exact .set phase rfl
      | fails =>
          simp only [advance, phase]
          exact .notSet phase rfl
      | failsAfter =>
          simp only [advance, phase]
          exact .setFailed phase rfl
  | stored response change =>
      cases outcome with
      | succeeds =>
          simp only [advance, phase]
          exact .commit phase (by decide)
      | fails =>
          simp only [advance, phase]
          exact .rolledBack phase rfl
      | failsAfter =>
          simp only [advance, phase]
          exact .commit phase (by decide)
  | committed response | replayed response | failed =>
      have last : advance requests config id outcome = config := by
        cases outcome <;> simp only [advance, phase]
      rw [last]
      exact .ended (by simp [phase]) (by simp [phase])

/-! ## Exactly when the cache stays true -/

theorem committed_step {requests : Id → Mutation State Response Error}
    {config : Config Id State Response} (every : CachedIsCommitted config)
    (step : Step Id) :
    CachedIsCommitted (requestStep requests config step) ↔
      StoresNothing requests config step := by
  have ticked : CachedIsCommitted (config.tick step.elapsed) := every.tick step.elapsed
  have advanced := advance_advanced requests (config.tick step.elapsed) step.id
    step.outcome
  unfold requestStep
  generalize advance requests (config.tick step.elapsed) step.id step.outcome = next
    at advanced ⊢
  cases advanced with
  | ended ran stored =>
      exact iff_of_true ticked fun response change phase =>
        (ran response change phase).elim
  | before ran stored committed =>
      refine iff_of_true (ticked.enter fun response was => ?_)
        fun response change phase => (ran response change phase).elim
      exact (committed response was).elim
  | notSet ran fails =>
      refine iff_of_true (ticked.enter fun response was => ?_)
        fun response change _ reaches => (reaches fails).elim
      rw [ran] at was
      cases was
  | rolledBack stored fails =>
      refine iff_of_true (ticked.enter fun response was => ?_)
        fun response change _ reaches => (reaches fails).elim
      rw [stored] at was
      cases was
  | @commit response change stored reaches =>
      constructor
      · intro _ other otherChange phase
        have same := stored.symm.trans phase
        cases same
      · intro _
        refine ticked.enter fun known was => ?_
        rw [stored] at was
        cases was
  | @set response change ran succeeds =>
      rw [CachedIsCommitted, ticked.set (by simp [ran])]
      constructor
      · intro known other otherChange _ _ missing
        cases known missing
      · intro nothing missing
        exact (nothing response change ran (by rw [succeeds]; decide) missing).elim
  | @setFailed response change ran late =>
      rw [CachedIsCommitted, ticked.set (by simp [ran])]
      constructor
      · intro known other otherChange _ _ missing
        cases known missing
      · intro nothing missing
        exact (nothing response change ran (by rw [late]; decide) missing).elim

theorem open_step {requests : Id → Mutation State Response Error}
    {config : Config Id State Response} (every : CachedIsOpen config)
    (step : Step Id) :
    CachedIsOpen (requestStep requests config step) ↔
      NoFailureAfterStore requests config step := by
  have ticked : CachedIsOpen (config.tick step.elapsed) := every.tick step.elapsed
  have advanced := advance_advanced requests (config.tick step.elapsed) step.id
    step.outcome
  unfold requestStep
  generalize advance requests (config.tick step.elapsed) step.id step.outcome = next
    at advanced ⊢
  cases advanced with
  | ended ran stored =>
      exact iff_of_true ticked
        ⟨fun response change phase => (ran response change phase).elim,
          fun response change phase => (stored response change phase).elim⟩
  | before ran stored committed =>
      refine iff_of_true (ticked.enter fun response was => ?_)
        ⟨fun response change phase => (ran response change phase).elim,
          fun response change phase => (stored response change phase).elim⟩
      rcases was with was | ⟨change, was⟩
      · exact (committed response was).elim
      · exact (stored response change was).elim
  | @notSet response change ran fails =>
      refine iff_of_true (ticked.enter fun known was => ?_) ⟨?_, ?_⟩
      · rw [ran] at was
        rcases was with was | ⟨other, was⟩ <;> cases was
      · intro _ _ _ late
        rw [fails] at late
        cases late
      · intro other otherChange phase
        cases ran.symm.trans phase
  | @set response change ran succeeds =>
      rw [CachedIsOpen, ticked.set (by simp [ran])]
      refine iff_of_true (fun _ => Or.inr ⟨change, rfl⟩) ⟨?_, ?_⟩
      · intro _ _ _ late
        rw [succeeds] at late
        cases late
      · intro other otherChange phase
        cases ran.symm.trans phase
  | @setFailed response change ran late =>
      rw [CachedIsOpen, ticked.set (by simp [ran])]
      constructor
      · intro known
        refine ⟨fun _ _ _ _ missing => ?_, ?_⟩
        · rcases known missing with was | ⟨other, was⟩ <;> cases was
        · intro other otherChange phase
          cases ran.symm.trans phase
      · intro noFailure missing
        exact (noFailure.1 response change ran late missing).elim
  | @rolledBack response change stored fails =>
      constructor
      · intro after
        refine ⟨fun _ _ _ late => ?_, fun _ _ _ _ entry member live same => ?_⟩
        · rw [fails] at late
          cases late
        · have kept := after entry member live
          simp only [Config.enter, same, Function.update_self] at kept
          rcases kept with was | ⟨other, was⟩ <;> cases was
      · intro noFailure entry member live
        have apart := noFailure.2 response change stored fails entry member live
        simp only [Config.enter, Function.update_of_ne apart]
        exact ticked entry member live
  | @commit response change stored reaches =>
      have kept : CachedIsOpen ((config.tick step.elapsed).enter step.id
          (.committed response)) := by
        refine ticked.enter fun known was => ?_
        rw [stored] at was
        rcases was with was | ⟨other, was⟩
        · cases was
        · cases was
          exact Or.inl rfl
      refine iff_of_true kept ⟨?_, fun _ _ _ fails => (reaches fails).elim⟩
      intro other otherChange phase
      cases stored.symm.trans phase

theorem cachedOpen_iff (requests : Id → Mutation State Response Error) (now : Instant)
    (state : State) (steps : List (Step Id)) :
    Always (requestStep requests) CachedIsOpen (opening now state) steps ↔
      EachMeets (requestStep requests) (NoFailureAfterStore requests)
        (opening now state) steps := by
  refine always_iff_eachMeets (fun _ => True) (fun _ _ _ => trivial)
    (fun config step _ every => open_step every step) trivial ?_ steps
  intro entry member
  cases member

/-- Along any run of overlapping requests with any failures, every cached response
reports a committed change exactly when no response is ever stored; and it
reports one that is committed or about to be exactly when no request fails after
its response was stored. -/
theorem cachedCommitted_iff (requests : Id → Mutation State Response Error)
    (now : Instant) (state : State) (steps : List (Step Id)) :
    (Always (requestStep requests) CachedIsCommitted (opening now state) steps ↔
      EachMeets (requestStep requests) (StoresNothing requests) (opening now state)
        steps) ∧
    (Always (requestStep requests) CachedIsOpen (opening now state) steps ↔
      EachMeets (requestStep requests) (NoFailureAfterStore requests)
        (opening now state) steps) := by
  refine ⟨?_, cachedOpen_iff requests now state steps⟩
  refine always_iff_eachMeets (fun _ => True) (fun _ _ _ => trivial)
    (fun config step _ every => committed_step every step) trivial ?_ steps
  intro entry member
  cases member

/-! ## Retries -/

def CachedUnderOwnKey (requests : Id → Mutation State Response Error)
    (config : Config Id State Response) : Prop :=
  ∀ entry ∈ config.cache, (requests entry.response.1).memberId = entry.memberId ∧
    (requests entry.response.1).idempotencyKey = entry.idempotencyKey

omit [DecidableEq Id] in
theorem CachedUnderOwnKey.store {requests : Id → Mutation State Response Error}
    {config : Config Id State Response}
    (owned : CachedUnderOwnKey requests config) (id : Id) (response : Response) :
    CachedUnderOwnKey requests (config.store id (requests id) response) := by
  cases found : config.cache.get config.now (requests id).memberId
      (requests id).idempotencyKey with
  | some known =>
      rw [store_cached (by simp [found])]
      exact owned
  | none =>
      intro entry member
      simp only [Config.store, Cache.setNx_missing found, List.mem_cons] at member
      rcases member with rfl | member
      · exact ⟨rfl, rfl⟩
      · exact owned entry member

theorem ownKey_step {requests : Id → Mutation State Response Error}
    {config : Config Id State Response}
    (owned : CachedUnderOwnKey requests config) (step : Step Id) :
    CachedUnderOwnKey requests (requestStep requests config step) := by
  have advanced := advance_advanced requests (config.tick step.elapsed) step.id
    step.outcome
  unfold requestStep
  generalize advance requests (config.tick step.elapsed) step.id step.outcome = next
    at advanced ⊢
  have ticked : CachedUnderOwnKey requests (config.tick step.elapsed) := owned
  cases advanced with
  | ended | before | notSet | rolledBack | commit => exact owned
  | @set response => exact ticked.store step.id response
  | @setFailed response => exact ticked.store step.id response

/-- When no request failed after its response was stored, a request whose key no
other request has got through runs its handler. -/
theorem retry_reruns (requests : Id → Mutation State Response Error) (now : Instant)
    (state : State) {steps : List (Step Id)}
    (meets : EachMeets (requestStep requests) (NoFailureAfterStore requests)
      (opening now state) steps) {retry : Id} (elapsed : Nat)
    (ready : (runFrom (requestStep requests) (opening now state) steps).phase retry =
      .ready)
    (alone : ∀ id, (requests id).memberId = (requests retry).memberId →
      (requests id).idempotencyKey = (requests retry).idempotencyKey →
      ∀ response,
        (runFrom (requestStep requests) (opening now state) steps).phase id ≠
          .committed response ∧
        ∀ change,
          (runFrom (requestStep requests) (opening now state) steps).phase id ≠
            .stored response change) :
    (requestStep requests (runFrom (requestStep requests) (opening now state) steps)
      ⟨retry, elapsed, .succeeds⟩).phase retry = .missed := by
  have every := ((cachedOpen_iff requests now state steps).mpr meets).at_end
  have opened : CachedUnderOwnKey requests (opening now state) := by
    intro entry member
    cases member
  have owned := (invariant_always (CachedUnderOwnKey requests)
    (fun config step owned => ownKey_step owned step) opened steps).at_end
  generalize runFrom (requestStep requests) (opening now state) steps = final
    at ready alone every owned ⊢
  have missing : final.cache.get (final.now + elapsed) (requests retry).memberId
      (requests retry).idempotencyKey = none := by
    rw [Cache.get_eq_none_iff]
    intro entry member sameMember sameKey
    by_contra live
    rw [Int.not_le] at live
    obtain ⟨ownMember, ownKey⟩ := owned entry member
    have notThrough := alone entry.response.1 (ownMember.trans sameMember)
      (ownKey.trans sameKey) entry.response.2
    rcases every.tick elapsed entry member live with committed | ⟨change, stored⟩
    · exact notThrough.1 committed
    · exact notThrough.2 change stored
  simp only [requestStep, advance, Config.tick, ready, missing, Config.enter,
    Function.update_self]

end Requests

/-! ## A commit that fails -/

/-- The handler of a request to complete the sample task with a note that no text
column takes. -/
def nulNoteHandler : Handler := fun session =>
  (completeHandler ⟨0, 0⟩ (some "\x00") sampleHousehold reviewedDefinition sampleTeen
    sampleTask session).map fun result => (.task (.ofTask result.1), result.2)

def nulNoteRequest : Mutation Database Response RequestError where
  memberId := sampleTeen.id
  idempotencyKey := "tap"
  handler := ofHandler nulNoteHandler
  deserialize := asTask

def nulNoteResponse : Response :=
  .task (.ofTask { sampleTask with
    status := .reviewPending
    completedAt := some 0
    completionNote := some "\x00" })

/-- The request up to its failing commit, and the first step of its retry. -/
def nulNoteRun : List (Step Bool) :=
  [⟨false, 0, .succeeds⟩, ⟨false, 0, .succeeds⟩, ⟨false, 0, .succeeds⟩,
    ⟨false, 0, .fails⟩, ⟨true, 1000000, .succeeds⟩]

/-- The flush of the first request refuses its note, the retry is told of a
review that is pending, and the instance is as it was. -/
theorem failed_commit_replayed_as_success :
    let opened : Config Bool Database Response :=
      opening 0 (sampleDatabase reviewedDefinition sampleTask)
    let final := runFrom (requestStep fun _ => nulNoteRequest) opened nulNoteRun
    commitOutcome nulNoteHandler opened.state = .fails ∧
      (final.phase false).isFailed ∧
      (final.phase true).replayed? = some nulNoteResponse ∧
      final.state.instances.rows = [sampleTask] ∧
      ¬ CachedIsCommitted final ∧ ¬ CachedIsOpen final := by
  intro opened final
  have lost : ∃ entry ∈ final.cache, final.now < entry.expiresAt ∧
      (final.phase entry.response.1).isFailed := by decide +kernel
  have notOpen : ¬ CachedIsOpen final := by
    intro isOpen
    obtain ⟨entry, member, live, failed⟩ := lost
    rcases isOpen entry member live with committed | ⟨change, stored⟩
    · simp [committed, Phase.isFailed] at failed
    · simp [stored, Phase.isFailed] at failed
  refine ⟨by decide +kernel, by decide +kernel, by decide +kernel, by decide +kernel,
    fun committed => notOpen ?_, notOpen⟩
  exact fun entry member live => Or.inl (committed entry member live)

end KidsChores.Properties
