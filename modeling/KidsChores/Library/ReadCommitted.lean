import Mathlib.Logic.Function.Basic
import KidsChores.Library.Runs

/-!
# Interleaved transactions under READ COMMITTED

Each transaction reads committed data once, later stages a write of one row
under that row's lock, and later commits.  What it stages may depend on the
copy it read and on what is committed when it writes, but nothing re-checks the
copy: a stale copy is written all the same.  A schedule is the list of the
transactions that take a step, one after another; a transaction whose row is
locked by another one stays where it is.
-/

set_option autoImplicit false

namespace KidsChores.Library.ReadCommitted

open KidsChores.Library.Runs

universe u

variable {Id Key Seen Store View : Type u}

/-- `stage` is the statement list of the transaction: the change it leaves in
the store on commit, or nothing when it raises and is rolled back. -/
structure Transaction (Key Seen Store : Type u) where
  key : Key
  load : Store → Seen
  stage : Seen → Store → Option (Store → Store)

inductive Phase (Seen Store : Type u) where
  | ready
  | loaded (seen : Seen)
  | staged (seen : Seen) (change : Store → Store)
  | committed
  | rolledBack

structure Config (Id Key Seen Store : Type u) where
  store : Store
  phase : Id → Phase Seen Store
  lockedBy : Key → Option Id

def opening (store : Store) : Config Id Key Seen Store :=
  ⟨store, fun _ => .ready, fun _ => none⟩

section Step

variable [DecidableEq Id] [DecidableEq Key]

def step (transactions : Id → Transaction Key Seen Store)
    (config : Config Id Key Seen Store) (id : Id) : Config Id Key Seen Store :=
  match config.phase id with
  | .ready =>
      { config with
        phase := Function.update config.phase id
          (.loaded ((transactions id).load config.store)) }
  | .loaded seen =>
      match config.lockedBy (transactions id).key with
      | some _ => config
      | none =>
          match (transactions id).stage seen config.store with
          | none =>
              { config with phase := Function.update config.phase id .rolledBack }
          | some change =>
              { config with
                phase := Function.update config.phase id (.staged seen change)
                lockedBy := Function.update config.lockedBy
                  (transactions id).key (some id) }
  | .staged _ change =>
      { store := change config.store
        phase := Function.update config.phase id .committed
        lockedBy := Function.update config.lockedBy (transactions id).key none }
  | .committed => config
  | .rolledBack => config

/-- What the writers of a row have in common.  `view key` is the part of the
store that the row `key` stands for; `Linked` is what any copy of it that was
ever loaded still shares with the committed row. -/
structure Discipline (transactions : Id → Transaction Key Seen Store)
    (View : Type u) where
  view : Key → Store → View
  Linked : Key → Seen → View → Prop
  loads : ∀ id store, Linked (transactions id).key
    ((transactions id).load store) (view (transactions id).key store)
  frame : ∀ id seen before change store,
    (transactions id).stage seen before = some change →
      view (transactions id).key before = view (transactions id).key store →
      Linked (transactions id).key seen (view (transactions id).key store) →
      ∀ key, key ≠ (transactions id).key →
        view key (change store) = view key store
  kept : ∀ id seen before change store,
    (transactions id).stage seen before = some change →
      view (transactions id).key before = view (transactions id).key store →
      Linked (transactions id).key seen (view (transactions id).key store) →
      ∀ other, Linked (transactions id).key other
          (view (transactions id).key store) →
        Linked (transactions id).key other
          (view (transactions id).key (change store))

variable {transactions : Id → Transaction Key Seen Store}

/-- A staged change was computed on the row as it is still committed: the row's
lock keeps every other writer of that row out until the commit. -/
structure Staged (discipline : Discipline transactions View)
    (config : Config Id Key Seen Store) (id : Id) (seen : Seen)
    (change : Store → Store) : Prop where
  holdsLock : config.lockedBy (transactions id).key = some id
  linked : discipline.Linked (transactions id).key seen
    (discipline.view (transactions id).key config.store)
  computed : ∃ before, (transactions id).stage seen before = some change ∧
    discipline.view (transactions id).key before =
      discipline.view (transactions id).key config.store

structure Sound (discipline : Discipline transactions View)
    (config : Config Id Key Seen Store) : Prop where
  loaded : ∀ id seen, config.phase id = .loaded seen →
    discipline.Linked (transactions id).key seen
      (discipline.view (transactions id).key config.store)
  staged : ∀ id seen change, config.phase id = .staged seen change →
    Staged discipline config id seen change

omit [DecidableEq Id] [DecidableEq Key] in
theorem sound_opening (discipline : Discipline transactions View) (store : Store) :
    Sound discipline (opening store) := by
  constructor
  · intro id seen phase
    cases phase
  · intro id seen change phase
    cases phase

omit [DecidableEq Id] [DecidableEq Key] in
/-- Another transaction with a staged change works on another row. -/
theorem Sound.other_key {discipline : Discipline transactions View}
    {config : Config Id Key Seen Store} (sound : Sound discipline config)
    {id other : Id} {seen : Seen} {change : Store → Store}
    (staged : config.phase other = .staged seen change) (different : other ≠ id)
    (free : config.lockedBy (transactions id).key = none ∨
      config.lockedBy (transactions id).key = some id) :
    (transactions other).key ≠ (transactions id).key := by
  intro sameKey
  have held := (sound.staged other seen change staged).holdsLock
  rw [sameKey] at held
  rcases free with free | free
  · rw [held] at free
    cases free
  · rw [held] at free
    exact different (Option.some.inj free)

omit [DecidableEq Key] in
/-- One transaction moves; each other one keeps what it had. -/
private theorem Sound.moved {discipline : Discipline transactions View}
    {config next : Config Id Key Seen Store} {id : Id} {phase : Phase Seen Store}
    (sound : Sound discipline config)
    (moved : next.phase = Function.update config.phase id phase)
    (loaded : ∀ seen, phase = .loaded seen →
      discipline.Linked (transactions id).key seen
        (discipline.view (transactions id).key next.store))
    (staged : ∀ seen change, phase = .staged seen change →
      Staged discipline next id seen change)
    (linked : ∀ other seen, discipline.Linked (transactions other).key seen
        (discipline.view (transactions other).key config.store) →
      discipline.Linked (transactions other).key seen
        (discipline.view (transactions other).key next.store))
    (kept : ∀ other seen change, other ≠ id → config.phase other = .staged seen change →
      Staged discipline next other seen change) : Sound discipline next := by
  constructor
  · intro other seen now
    rw [moved] at now
    by_cases same : other = id
    · subst same
      rw [Function.update_self] at now
      exact loaded seen now
    · rw [Function.update_of_ne same] at now
      exact linked other seen (sound.loaded other seen now)
  · intro other seen change now
    rw [moved] at now
    by_cases same : other = id
    · subst same
      rw [Function.update_self] at now
      exact staged seen change now
    · rw [Function.update_of_ne same] at now
      exact kept other seen change same now

omit [DecidableEq Key] in
private theorem sound_ready {discipline : Discipline transactions View}
    {config : Config Id Key Seen Store} (sound : Sound discipline config) (id : Id) :
    Sound discipline { config with
      phase := Function.update config.phase id
        (.loaded ((transactions id).load config.store)) } := by
  refine sound.moved rfl ?_ nofun (fun _ _ linked => linked) ?_
  · intro seen now
    cases now
    exact discipline.loads id config.store
  · intro other seen change _ staged
    have before := sound.staged other seen change staged
    exact ⟨before.holdsLock, before.linked, before.computed⟩

omit [DecidableEq Key] in
private theorem sound_rolledBack {discipline : Discipline transactions View}
    {config : Config Id Key Seen Store} (sound : Sound discipline config) (id : Id) :
    Sound discipline { config with
      phase := Function.update config.phase id .rolledBack } := by
  refine sound.moved rfl nofun nofun (fun _ _ linked => linked) ?_
  intro other seen change _ staged
  have before := sound.staged other seen change staged
  exact ⟨before.holdsLock, before.linked, before.computed⟩

private theorem sound_stage {discipline : Discipline transactions View}
    {config : Config Id Key Seen Store} (sound : Sound discipline config)
    {id : Id} {seen : Seen} {change : Store → Store}
    (phase : config.phase id = .loaded seen)
    (free : config.lockedBy (transactions id).key = none)
    (computed : (transactions id).stage seen config.store = some change) :
    Sound discipline { config with
      phase := Function.update config.phase id (.staged seen change)
      lockedBy := Function.update config.lockedBy
        (transactions id).key (some id) } := by
  refine sound.moved rfl nofun ?_ (fun _ _ linked => linked) ?_
  · intro ownSeen ownChange now
    cases now
    exact ⟨Function.update_self .., sound.loaded id seen phase, config.store, computed, rfl⟩
  · intro other otherSeen otherChange different staged
    have before := sound.staged other otherSeen otherChange staged
    have apart := sound.other_key staged different (Or.inl free)
    refine ⟨?_, before.linked, before.computed⟩
    simp only [Function.update_of_ne apart]
    exact before.holdsLock

private theorem sound_commit {discipline : Discipline transactions View}
    {config : Config Id Key Seen Store} (sound : Sound discipline config)
    {id : Id} {seen : Seen} {change : Store → Store}
    (phase : config.phase id = .staged seen change) :
    Sound discipline
      { store := change config.store
        phase := Function.update config.phase id .committed
        lockedBy := Function.update config.lockedBy
          (transactions id).key none } := by
  have own := sound.staged id seen change phase
  obtain ⟨before, computed, sameView⟩ := own.computed
  refine sound.moved rfl nofun nofun ?_ ?_
  · intro other otherSeen linked
    by_cases sameKey : (transactions other).key = (transactions id).key
    · rw [sameKey] at linked ⊢
      exact discipline.kept id seen before change config.store computed
        sameView own.linked otherSeen linked
    · rw [discipline.frame id seen before change config.store computed sameView
        own.linked _ sameKey]
      exact linked
  · intro other otherSeen otherChange different otherPhase
    have staged := sound.staged other otherSeen otherChange otherPhase
    have apart := sound.other_key otherPhase different (Or.inr own.holdsLock)
    have sameRow := discipline.frame id seen before change config.store
      computed sameView own.linked _ apart
    refine ⟨?_, ?_, ?_⟩
    · simp only [Function.update_of_ne apart]
      exact staged.holdsLock
    · rw [sameRow]
      exact staged.linked
    · rw [sameRow]
      exact staged.computed

theorem step_sound {discipline : Discipline transactions View}
    {config : Config Id Key Seen Store} (sound : Sound discipline config) (id : Id) :
    Sound discipline (step transactions config id) := by
  cases phase : config.phase id with
  | ready =>
      simp only [step, phase]
      exact sound_ready sound id
  | loaded seen =>
      cases free : config.lockedBy (transactions id).key with
      | some holder =>
          simp only [step, phase, free]
          exact sound
      | none =>
          cases computed : (transactions id).stage seen config.store with
          | none =>
              simp only [step, phase, free, computed]
              exact sound_rolledBack sound id
          | some change =>
              simp only [step, phase, free, computed]
              exact sound_stage sound phase free computed
  | staged seen change =>
      simp only [step, phase]
      exact sound_commit sound phase
  | committed =>
      simp only [step, phase]
      exact sound
  | rolledBack =>
      simp only [step, phase]
      exact sound

/-- A step leaves the store alone unless it commits a staged change. -/
theorem step_store (transactions : Id → Transaction Key Seen Store)
    (config : Config Id Key Seen Store) (id : Id) :
    (∃ seen change, config.phase id = .staged seen change ∧
        (step transactions config id).store = change config.store) ∨
      (step transactions config id).store = config.store := by
  cases phase : config.phase id with
  | ready => exact Or.inr (by simp only [step, phase])
  | loaded seen =>
      right
      cases free : config.lockedBy (transactions id).key with
      | some holder => simp only [step, phase, free]
      | none =>
          cases computed : (transactions id).stage seen config.store with
          | none => simp only [step, phase, free, computed]
          | some change => simp only [step, phase, free, computed]
  | staged seen change => exact Or.inl ⟨seen, change, rfl, by simp only [step, phase]⟩
  | committed => exact Or.inr (by simp only [step, phase])
  | rolledBack => exact Or.inr (by simp only [step, phase])

end Step

/-! ## Conditions on the committing transaction -/

section Guarded

variable [DecidableEq Id] [DecidableEq Key]
variable {transactions : Id → Transaction Key Seen Store}

/-- The condition on a schedule's step: when it commits, the copy it read and
the row it overwrites are related by `condition`. -/
def CommitMeets (discipline : Discipline transactions View)
    (condition : Id → Seen → View → Prop)
    (config : Config Id Key Seen Store) (id : Id) : Prop :=
  ∀ seen change, config.phase id = .staged seen change →
    condition id seen (discipline.view (transactions id).key config.store)

def EveryRow (discipline : Discipline transactions View)
    (good : Key → View → Prop) (config : Config Id Key Seen Store) : Prop :=
  ∀ key, good key (discipline.view key config.store)

/-- What a commit of `id` does to its own row, stated on the views. -/
def CommitStep (discipline : Discipline transactions View)
    (relation : Id → Seen → View → View → Prop) : Prop :=
  ∀ id seen before change store,
    (transactions id).stage seen before = some change →
    discipline.view (transactions id).key before =
      discipline.view (transactions id).key store →
    discipline.Linked (transactions id).key seen
      (discipline.view (transactions id).key store) →
    relation id seen (discipline.view (transactions id).key store)
      (discipline.view (transactions id).key (change store))

/-- A step changes no row but the one it commits, and that one as `relation`
says. -/
theorem step_rows {discipline : Discipline transactions View}
    {relation : Id → Seen → View → View → Prop}
    (commits : CommitStep discipline relation)
    {config : Config Id Key Seen Store} (sound : Sound discipline config)
    (id : Id) (key : Key) :
    discipline.view key (step transactions config id).store =
        discipline.view key config.store ∨
      key = (transactions id).key ∧ ∃ seen change,
        config.phase id = .staged seen change ∧
        relation id seen (discipline.view key config.store)
          (discipline.view key (step transactions config id).store) := by
  rcases step_store transactions config id with
    ⟨seen, change, phase, stored⟩ | stored
  · have staged := sound.staged id seen change phase
    obtain ⟨before, computed, sameView⟩ := staged.computed
    rw [stored]
    by_cases sameKey : key = (transactions id).key
    · subst sameKey
      exact Or.inr ⟨rfl, seen, change, phase,
        commits id seen before change config.store computed sameView
          staged.linked⟩
    · exact Or.inl (discipline.frame id seen before change config.store computed
        sameView staged.linked key sameKey)
  · rw [stored]
    exact Or.inl rfl

/-- When each commit that meets `condition` keeps its row good and moves it as
`moves` allows, so does every schedule whose commits meet it. -/
theorem guarded_rows {discipline : Discipline transactions View}
    {good : Key → View → Prop} {moves : View → View → Prop}
    {condition : Id → Seen → View → Prop}
    (commits : CommitStep discipline fun id seen old new =>
      good (transactions id).key old → condition id seen old →
        good (transactions id).key new ∧ moves old new)
    (idle : ∀ view, moves view view)
    {store : Store} (initial : ∀ key, good key (discipline.view key store))
    {schedule : List Id}
    (meets : EachMeets (step transactions) (CommitMeets discipline condition)
      (opening store) schedule) :
    Always (step transactions) (EveryRow discipline good) (opening store) schedule ∧
      EachMeets (step transactions) (fun config id => ∀ key,
          moves (discipline.view key config.store)
            (discipline.view key (step transactions config id).store))
        (opening store) schedule := by
  have one_step : ∀ config id, Sound discipline config ∧
      EveryRow discipline good config → CommitMeets discipline condition config id →
        (Sound discipline (step transactions config id) ∧
          EveryRow discipline good (step transactions config id)) ∧
        ∀ key, moves (discipline.view key config.store)
          (discipline.view key (step transactions config id).store) := by
    rintro config id ⟨sound, rows⟩ condition
    have each : ∀ key,
        good key (discipline.view key (step transactions config id).store) ∧
          moves (discipline.view key config.store)
            (discipline.view key (step transactions config id).store) := by
      intro key
      rcases step_rows commits sound id key with
        same | ⟨sameKey, seen, change, phase, effect⟩
      · rw [same]
        exact ⟨rows key, idle _⟩
      · subst sameKey
        exact effect (rows _) (condition seen change phase)
    exact ⟨⟨step_sound sound id, fun key => (each key).1⟩, fun key => (each key).2⟩
  have opened : Sound discipline (opening store) ∧
      EveryRow discipline good (opening store) :=
    ⟨sound_opening discipline store, initial⟩
  constructor
  · exact (guarded_always _ (fun config id holds condition =>
      (one_step config id holds condition).1) opened meets).imp fun _ => And.right
  · exact guarded_eachMeets _
      (fun config id holds condition => (one_step config id holds condition).1)
      (fun config id holds condition => (one_step config id holds condition).2)
      opened meets

/-- When a commit keeps its row good exactly when it meets `condition`, a
schedule keeps every row good exactly when all its commits meet it. -/
theorem always_rows_iff {discipline : Discipline transactions View}
    {good : Key → View → Prop} {condition : Id → Seen → View → Prop}
    (commits : CommitStep discipline fun id seen old new =>
      good (transactions id).key old →
        (good (transactions id).key new ↔ condition id seen old))
    {store : Store} (initial : ∀ key, good key (discipline.view key store))
    (schedule : List Id) :
    Always (step transactions) (EveryRow discipline good) (opening store) schedule ↔
      EachMeets (step transactions) (CommitMeets discipline condition)
        (opening store) schedule := by
  refine always_iff_eachMeets (Sound discipline)
    (fun config id sound => step_sound sound id) ?_
    (sound_opening discipline store) initial schedule
  intro config id sound rows
  constructor
  · intro kept seen change phase
    have staged := sound.staged id seen change phase
    obtain ⟨before, computed, sameView⟩ := staged.computed
    have effect := commits id seen before change config.store computed sameView
      staged.linked (rows _)
    have stored : (step transactions config id).store = change config.store := by
      simp [step, phase]
    have own := kept (transactions id).key
    rw [stored] at own
    exact effect.mp own
  · intro condition key
    rcases step_rows commits sound id key with
      same | ⟨sameKey, seen, change, phase, effect⟩
    · rw [same]
      exact rows key
    · subst sameKey
      exact (effect (rows _)).mpr (condition seen change phase)

end Guarded

end KidsChores.Library.ReadCommitted
