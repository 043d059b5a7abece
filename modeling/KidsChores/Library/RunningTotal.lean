import Mathlib.Algebra.BigOperators.Group.List.Basic
import Mathlib.Logic.Function.Basic
import KidsChores.Library.Runs

/-!
# Running totals under READ COMMITTED

A journal of entries, each with the running total of its account.  A transaction
writes its entries one after another: it reads the sum of the account over the
committed entries and its own, and later inserts an entry computed from that
sum.  Its entries join the journal when it commits; nothing reads the sum again.
-/

set_option autoImplicit false

namespace KidsChores.Library.RunningTotal

open KidsChores.Library.Runs

universe u v w

structure Columns (Entry : Type u) (Account : Type v) (Amount : Type w) where
  account : Entry → Account
  delta : Entry → Amount
  total : Entry → Amount

section Journal

variable {Entry : Type u} {Account : Type v} {Amount : Type w}
variable [DecidableEq Account] [AddCommGroup Amount]

def sumFor (columns : Columns Entry Account Amount) (entries : List Entry)
    (account : Account) : Amount :=
  ((entries.filter fun entry => columns.account entry = account).map
    columns.delta).sum

/-- Every entry's total is the sum of its account up to and including it. -/
def Running (columns : Columns Entry Account Amount) (entries : List Entry) : Prop :=
  ∀ before entry after, entries = before ++ entry :: after →
    columns.total entry =
      sumFor columns before (columns.account entry) + columns.delta entry

variable {columns : Columns Entry Account Amount}

theorem sumFor_append (first second : List Entry) (account : Account) :
    sumFor columns (first ++ second) account =
      sumFor columns first account + sumFor columns second account := by
  simp [sumFor]

theorem running_append {first second : List Entry} :
    Running columns (first ++ second) ↔ Running columns first ∧
      ∀ before entry after, second = before ++ entry :: after →
        columns.total entry = sumFor columns (first ++ before)
          (columns.account entry) + columns.delta entry := by
  constructor
  · intro running
    constructor
    · intro before entry after split
      exact running before entry (after ++ second) (by simp [split])
    · intro before entry after split
      exact running (first ++ before) entry after (by simp [split])
  · rintro ⟨early, late⟩ before entry after split
    rcases List.append_eq_append_iff.mp split with
      ⟨middle, beforeEq, secondEq⟩ | ⟨middle, firstEq, rest⟩
    · rw [beforeEq]
      exact late middle entry after secondEq
    · cases middle with
      | nil =>
          rw [List.append_nil] at firstEq
          have own := late [] entry after (by simpa using rest.symm)
          rwa [List.append_nil, firstEq] at own
      | cons head tail =>
          cases rest
          exact early before entry tail firstEq

/-! ## Transactions -/

variable (columns) in
/-- An entry up to the balance it is computed from. -/
structure Draft where
  account : Account
  build : Amount → Entry
  sameAccount : ∀ balance, columns.account (build balance) = account
  sumsUp : ∀ balance,
    columns.total (build balance) = balance + columns.delta (build balance)

/-- What a transaction has read for its next entry: the committed sum, and the
balance with its own entries. -/
structure Reading (Amount : Type w) where
  committed : Amount
  balance : Amount

variable (columns) in
/-- An open transaction keeps, with each entry it inserted, the committed sum the
entry was computed from. -/
inductive Phase where
  | active (own : List (Entry × Amount)) (reading : Option (Reading Amount))
      (todo : List (Draft columns))
  | committed
  | rolledBack

variable (columns) in
structure Config (Id : Type*) where
  entries : List Entry
  phase : Id → Phase columns

inductive Admission where
  | admitted
  | waits
  | refused
  deriving DecidableEq, Repr

variable {Id : Type*}

def opening (entries : List Entry) (drafts : Id → List (Draft columns)) :
    Config columns Id :=
  ⟨entries, fun id => .active [] none (drafts id)⟩

variable [DecidableEq Id]

def Config.enter (config : Config columns Id) (id : Id) (phase : Phase columns) :
    Config columns Id :=
  { config with phase := Function.update config.phase id phase }

/-- The next statement of a transaction; `admission` is the database's answer to an
insert. -/
def step (admission : Config columns Id → Id → Entry → Admission)
    (config : Config columns Id) (id : Id) : Config columns Id :=
  match config.phase id with
  | .active own _ [] =>
      { entries := config.entries ++ own.map Prod.fst
        phase := Function.update config.phase id .committed }
  | .active own none (draft :: rest) =>
      config.enter id (.active own (some
        ⟨sumFor columns config.entries draft.account,
          sumFor columns (config.entries ++ own.map Prod.fst) draft.account⟩)
        (draft :: rest))
  | .active own (some reading) (draft :: rest) =>
      match admission config id (draft.build reading.balance) with
      | .admitted => config.enter id
          (.active (own ++ [(draft.build reading.balance, reading.committed)]) none rest)
      | .waits => config
      | .refused => config.enter id .rolledBack
  | .committed => config
  | .rolledBack => config

/-- When the step commits, every sum the transaction's entries were computed from
is still the committed one. -/
def CommitsUnmoved (config : Config columns Id) (id : Id) : Prop :=
  ∀ own reading, config.phase id = .active own reading [] →
    ∀ written ∈ own,
      sumFor columns config.entries (columns.account written.1) = written.2

omit [DecidableEq Id] in
theorem commitsUnmoved_iff {config : Config columns Id} {id : Id} :
    CommitsUnmoved config id ↔ match config.phase id with
      | .active own _ [] => ∀ written ∈ own,
          sumFor columns config.entries (columns.account written.1) = written.2
      | _ => True := by
  unfold CommitsUnmoved
  split
  · rename_i own reading phase
    rw [phase]
    constructor
    · intro unmoved
      exact unmoved own reading rfl
    · intro unmoved _ _ same
      cases same
      exact unmoved
  · rename_i notCommitting
    exact iff_of_true (fun own reading phase => (notCommitting own reading phase).elim)
      trivial

instance [DecidableEq Amount] (config : Config columns Id) (id : Id) :
    Decidable (CommitsUnmoved config id) :=
  have : Decidable (match config.phase id with
      | .active own _ [] => ∀ written ∈ own,
          sumFor columns config.entries (columns.account written.1) = written.2
      | _ => True) :=
    match config.phase id with
    | .active own _ [] => inferInstanceAs (Decidable (∀ written ∈ own, _))
    | .active _ _ (_ :: _) => isTrue trivial
    | .committed => isTrue trivial
    | .rolledBack => isTrue trivial
  decidable_of_iff _ commitsUnmoved_iff.symm

/-! ## What an open transaction has computed -/

variable (columns) in
/-- Its entries sum up from the committed sums they were computed from. -/
def OwnRight (own : List (Entry × Amount)) : Prop :=
  ∀ before written after, own = before ++ written :: after →
    columns.total written.1 = written.2 +
      sumFor columns (before.map Prod.fst) (columns.account written.1) +
        columns.delta written.1

structure SessionRight (own : List (Entry × Amount))
    (reading : Option (Reading Amount)) (todo : List (Draft columns)) : Prop where
  computed : OwnRight columns own
  adds : ∀ read ∈ reading, ∀ draft rest, todo = draft :: rest →
    read.balance = read.committed +
      sumFor columns (own.map Prod.fst) draft.account

def Sound (config : Config columns Id) : Prop :=
  ∀ id own reading todo, config.phase id = .active own reading todo →
    SessionRight own reading todo

/-- An insert keeps what the entries of the transaction sum up from. -/
theorem OwnRight.insert {own : List (Entry × Amount)} (right : OwnRight columns own)
    {draft : Draft columns} {read : Reading Amount}
    (adds : read.balance = read.committed +
      sumFor columns (own.map Prod.fst) draft.account) :
    OwnRight columns (own ++ [(draft.build read.balance, read.committed)]) := by
  intro before written after split
  rcases List.append_eq_append_iff.mp split with
    ⟨middle, beforeEq, single⟩ | ⟨middle, ownEq, rest⟩
  · cases middle with
    | nil =>
        rw [List.append_nil] at beforeEq
        cases single
        rw [beforeEq, draft.sumsUp, draft.sameAccount, adds]
    | cons head tail => simp at single
  · cases middle with
    | nil =>
        rw [List.append_nil] at ownEq
        cases rest
        rw [← ownEq, draft.sumsUp, draft.sameAccount, adds]
    | cons head tail =>
        cases rest
        exact right before written tail ownEq

omit [DecidableEq Id] in
theorem sound_opening (entries : List Entry) (drafts : Id → List (Draft columns)) :
    Sound (opening entries drafts) := by
  intro id own reading todo phase
  cases phase
  constructor
  · intro before written after split
    cases before <;> cases split
  · intro read member
    cases member

theorem Sound.enter {config : Config columns Id} (sound : Sound config) {id : Id}
    {phase : Phase columns}
    (right : ∀ own reading todo, phase = .active own reading todo →
      SessionRight own reading todo) : Sound (config.enter id phase) := by
  intro other own reading todo active
  by_cases same : other = id
  · subst same
    simp only [Config.enter, Function.update_self] at active
    exact right own reading todo active
  · simp only [Config.enter, Function.update_of_ne same] at active
    exact sound other own reading todo active

theorem step_sound (admission : Config columns Id → Id → Entry → Admission)
    {config : Config columns Id} (sound : Sound config) (id : Id) :
    Sound (step admission config id) := by
  cases phase : config.phase id with
  | active own reading todo =>
      have session := sound id own reading todo phase
      cases todo with
      | nil =>
          simp only [step, phase]
          exact sound.enter fun _ _ _ active => by cases active
      | cons draft rest =>
          cases reading with
          | none =>
              simp only [step, phase]
              refine sound.enter fun _ _ _ active => ?_
              cases active
              refine ⟨session.computed, ?_⟩
              intro read member other later same
              cases member
              cases same
              exact sumFor_append _ _ _
          | some read =>
              have adds := session.adds read rfl draft rest rfl
              simp only [step, phase]
              split
              · refine sound.enter fun _ _ _ active => ?_
                cases active
                refine ⟨session.computed.insert adds, ?_⟩
                intro next member
                cases member
              · exact sound
              · exact sound.enter fun _ _ _ active => by cases active
  | committed =>
      simp only [step, phase]
      exact sound
  | rolledBack =>
      simp only [step, phase]
      exact sound

/-! ## Exactly when the totals keep running -/

/-- Appending a transaction's entries keeps the totals running exactly when the
sums they were computed from are the committed ones. -/
theorem running_commit {entries : List Entry} {own : List (Entry × Amount)}
    (right : OwnRight columns own) (running : Running columns entries) :
    Running columns (entries ++ own.map Prod.fst) ↔ ∀ written ∈ own,
      sumFor columns entries (columns.account written.1) = written.2 := by
  rw [running_append]
  constructor
  · rintro ⟨_, late⟩ written member
    obtain ⟨before, after, split⟩ := List.append_of_mem member
    have total := late (before.map Prod.fst) written.1 (after.map Prod.fst)
      (by simp [split])
    rw [right before written after split, sumFor_append, add_left_inj,
      add_left_inj] at total
    exact total.symm
  · intro unmoved
    refine ⟨running, ?_⟩
    intro before entry after split
    obtain ⟨ownBefore, ownRest, ownSplit, rfl, restEq⟩ := List.map_eq_append_iff.mp split
    obtain ⟨written, ownAfter, rfl, rfl, _⟩ := List.map_eq_cons_iff.mp restEq
    rw [right ownBefore written ownAfter ownSplit, sumFor_append,
      unmoved written (by simp [ownSplit])]

/-- A step that is no commit leaves the journal alone. -/
theorem step_entries (admission : Config columns Id → Id → Entry → Admission)
    (config : Config columns Id) (id : Id) :
    (∃ own reading, config.phase id = .active own reading [] ∧
        (step admission config id).entries = config.entries ++ own.map Prod.fst) ∨
      ((∀ own reading, config.phase id ≠ .active own reading []) ∧
        (step admission config id).entries = config.entries) := by
  cases phase : config.phase id with
  | active own reading todo =>
      cases todo with
      | nil => exact Or.inl ⟨own, reading, rfl, by simp only [step, phase]⟩
      | cons draft rest =>
          right
          refine ⟨by simp, ?_⟩
          cases reading with
          | none =>
              simp only [step, phase]
              rfl
          | some read =>
              simp only [step, phase]
              split <;> rfl
  | committed => exact Or.inr ⟨by simp, by simp only [step, phase]⟩
  | rolledBack => exact Or.inr ⟨by simp, by simp only [step, phase]⟩

/-- Along any schedule the totals run exactly when every commit finds the sums
that its entries were computed from unmoved. -/
theorem always_running_iff (admission : Config columns Id → Id → Entry → Admission)
    {entries : List Entry} (running : Running columns entries)
    (drafts : Id → List (Draft columns)) (schedule : List Id) :
    Always (step admission) (fun config => Running columns config.entries)
        (opening entries drafts) schedule ↔
      EachMeets (step admission) CommitsUnmoved (opening entries drafts) schedule := by
  refine always_iff_eachMeets Sound (fun config id sound => step_sound admission sound id)
    ?_ (sound_opening entries drafts) running schedule
  intro config id sound before
  rcases step_entries admission config id with ⟨own, reading, phase, stored⟩ | ⟨idle, stored⟩
  · rw [stored, running_commit (sound id own reading [] phase).computed before]
    constructor
    · intro unmoved other otherReading otherPhase
      cases phase.symm.trans otherPhase
      exact unmoved
    · intro unmoved
      exact unmoved own reading phase
  · rw [stored]
    exact iff_of_true before fun own reading phase => (idle own reading phase).elim

end Journal

end KidsChores.Library.RunningTotal
