import KidsChores.Properties.SeriesBonus
import KidsChores.Routers.CompletionRaces

/-!
# A series bonus under overlapping completions

The last outstanding instances of a window are completed at the same time.  Each
transaction evaluates the window on what is committed and on its own completion,
so the bonus is paid when one of them evaluates after all the others committed,
and is lost otherwise.
-/

set_option autoImplicit false

namespace KidsChores.Properties

open KidsChores.Interleaving
open KidsChores.Library
open KidsChores.Library.PyDatetime
open KidsChores.Library.Runs
open KidsChores.Models
open KidsChores.Routers
open KidsChores.Routers.CompletionRaces
open KidsChores.Routers.Tasks
open KidsChores.Services.Ledger
open KidsChores.Services.SeriesCompletion
open KidsChores.Services.StateMachine
open KidsChores.Session

variable {Id : Type}

/-- An open window of instances that need no review, and one request for each that
is neither complete nor excused. -/
structure LastOutstanding (requests : Id → TaskRequest) (windowId : Uuid)
    (db : Database) : Prop where
  opened : OpenWindow windowId db
  distinct : Function.Injective fun id => (requests id).instanceId
  own : ∀ id, ∃ task ∈ linkedInstances db windowId,
    task.id = (requests id).instanceId ∧ task.status ≠ .complete ∧
      task.status ≠ .excused
  covered : ∀ task ∈ linkedInstances db windowId,
    task.status = .complete ∨ task.status = .excused ∨
      ∃ id, (requests id).instanceId = task.id
  automatic : ∀ task ∈ linkedInstances db windowId, ∀ definition,
    db.definitions.find? task.definitionId = some definition →
      definition.requiresReview = false

def PaidOnce (windowId : Uuid) (db : Database) : Prop :=
  (db.seriesInstances.find? windowId).map SeriesInstance.status = some .complete ∧
    bonusEntries db.ledger windowId = 1

instance (windowId : Uuid) (db : Database) : Decidable (PaidOnce windowId db) :=
  inferInstanceAs (Decidable (_ ∧ _))

/-- The transaction evaluates the window when all the others have committed. -/
def ChecksLast (config : Config Id) (id : Id) : Prop :=
  match config.phase id with
  | .windowRead _ _ _ => ∀ other, other ≠ id → config.phase other = .committed
  | _ => False

instance [Fintype Id] [DecidableEq Id] (config : Config Id) (id : Id) :
    Decidable (ChecksLast config id) := by
  unfold ChecksLast
  split <;> infer_instance

/-! ## What a transaction holds -/

structure Unpaid (windowId : Uuid) (db : Database) : Prop where
  active : ∃ seriesInstance, db.seriesInstances.find? windowId = some seriesInstance ∧
    seriesInstance.status = .active
  unreferenced : ∀ entry ∈ db.ledger.entries, entry.seriesInstanceId ≠ some windowId

structure Finishes (taskId windowId : Uuid) (pending : Pending) : Prop where
  own : pending.read.id = taskId
  complete : pending.new.status = .complete
  changed : pending.new.status ≠ pending.read.status
  linked : pending.new.seriesInstanceId = some windowId

/-- Nothing of it is the window's. -/
structure Quiet (pending : Pending) : Prop where
  entries : ∀ entry ∈ pending.posted, entry.seriesInstanceId = none
  window : pending.window = none

def PhaseSound (taskId windowId : Uuid) : Phase → Prop
  | .ready => True
  | .loaded _ definition task =>
      task.id = taskId ∧ task.seriesInstanceId = some windowId ∧
        definition.requiresReview = false
  | .completed _ pending => Finishes taskId windowId pending ∧ Quiet pending
  | .windowRead _ pending seriesInstance =>
      (Finishes taskId windowId pending ∧ Quiet pending) ∧
        seriesInstance.id = windowId ∧ seriesInstance.status = .active
  | .checked pending => Finishes taskId windowId pending ∧ Quiet pending
  | .committed => True
  | .rolledBack => True

/-- While no evaluation has seen all the others committed: each instance is as it
was, or committed as complete, and the window is unpaid. -/
structure Before (requests : Id → TaskRequest) (windowId : Uuid) (start : Database)
    (config : Config Id) : Prop where
  phases : ∀ id, PhaseSound (requests id).instanceId windowId (config.phase id)
  waiting : ∀ id, config.phase id ≠ .committed →
    config.db.instances.find? (requests id).instanceId =
      start.instances.find? (requests id).instanceId
  done : ∀ id, config.phase id = .committed → ∃ task,
    config.db.instances.find? (requests id).instanceId = some task ∧
      task.status = .complete ∧ task.seriesInstanceId = some windowId
  rest : ∀ taskId, (∀ id, (requests id).instanceId ≠ taskId) →
    config.db.instances.find? taskId = start.instances.find? taskId
  definitions : config.db.definitions = start.definitions
  unpaid : Unpaid windowId config.db

/-! ## The view of a transaction -/

theorem mem_appendPosted {ledger : Ledger} {posted : List LedgerEntry}
    {entry : LedgerEntry} (member : entry ∈ (appendPosted ledger posted).entries) :
    entry ∈ ledger.entries ∨ entry ∈ posted := by
  induction posted generalizing ledger with
  | nil => exact Or.inl member
  | cons first rest ih =>
      rcases ih member with stored | later
      · cases inserted : ledger.insert? first with
        | none =>
            simp only [inserted, Option.getD_none] at stored
            exact Or.inl stored
        | some next =>
            simp only [inserted, Option.getD_some,
              (Ledger.insert?_eq_some inserted).1] at stored
            rcases List.mem_append.mp stored with old | new
            · exact Or.inl old
            · rw [List.mem_singleton.mp new]
              exact Or.inr List.mem_cons_self
      · exact Or.inr (List.mem_cons_of_mem first later)

section View

variable {taskId windowId : Uuid} {pending : Pending} {db : Database}

theorem quiet_apply (quiet : Quiet pending) :
    pending.apply db =
      writeBack pending.read.id pending.read pending.new pending.posted db := by
  simp [Pending.apply, quiet.window]

theorem writeBack_own {taskId : Uuid} {read new row : TaskInstance}
    {posted : List LedgerEntry} (found : db.instances.find? taskId = some row) :
    (writeBack taskId read new posted db).instances.find? taskId =
      some (updateRow read new row) := by
  have key : row.id = taskId := Table.key_of_find? found
  simp only [writeBack, found]
  exact Table.find?_save_same found key

theorem writeBack_other {taskId other : Uuid} {read new : TaskInstance}
    {posted : List LedgerEntry} (different : other ≠ taskId) :
    (writeBack taskId read new posted db).instances.find? other =
      db.instances.find? other := by
  unfold writeBack
  split
  · rfl
  · rename_i row found
    have key : row.id = taskId := Table.key_of_find? found
    have sameKey : (updateRow read new row).id = taskId := key
    exact Table.find?_save_other (by rw [sameKey]; exact different.symm)

theorem writeBack_frame {taskId : Uuid} {read new : TaskInstance}
    {posted : List LedgerEntry} :
    (writeBack taskId read new posted db).definitions = db.definitions ∧
      (writeBack taskId read new posted db).seriesInstances = db.seriesInstances ∧
      ∀ entry ∈ (writeBack taskId read new posted db).ledger.entries,
        entry ∈ db.ledger.entries ∨ entry ∈ posted := by
  unfold writeBack
  split
  · exact ⟨rfl, rfl, fun entry member => Or.inl member⟩
  · exact ⟨rfl, rfl, fun entry member => mem_appendPosted member⟩

theorem linked_iff_found {task : TaskInstance} :
    task ∈ linkedInstances db windowId ↔
      db.instances.find? task.id = some task ∧
        task.seriesInstanceId = some windowId := by
  rw [mem_linkedInstances]
  constructor
  · rintro ⟨member, linked⟩
    exact ⟨Table.find?_self db.instances member, linked⟩
  · rintro ⟨found, linked⟩
    exact ⟨Table.mem_of_find? found, linked⟩

theorem updateRow_complete {read new row : TaskInstance}
    (complete : new.status = .complete) (changed : new.status ≠ read.status) :
    (updateRow read new row).status = .complete :=
  (written_changed changed).trans complete

end View

section Race

variable {requests : Id → TaskRequest} {notes : Id → Option String} {windowId : Uuid}
variable {start : Database} {config : Config Id}

theorem Before.own_row (setup : LastOutstanding requests windowId start)
    (before : Before requests windowId start config) {id : Id}
    (uncommitted : config.phase id ≠ .committed) :
    ∃ task, config.db.instances.find? (requests id).instanceId = some task ∧
      task ∈ linkedInstances start windowId ∧ task.status ≠ .complete ∧
        task.status ≠ .excused := by
  obtain ⟨task, linked, own, notComplete, notExcused⟩ := setup.own id
  refine ⟨task, ?_, linked, notComplete, notExcused⟩
  rw [before.waiting id uncommitted, ← own]
  exact (linked_iff_found.mp linked).1

/-- The rows a transaction sees: its own as complete, the others as committed. -/
theorem Before.view_own (setup : LastOutstanding requests windowId start)
    (before : Before requests windowId start config) {id : Id}
    (uncommitted : config.phase id ≠ .committed) {pending : Pending}
    (finishes : Finishes (requests id).instanceId windowId pending)
    (quiet : Quiet pending) :
    ∃ task, (pending.apply config.db).instances.find? (requests id).instanceId =
        some task ∧ task.status = .complete ∧ task.seriesInstanceId = some windowId := by
  obtain ⟨row, found, linked, _⟩ := before.own_row setup uncommitted
  refine ⟨updateRow pending.read pending.new row, ?_, ?_, ?_⟩
  · rw [quiet_apply quiet, finishes.own]
    exact writeBack_own found
  · exact updateRow_complete finishes.complete finishes.changed
  · exact (updateRow_sameTask pending.read pending.new row).seriesInstanceId.trans
      (linked_iff_found.mp linked).2

theorem view_other {taskId other : Uuid} {pending : Pending} {db : Database}
    (finishes : Finishes taskId windowId pending) (quiet : Quiet pending)
    (different : other ≠ taskId) :
    (pending.apply db).instances.find? other = db.instances.find? other := by
  rw [quiet_apply quiet, finishes.own]
  exact writeBack_other different

/-- In its own view a transaction finds the window earned exactly when all the
others have committed. -/
theorem Before.earned_iff (setup : LastOutstanding requests windowId start)
    (before : Before requests windowId start config) {id : Id}
    (uncommitted : config.phase id ≠ .committed) {pending : Pending}
    (finishes : Finishes (requests id).instanceId windowId pending)
    (quiet : Quiet pending) :
    Earned (linkedInstances (pending.apply config.db) windowId) ↔
      ∀ other, other ≠ id → config.phase other = .committed := by
  obtain ⟨ownTask, ownFound, ownComplete, ownLinked⟩ :=
    before.view_own setup uncommitted finishes quiet
  have ownKey : ownTask.id = (requests id).instanceId := Table.key_of_find? ownFound
  constructor
  · intro earned other different
    by_contra open_
    obtain ⟨task, found, linked, notComplete, notExcused⟩ :=
      before.own_row setup open_
    have apart : (requests other).instanceId ≠ (requests id).instanceId :=
      fun same => different (setup.distinct same)
    have key : task.id = (requests other).instanceId := Table.key_of_find? found
    have seen : task ∈ linkedInstances (pending.apply config.db) windowId := by
      rw [linked_iff_found, key, view_other finishes quiet apart]
      exact ⟨found, (linked_iff_found.mp linked).2⟩
    rcases earned.2 task seen with complete | excused
    · exact notComplete complete
    · exact notExcused excused
  · intro others
    constructor
    · refine ⟨ownTask, ?_, ownComplete⟩
      rw [linked_iff_found, ownKey]
      exact ⟨ownFound, ownLinked⟩
    · intro task seen
      obtain ⟨found, linked⟩ := linked_iff_found.mp seen
      by_cases own : task.id = (requests id).instanceId
      · rw [own, ownFound] at found
        cases found
        exact Or.inl ownComplete
      · rw [view_other finishes quiet own] at found
        by_cases waited : ∃ other, (requests other).instanceId = task.id
        · obtain ⟨other, same⟩ := waited
          have different : other ≠ id := by
            rintro rfl
            exact own same.symm
          obtain ⟨row, rowFound, complete, _⟩ := before.done other (others other different)
          rw [same, found] at rowFound
          cases rowFound
          exact Or.inl complete
        · push Not at waited
          rw [before.rest task.id waited] at found
          rcases setup.covered task (linked_iff_found.mpr ⟨found, linked⟩) with
            complete | excused | ⟨other, same⟩
          · exact Or.inl complete
          · exact Or.inr excused
          · exact (waited other same).elim

/-! ## One statement before the bonus -/

theorem Before.loaded (setup : LastOutstanding requests windowId start)
    (before : Before requests windowId start config) {id : Id}
    (uncommitted : config.phase id ≠ .committed) {member : Member}
    {household : Household} {definition : TaskDefinition} {task : TaskInstance}
    {owns : Member → TaskInstance → Except RequestError Unit}
    (loaded : loadForRequest (requests id) anyMember owns config.db =
      .ok (member, household, definition, task)) :
    PhaseSound (requests id).instanceId windowId (.loaded member definition task) := by
  obtain ⟨found, definitionFound, _⟩ := findInstance?_ok (loadForRequest_ok loaded).taskFound
  obtain ⟨row, rowFound, linked, _⟩ := before.own_row setup uncommitted
  rw [rowFound] at found
  cases found
  rw [before.definitions] at definitionFound
  exact ⟨Table.key_of_find? rowFound, (linked_iff_found.mp linked).2,
    setup.automatic _ linked _ definitionFound⟩

theorem completed_sound {clock : Clock} {member : Member} {definition : TaskDefinition}
    {task result : TaskInstance} {note : Option String} {ledger next : Ledger}
    {taskId : Uuid} (sound : PhaseSound taskId windowId (.loaded member definition task))
    (returned : complete clock definition member note task ledger = .ok (result, next)) :
    PhaseSound taskId windowId (.completed member
      ⟨task, result, next.entries.drop ledger.entries.length, none⟩) := by
  obtain ⟨own, linked, auto⟩ := sound
  -- any household will do: `complete` does not read it
  have effect : CallEffect clock sampleHousehold definition member task ledger
      (.complete note) result next := complete_effect returned
  cases effect with
  | sentToReview actionable reviewed =>
      rw [auto] at reviewed
      cases reviewed
  | completed actionable _ paid =>
      have posted := (record_ok paid).1
      have notComplete : task.status ≠ .complete := actionable.ne (by decide)
      refine ⟨⟨own, rfl, notComplete.symm, linked⟩, ?_, rfl⟩
      · intro entry member
        rw [posted, List.drop_left, List.mem_singleton] at member
        rw [member]
        rfl

/-- An evaluation that misses a completion pays nothing. -/
theorem Before.evaluated (setup : LastOutstanding requests windowId start)
    (before : Before requests windowId start config) {id : Id}
    (uncommitted : config.phase id ≠ .committed) {pending : Pending}
    {seriesInstance : SeriesInstance} {member : Member} {clock : Clock}
    (sound : PhaseSound (requests id).instanceId windowId
      (.windowRead member pending seriesInstance))
    (missed : ¬ ∀ other, other ≠ id → config.phase other = .committed) {paid : Bool}
    {next : Database}
    (returned : evaluate clock seriesInstance member (pending.apply config.db) =
      .ok (paid, next)) : paid = false ∧ next = pending.apply config.db := by
  obtain ⟨⟨finishes, quiet⟩, own, active⟩ := sound
  cases evaluate_ok returned with
  | closed | outstanding => exact ⟨rfl, rfl⟩
  | paid _ earned =>
      rw [own] at earned
      exact (missed ((before.earned_iff setup uncommitted finishes quiet).mp earned)).elim

section Statements

variable [DecidableEq Id]

theorem Before.enter (before : Before requests windowId start config) {id : Id}
    {phase : Phase} (uncommitted : config.phase id ≠ .committed)
    (open_ : phase ≠ .committed)
    (sound : PhaseSound (requests id).instanceId windowId phase) :
    Before requests windowId start (config.enter id phase) := by
  refine ⟨?_, ?_, ?_, before.rest, before.definitions, before.unpaid⟩
  · intro other
    by_cases same : other = id
    · subst same
      simpa [Config.enter] using sound
    · simpa [Config.enter, same] using before.phases other
  · intro other still
    by_cases same : other = id
    · subst same
      exact before.waiting other uncommitted
    · exact before.waiting other (by simpa [Config.enter, same] using still)
  · intro other committed
    by_cases same : other = id
    · subst same
      exact (open_ (by simpa [Config.enter] using committed)).elim
    · exact before.done other (by simpa [Config.enter, same] using committed)

theorem Before.commit (setup : LastOutstanding requests windowId start)
    (before : Before requests windowId start config) {id : Id} {pending : Pending}
    (uncommitted : config.phase id ≠ .committed)
    (finishes : Finishes (requests id).instanceId windowId pending)
    (quiet : Quiet pending) :
    Before requests windowId start
      ⟨pending.apply config.db, Function.update config.phase id .committed⟩ := by
  have frame := @writeBack_frame config.db pending.read.id pending.read pending.new
    pending.posted
  rw [← quiet_apply quiet] at frame
  obtain ⟨sameDefinitions, sameWindows, entries⟩ := frame
  have apart : ∀ other, other ≠ id →
      (pending.apply config.db).instances.find? (requests other).instanceId =
        config.db.instances.find? (requests other).instanceId :=
    fun other different =>
      view_other finishes quiet fun same => different (setup.distinct same)
  refine ⟨?_, ?_, ?_, ?_, sameDefinitions.trans before.definitions, ?_⟩
  · intro other
    by_cases same : other = id
    · subst same
      simp [PhaseSound]
    · simpa [same] using before.phases other
  · intro other still
    by_cases same : other = id
    · subst same
      simp at still
    · rw [apart other same]
      exact before.waiting other (by simpa [same] using still)
  · intro other committed
    by_cases same : other = id
    · subst same
      exact before.view_own setup uncommitted finishes quiet
    · rw [apart other same]
      exact before.done other (by simpa [same] using committed)
  · intro taskId unasked
    rw [view_other finishes quiet (unasked id).symm]
    exact before.rest taskId unasked
  · constructor
    · rw [sameWindows]
      exact before.unpaid.active
    · intro entry member
      rcases entries entry member with stored | own
      · exact before.unpaid.unreferenced entry stored
      · rw [quiet.entries entry own]
        exact Option.some_ne_none windowId |>.symm

variable [Fintype Id]

theorem before_step (setup : LastOutstanding requests windowId start)
    (before : Before requests windowId start config) {id : Id}
    (notLast : ¬ ChecksLast config id) :
    Before requests windowId start (completionStep requests notes config id) := by
  have sound := before.phases id
  unfold completionStep
  cases phase : config.phase id with
  | ready =>
      have uncommitted : config.phase id ≠ .committed := by simp [phase]
      simp only
      split
      · exact before.enter uncommitted (by simp) trivial
      · rename_i loaded
        exact before.enter uncommitted (by simp) (before.loaded setup uncommitted loaded)
  | loaded member definition task =>
      have uncommitted : config.phase id ≠ .committed := by simp [phase]
      rw [phase] at sound
      simp only
      split
      · exact before.enter uncommitted (by simp) trivial
      · rename_i result ledger returned
        split
        · exact before.enter uncommitted (by simp) trivial
        · split
          · exact before
          · exact before.enter uncommitted (by simp) (completed_sound sound returned)
  | completed member pending =>
      have uncommitted : config.phase id ≠ .committed := by simp [phase]
      rw [phase] at sound
      obtain ⟨seriesInstance, found, active⟩ := before.unpaid.active
      have read : pending.new.seriesInstanceId.bind config.db.seriesInstances.find? =
          some seriesInstance := by
        rw [sound.1.linked]
        exact found
      simp only [read]
      exact before.enter uncommitted (by simp) ⟨sound, Table.key_of_find? found, active⟩
  | windowRead member pending seriesInstance =>
      have uncommitted : config.phase id ≠ .committed := by simp [phase]
      rw [phase] at sound
      simp only [ChecksLast, phase] at notLast
      simp only
      split
      · exact before.enter uncommitted (by simp) trivial
      · rename_i paid next returned
        obtain ⟨rfl, rfl⟩ := before.evaluated setup uncommitted sound notLast returned
        simp only [List.drop_length, List.append_nil, Bool.false_eq_true, if_false]
        split
        · exact before
        · exact before.enter uncommitted (by simp)
            ⟨⟨sound.1.1.own, sound.1.1.complete, sound.1.1.changed, sound.1.1.linked⟩,
              sound.1.2.entries, rfl⟩
  | checked pending =>
      have uncommitted : config.phase id ≠ .committed := by simp [phase]
      rw [phase] at sound
      exact before.commit setup uncommitted sound.1 sound.2
  | committed => exact before
  | rolledBack => exact before

/-! ## The bonus -/

/-- Its own entries, and the window's. -/
structure Pays (windowId : Uuid) (pending : Pending) : Prop where
  posted : ∃ own bonus, pending.posted = own ++ [bonus] ∧
    (∀ entry ∈ own, entry.seriesInstanceId = none) ∧ bonus.entryType = .seriesBonus ∧
      bonus.taskInstanceId = none ∧ bonus.seriesInstanceId = some windowId
  window : ∃ completedAt, pending.window = some (windowId, completedAt)

/-- Once a transaction has seen all the others committed: it is about to pay, has
failed, or has paid. -/
inductive After (windowId : Uuid) (config : Config Id) : Prop where
  | paying {id : Id} {pending : Pending} {row : TaskInstance}
      (others : ∀ other, other ≠ id → config.phase other = .committed)
      (phase : config.phase id = .checked pending) (pays : Pays windowId pending)
      (found : config.db.instances.find? pending.read.id = some row)
      (unpaid : Unpaid windowId config.db)
  | failed {id : Id} (phase : config.phase id = .rolledBack)
  | paid (all : ∀ id, config.phase id = .committed) (once : PaidOnce windowId config.db)

theorem bonusEntries_eq_zero {ledger : Ledger}
    (unreferenced : ∀ entry ∈ ledger.entries, entry.seriesInstanceId ≠ some windowId) :
    bonusEntries ledger windowId = 0 := by
  simp only [bonusEntries, List.countP_eq_zero, decide_eq_true_eq]
  rintro entry member ⟨_, references⟩
  exact unreferenced entry member references

theorem Pays.paidOnce {pending : Pending} {db : Database} {row : TaskInstance}
    (pays : Pays windowId pending)
    (found : db.instances.find? pending.read.id = some row)
    (unpaid : Unpaid windowId db) : PaidOnce windowId (pending.apply db) := by
  obtain ⟨own, bonus, posted, quiet, entryType, noTask, window⟩ := pays.posted
  obtain ⟨completedAt, completes⟩ := pays.window
  obtain ⟨seriesInstance, windowFound, active⟩ := unpaid.active
  have key : seriesInstance.id = windowId := Table.key_of_find? windowFound
  have unreferenced : ∀ entry ∈ (appendPosted db.ledger own).entries,
      entry.seriesInstanceId ≠ some windowId := by
    intro entry member
    rcases mem_appendPosted member with stored | mine
    · exact unpaid.unreferenced entry stored
    · rw [quiet entry mine]
      exact (Option.some_ne_none windowId).symm
  have free : ∀ earlier ∈ (appendPosted db.ledger own).entries,
      ¬ earlier.Clashes bonus := by
    rintro earlier member ⟨_, ⟨isSome, sameTask⟩ | ⟨_, sameWindow⟩⟩
    · rw [sameTask, noTask] at isSome
      cases isSome
    · exact unreferenced earlier member (sameWindow.trans window)
  have ledger : appendPosted db.ledger pending.posted =
      appendPosted (appendPosted db.ledger own) [bonus] := by
    rw [posted]
    simp only [appendPosted, List.foldl_append]
  have appended := appendPosted_free free
  simp only [Pending.apply, completes, writeBack, found, completeWindow, windowFound]
  constructor
  · have saved : SeriesInstance.id { seriesInstance with
        status := .complete
        completedAt := some completedAt } = windowId := key
    rw [Table.find?_save_same windowFound saved]
    rfl
  · have none_before := bonusEntries_eq_zero unreferenced
    simp only [bonusEntries] at none_before ⊢
    rw [ledger, appended, List.countP_append, none_before]
    simp [entryType, window]

/-- The evaluation after all the other commits pays or fails. -/
theorem cross_step (setup : LastOutstanding requests windowId start)
    (before : Before requests windowId start config) {id : Id}
    (last : ChecksLast config id) :
    After windowId (completionStep requests notes config id) := by
  have sound := before.phases id
  unfold ChecksLast at last
  split at last
  · rename_i member pending seriesInstance phase
    have uncommitted : config.phase id ≠ .committed := by simp [phase]
    rw [phase] at sound
    obtain ⟨⟨finishes, quiet⟩, own, active⟩ := sound
    have earned := (before.earned_iff setup uncommitted finishes quiet).mpr last
    have free : ∀ taskId posted, ¬ Waits config id taskId posted := by
      rintro taskId posted ⟨other, different, held, open_, _⟩
      rw [last other different] at open_
      cases open_
    unfold completionStep
    simp only [phase]
    cases evaluated : evaluate (requests id).clock seriesInstance member
        (pending.apply config.db) with
    | error raised =>
        exact @After.failed _ windowId _ id (by simp [Config.enter])
    | ok outcome =>
        obtain ⟨paid, next⟩ := outcome
        cases evaluate_ok evaluated with
        | closed closed => exact (closed active).elim
        | outstanding missed =>
            rw [own] at missed
            exact (missed earned).elim
        | @paid _ posting ledger _ _ _ recorded _ entryType noTask window =>
            obtain ⟨row, found, _⟩ := before.own_row setup uncommitted
            simp only [(record_ok recorded).1, List.drop_left, free, if_false, if_true]
            refine @After.paying _ windowId _ id { pending with
              posted := pending.posted ++ [posting.entry (currentBalance
                (pending.apply config.db).ledger posting.memberId)
                (requests id).clock.transaction]
              window := some (seriesInstance.id, (requests id).clock.now) } row
              ?_ ?_ ⟨⟨pending.posted, _, rfl, quiet.entries, entryType, noTask, ?_⟩, ?_⟩
              ?_ before.unpaid
            · intro other different
              simpa [Config.enter, different] using last other different
            · simp [Config.enter]
            · exact window.trans (congrArg some own)
            · exact ⟨_, by rw [own]⟩
            · rw [finishes.own]
              exact found
  · exact last.elim

theorem after_step {id : Id} (after : After windowId config) :
    After windowId (completionStep requests notes config id) := by
  cases after with
  | @paying payer pending row others phase pays found unpaid =>
      by_cases same : id = payer
      · subst same
        simp only [completionStep, phase]
        refine .paid (fun other => ?_) (pays.paidOnce found unpaid)
        by_cases own : other = id
        · simp [own]
        · simpa [own] using others other own
      · have idle : completionStep requests notes config id = config := by
          simp only [completionStep, others id same]
        rw [idle]
        exact .paying others phase pays found unpaid
  | @failed payer phase =>
      refine @After.failed _ windowId _ payer ?_
      by_cases same : payer = id
      · subst same
        simp only [completionStep, phase]
      · rw [completionStep_other same]
        exact phase
  | paid all once =>
      have idle : completionStep requests notes config id = config := by
        simp only [completionStep, all id]
      rw [idle]
      exact .paid all once

end Statements

/-! ## Every schedule -/

theorem LastOutstanding.before (setup : LastOutstanding requests windowId start) :
    Before requests windowId start (opening start) where
  phases _ := trivial
  waiting _ _ := rfl
  done _ committed := by cases committed
  rest _ _ := rfl
  definitions := rfl
  unpaid := ⟨setup.opened.active, setup.opened.unreferenced⟩

section Schedules

variable [DecidableEq Id] [Fintype Id]

/-- When all have committed, the bonus is paid once exactly when one of them has
evaluated the window after the commits of all the others. -/
theorem paid_once_iff {requests : Id → TaskRequest} {windowId : Uuid} {db : Database}
    (notes : Id → Option String) (setup : LastOutstanding requests windowId db)
    {schedule : List Id}
    (all : ∀ id, (runFrom (completionStep requests notes) (opening db) schedule).phase id =
      .committed) :
    PaidOnce windowId (runFrom (completionStep requests notes) (opening db) schedule).db ↔
      SomeMeets (completionStep requests notes) ChecksLast (opening db) schedule := by
  obtain ⟨met, never⟩ := before_or_after
    (fun _ _ before notLast => before_step setup before notLast)
    (fun _ _ before last => cross_step setup before last)
    (fun _ _ after => after_step after) setup.before schedule
  constructor
  · intro paid
    by_contra missed
    obtain ⟨seriesInstance, found, active⟩ := (never missed).unpaid.active
    have complete := paid.1
    rw [found, Option.map_some, active] at complete
    cases complete
  · intro some
    cases met some with
    | paying _ phase =>
        rw [all] at phase
        cases phase
    | failed phase =>
        rw [all] at phase
        cases phase
    | paid _ once => exact once

end Schedules

end Race

/-! ## Two siblings -/

def siblings : Database := sampleWindow .individualPlusBonus false

/-- The teen completes both tasks; `true` stands for the second. -/
def siblingRequests (second : Bool) : TaskRequest where
  clock := ⟨-5, -5⟩
  memberId := 2
  instanceId := if second then 2 else 1
  idempotencyKey := if second then "second" else "first"

def noNotes (_ : Bool) : Option String := none

theorem siblings_outstanding : LastOutstanding siblingRequests 1 siblings where
  opened := sampleWindow_open .individualPlusBonus false
  distinct := by decide
  own := by decide
  covered := by decide
  automatic := by
    intro task linked definition found
    have stored := Table.mem_of_find? found
    simp only [siblings, sampleWindow, List.mem_cons, List.not_mem_nil, or_false] at stored
    rcases stored with rfl | rfl <;> rfl

def oneAfterTheOther : List Bool := List.replicate 5 false ++ List.replicate 5 true

def sideBySide : List Bool :=
  [false, true, false, true, false, true, false, true, false, true]

theorem siblings_paid_once :
    PaidOnce 1 (runFrom (completionStep siblingRequests noNotes) (opening siblings)
      oneAfterTheOther).db :=
  (paid_once_iff noNotes siblings_outstanding (by decide +kernel)).mpr (by decide +kernel)

/-- Each evaluates before the other commits: both tasks are complete, and the window
stays active without its entry. -/
theorem siblings_lose_bonus :
    LastOutstanding siblingRequests 1 siblings ∧
      (∀ second, (runFrom (completionStep siblingRequests noNotes) (opening siblings)
        sideBySide).phase second = .committed) ∧
      ¬ PaidOnce 1 (runFrom (completionStep siblingRequests noNotes) (opening siblings)
        sideBySide).db :=
  ⟨siblings_outstanding, by decide +kernel, by decide +kernel⟩

end KidsChores.Properties
