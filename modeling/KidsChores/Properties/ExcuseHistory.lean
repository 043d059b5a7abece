import KidsChores.Properties.TaskRuns
import KidsChores.Properties.WeeklyBuckets
import KidsChores.Services.CallSuccess

/-!
# The history of excuses

An instance has room for one excuse.  The submissions of a run are all in the texts and
in the weekly counts as long as none is made on an instance that carries one already.
-/

set_option autoImplicit false

namespace KidsChores.Properties

open KidsChores.Library
open KidsChores.Library.PyDatetime
open KidsChores.Library.PyText
open KidsChores.Library.Runs
open KidsChores.Lifecycle
open KidsChores.Models
open KidsChores.Routers.Definitions
open KidsChores.Routers.Household
open KidsChores.Services.Reports
open KidsChores.Services.StateMachine
open KidsChores.Session
open KidsChores.Workers.GenerateInstances

/-! ## Runs with the submissions made -/

structure Submission where
  taskId : Uuid
  submittedAt : Instant
  text : String
  deriving DecidableEq, Repr

structure Chronicle where
  db : Database
  excuses : List Submission

def submission? (db : Database) : TaskEvent → Option Submission
  | .lifecycle (.call clock actor taskId (.submitExcuse text)) =>
      (callTransaction db clock actor taskId (.submitExcuse text)).map fun _ =>
        ⟨taskId, clock.now, text⟩
  | _ => none

def chronicleStep (pytz : String → Option TzInfo) (chronicle : Chronicle)
    (event : TaskEvent) : Chronicle where
  db := taskStep pytz chronicle.db event
  excuses := chronicle.excuses ++ (submission? chronicle.db event).toList

def submissionsIn (tz : TzInfo) (instances : List TaskInstance) (excuses : List Submission)
    (monday : Date) : Nat :=
  excuses.countP fun excuse => LocalWeek tz monday excuse.submittedAt ∧
    ∃ task ∈ instances, task.id = excuse.taskId

def DueInRange (tz : TzInfo) (rangeStart : Date) (numWeeks : Nat) (task : TaskInstance) :
    Prop :=
  rangeStart ≤ tz.localDate task.dueAt ∧
    tz.localDate task.dueAt < rangeStart.addDays (7 * numWeeks)

/-- Every report counts the submissions on its instances, and every text is stored. -/
structure HistoryKept (chronicle : Chronicle) : Prop where
  counted : ∀ tz rangeStart numWeeks entries, ∀ selected : TaskInstance → Bool,
    rangeStart.weekday = 0 →
    (∀ task ∈ chronicle.db.instances.rows, selected task = true →
      DueInRange tz rangeStart numWeeks task) →
    (buildWeeklyReport (chronicle.db.instances.rows.filter selected) entries rangeStart
        numWeeks tz).map ReportWeek.excuseCount =
      (List.range numWeeks).map fun k : Nat =>
        submissionsIn tz (chronicle.db.instances.rows.filter selected) chronicle.excuses
          (rangeStart.addDays (7 * k))
  stored : ∀ excuse ∈ chronicle.excuses, ∃ task ∈ chronicle.db.instances.rows,
    task.id = excuse.taskId ∧ task.excuseText = some excuse.text

def FirstExcuse (chronicle : Chronicle) : TaskEvent → Prop
  | .lifecycle (.call _ _ taskId (.submitExcuse text)) =>
      ∀ loaded ∈ load? chronicle.db taskId, Actionable loaded.task.status →
        10 ≤ (strip text).length → loaded.task.excuseSubmittedAt = none
  | _ => True

instance (chronicle : Chronicle) (event : TaskEvent) :
    Decidable (FirstExcuse chronicle event) := by
  unfold FirstExcuse
  split <;> infer_instance

/-! ## What the rows tell of the submissions -/

def ownExcuse (task : TaskInstance) : Option Submission :=
  task.excuseSubmittedAt.map fun submittedAt =>
    ⟨task.id, submittedAt, task.excuseText.getD ""⟩

def excusesOf (excuses : List Submission) (taskId : Uuid) : List Submission :=
  excuses.filter fun excuse => excuse.taskId = taskId

/-- Each row tells the submissions made on it. -/
structure Recorded (chronicle : Chronicle) : Prop where
  known : ∀ excuse ∈ chronicle.excuses,
    ∃ task ∈ chronicle.db.instances.rows, task.id = excuse.taskId
  once : ∀ task ∈ chronicle.db.instances.rows,
    excusesOf chronicle.excuses task.id = (ownExcuse task).toList
  told : ∀ task ∈ chronicle.db.instances.rows,
    task.excuseSubmittedAt.isSome → task.excuseText.isSome

section Counts

variable {tz : TzInfo} {monday : Date} {excuses : List Submission}

theorem countP_or_apart {α : Type} {first second either : α → Bool}
    (splits : ∀ a, either a = true ↔ first a = true ∨ second a = true)
    (apart : ∀ a, ¬ (first a = true ∧ second a = true)) (rows : List α) :
    rows.countP either = rows.countP first + rows.countP second := by
  induction rows with
  | nil => rfl
  | cons row rest ih =>
      rw [List.countP_cons, List.countP_cons, List.countP_cons, ih]
      by_cases one : first row = true
      · have other : ¬ second row = true := fun two => apart row ⟨one, two⟩
        rw [if_pos ((splits row).mpr (Or.inl one)), if_pos one, if_neg other]
        omega
      · by_cases two : second row = true
        · rw [if_pos ((splits row).mpr (Or.inr two)), if_neg one, if_pos two]
          omega
        · have neither : ¬ either row = true := by
            intro some_
            exact ((splits row).mp some_).elim one two
          rw [if_neg neither, if_neg one, if_neg two]
          omega

theorem submissionsIn_own {task : TaskInstance}
    (once : excusesOf excuses task.id = (ownExcuse task).toList) :
    (excuses.countP fun excuse => decide (LocalWeek tz monday excuse.submittedAt) &&
      decide (excuse.taskId = task.id)) =
      if ∃ submitted ∈ task.excuseSubmittedAt, LocalWeek tz monday submitted then 1 else 0 := by
  have filtered := @List.countP_filter _
    (fun excuse : Submission => decide (LocalWeek tz monday excuse.submittedAt))
    (fun excuse => decide (excuse.taskId = task.id)) excuses
  unfold excusesOf at once
  rw [← filtered, once]
  unfold ownExcuse
  cases task.excuseSubmittedAt with
  | none => simp
  | some submitted => simp

/-- The report counts rows with an excuse, one for each submission on them. -/
theorem excusesIn_eq {instances : List TaskInstance}
    (distinct : (instances.map TaskInstance.id).Nodup)
    (once : ∀ task ∈ instances, excusesOf excuses task.id = (ownExcuse task).toList) :
    excusesIn tz instances monday = submissionsIn tz instances excuses monday := by
  induction instances with
  | nil => simp [excusesIn, submissionsIn]
  | cons task rest ih =>
      rw [List.map_cons, List.nodup_cons] at distinct
      obtain ⟨head, others⟩ := List.forall_mem_cons.mp once
      have tail := ih distinct.2 others
      unfold excusesIn submissionsIn at tail ⊢
      have split := @countP_or_apart Submission
        (fun excuse =>
          decide (LocalWeek tz monday excuse.submittedAt) && decide (excuse.taskId = task.id))
        (fun excuse => decide (LocalWeek tz monday excuse.submittedAt ∧
          ∃ other ∈ rest, other.id = excuse.taskId))
        (fun excuse => decide (LocalWeek tz monday excuse.submittedAt ∧
          ∃ other ∈ task :: rest, other.id = excuse.taskId)) ?_ ?_ excuses
      · rw [List.countP_cons, tail, split, submissionsIn_own head]
        simp only [decide_eq_true_eq]
        omega
      · intro excuse
        simp only [decide_eq_true_eq, Bool.and_eq_true, List.exists_mem_cons_iff]
        constructor
        · rintro ⟨inWeek, own | other⟩
          · exact Or.inl ⟨inWeek, own.symm⟩
          · exact Or.inr ⟨inWeek, other⟩
        · rintro (⟨inWeek, own⟩ | ⟨inWeek, other⟩)
          · exact ⟨inWeek, Or.inl own.symm⟩
          · exact ⟨inWeek, Or.inr other⟩
      · intro excuse
        simp only [decide_eq_true_eq, Bool.and_eq_true]
        rintro ⟨⟨_, own⟩, _, other, otherMember, same⟩
        exact distinct.1 (List.mem_map.mpr ⟨other, otherMember, same.trans own⟩)

end Counts

theorem Recorded.historyKept {chronicle : Chronicle} (recorded : Recorded chronicle) :
    HistoryKept chronicle := by
  constructor
  · intro tz rangeStart numWeeks entries selected monday_ _
    rw [buildWeeklyReport_eq monday_, List.map_map]
    apply List.map_congr_left
    intro k _
    have distinct : ((chronicle.db.instances.rows.filter selected).map TaskInstance.id).Nodup :=
      chronicle.db.instances.keysNodup.sublist (List.filter_sublist.map _)
    exact excusesIn_eq distinct fun task member =>
      recorded.once task (List.mem_filter.mp member).1
  · intro excuse made
    obtain ⟨task, stored, same⟩ := recorded.known excuse made
    have told := recorded.told task stored
    have own : excuse ∈ (ownExcuse task).toList := by
      rw [← recorded.once task stored]
      exact List.mem_filter.mpr ⟨made, decide_eq_true same.symm⟩
    refine ⟨task, stored, same, ?_⟩
    unfold ownExcuse at own
    cases submitted : task.excuseSubmittedAt with
    | none => simp [submitted] at own
    | some submittedAt =>
        rw [submitted] at told
        obtain ⟨text, kept⟩ := Option.isSome_iff_exists.mp (told rfl)
        simp only [submitted, kept, Option.map_some, Option.toList_some, Option.getD_some,
          List.mem_singleton] at own
        rw [own]
        exact kept

/-! ## One event -/

/-- A call writes a new excuse, or keeps the one that is there. -/
theorem excuse_fields {clock : Clock} {household : Household} {definition : TaskDefinition}
    {actor : Member} {task next : TaskInstance} {ledger nextLedger : Ledger}
    {call : ServiceCall}
    (effect : CallEffect clock household definition actor task ledger call next nextLedger) :
    (∃ text, call = .submitExcuse text ∧ Actionable task.status ∧
        10 ≤ (strip text).length ∧ next.excuseText = some text ∧
        next.excuseSubmittedAt = some clock.now) ∨
      (∀ text, call ≠ .submitExcuse text) ∧ next.excuseText = task.excuseText ∧
        next.excuseSubmittedAt = task.excuseSubmittedAt := by
  cases effect with
  | excusedWhilePending pending long =>
      exact Or.inl ⟨_, rfl, Or.inl pending, long, rfl, rfl⟩
  | excusedWhileOverdue overdue long =>
      exact Or.inl ⟨_, rfl, Or.inr overdue, long, rfl, rfl⟩
  | _ => exact Or.inr ⟨nofun, rfl, rfl⟩

theorem ownExcuse_of_same {task next : TaskInstance} (sameId : next.id = task.id)
    (sameText : next.excuseText = task.excuseText)
    (sameTime : next.excuseSubmittedAt = task.excuseSubmittedAt) :
    ownExcuse next = ownExcuse task := by
  unfold ownExcuse
  rw [sameId, sameText, sameTime]

theorem sweepRow_excuse (definitionIds : List Uuid) (hours : Int) (clock : JobClock)
    (task : TaskInstance) :
    (sweepRow definitionIds hours clock task).excuseText = task.excuseText ∧
      (sweepRow definitionIds hours clock task).excuseSubmittedAt = task.excuseSubmittedAt := by
  have effect := sweepRow_effect definitionIds hours clock task
  generalize sweepRow definitionIds hours clock task = next at effect
  cases effect <;> exact ⟨rfl, rfl⟩

theorem excusesOf_append (excuses : List Submission) (excuse : Submission) (taskId : Uuid) :
    excusesOf (excuses ++ [excuse]) taskId =
      excusesOf excuses taskId ++ if excuse.taskId = taskId then [excuse] else [] := by
  unfold excusesOf
  rw [List.filter_append, List.filter_singleton]
  by_cases own : excuse.taskId = taskId
  · simp [own]
  · simp [own]

section Steps

variable {pytz : String → Option TzInfo} {chronicle : Chronicle} {event : TaskEvent}

theorem Recorded.none_of_fresh (recorded : Recorded chronicle) {taskId : Uuid}
    (fresh : ∀ old ∈ chronicle.db.instances.rows, old.id ≠ taskId) :
    excusesOf chronicle.excuses taskId = [] := by
  unfold excusesOf
  rw [List.filter_eq_nil_iff]
  intro excuse made own
  obtain ⟨task, stored, same⟩ := recorded.known excuse made
  exact fresh task stored (same.trans (of_decide_eq_true own))

theorem chronicleStep_unsubmitted (none_ : submission? chronicle.db event = none) :
    (chronicleStep pytz chronicle event).excuses = chronicle.excuses := by
  simp [chronicleStep, none_]

theorem Recorded.unsubmitted (recorded : Recorded chronicle)
    (none_ : submission? chronicle.db event = none) :
    Recorded (chronicleStep pytz chronicle event) := by
  have same := @chronicleStep_unsubmitted pytz chronicle event none_
  -- A row that tells what an old one did, or a new one that tells nothing.
  have rows : ∀ row ∈ (chronicleStep pytz chronicle event).db.instances.rows,
      (∃ old ∈ chronicle.db.instances.rows, row.id = old.id ∧
        row.excuseText = old.excuseText ∧ row.excuseSubmittedAt = old.excuseSubmittedAt) ∨
      (∀ old ∈ chronicle.db.instances.rows, old.id ≠ row.id) ∧
        row.excuseSubmittedAt = none := by
    intro row member
    cases taskStep_origin event member with
    | kept stored => exact Or.inl ⟨row, stored, rfl, rfl, rfl⟩
    | called found effect committed =>
        rcases excuse_fields effect with ⟨text, rfl, _⟩ | ⟨_, text, time⟩
        · simp [submission?, committed] at none_
        · exact Or.inl ⟨_, Table.mem_of_find? (load?_ok found).1, effect.sameTask.id, text, time⟩
    | swept stored =>
        exact Or.inl ⟨_, stored, (sweepRow_effect _ _ _ _).sameTask.id,
          (sweepRow_excuse _ _ _ _).1, (sweepRow_excuse _ _ _ _).2⟩
    | generated fresh =>
        refine Or.inr ⟨fun old stored => ?_, (sweepRow_excuse _ _ _ _).2⟩
        rw [(sweepRow_effect _ _ _ _).sameTask.id]
        exact fresh old stored
    | created fresh => exact Or.inr ⟨fresh, rfl⟩
  constructor
  · intro excuse made
    rw [same] at made
    obtain ⟨old, stored, own⟩ := recorded.known excuse made
    obtain ⟨row, member, sameId⟩ := taskStep_stays event stored
    exact ⟨row, member, sameId.trans own⟩
  · intro row member
    rw [same]
    rcases rows row member with ⟨old, stored, sameId, text, time⟩ | ⟨fresh, untold⟩
    · rw [ownExcuse_of_same sameId text time, sameId]
      exact recorded.once old stored
    · rw [recorded.none_of_fresh fresh]
      simp [ownExcuse, untold]
  · intro row member
    rcases rows row member with ⟨old, stored, _, text, time⟩ | ⟨_, untold⟩
    · rw [text, time]
      exact recorded.told old stored
    · simp [untold]

/-- What an accepted submission leaves: its row, the other rows, and one more excuse. -/
structure Submits (pytz : String → Option TzInfo) (chronicle : Chronicle) (clock : Clock)
    (taskId : Uuid) (text : String) (event : TaskEvent) (loaded : Loaded)
    (row : TaskInstance) : Prop where
  found : load? chronicle.db taskId = some loaded
  actionable : Actionable loaded.task.status
  long : 10 ≤ (strip text).length
  id : row.id = taskId
  dueAt : row.dueAt = loaded.task.dueAt
  told : row.excuseText = some text
  submittedAt : row.excuseSubmittedAt = some clock.now
  saved : (chronicleStep pytz chronicle event).db.instances =
    chronicle.db.instances.save row
  excuses : (chronicleStep pytz chronicle event).excuses =
    chronicle.excuses ++ [⟨taskId, clock.now, text⟩]

theorem submission_cases (pytz : String → Option TzInfo) (chronicle : Chronicle)
    (event : TaskEvent) :
    submission? chronicle.db event = none ∨
      ∃ clock actor taskId text loaded row,
        event = .lifecycle (.call clock actor taskId (.submitExcuse text)) ∧
        Submits pytz chronicle clock taskId text event loaded row := by
  unfold submission?
  split
  · rename_i clock actor taskId text
    cases committed : callTransaction chronicle.db clock actor taskId (.submitExcuse text) with
    | none => exact Or.inl rfl
    | some next =>
        refine Or.inr ⟨clock, actor, taskId, text, ?_⟩
        obtain ⟨loaded, row, ledger, found, effect, rfl⟩ := callTransaction_ok committed
        have stored := (load?_ok found).1
        rcases excuse_fields effect with ⟨_, same, actionable, long, told, time⟩ | ⟨other, _⟩
        · cases same
          refine ⟨loaded, row, rfl, found, actionable, long,
            effect.sameTask.id.trans (Table.key_of_find? stored), effect.sameTask.dueAt, told,
            time, ?_, ?_⟩
          · simp only [chronicleStep, taskStep, lifecycleStep, committed]
            rfl
          · simp [chronicleStep, submission?, committed]
        · exact absurd rfl (other text)
  · exact Or.inl rfl

section Submitted

variable {clock : Clock} {taskId : Uuid} {text : String} {loaded : Loaded}
  {row : TaskInstance}

theorem Submits.stored (submits : Submits pytz chronicle clock taskId text event loaded row) :
    loaded.task ∈ chronicle.db.instances.rows ∧ loaded.task.id = taskId :=
  Table.find?_eq_some_iff.mp (load?_ok submits.found).1

theorem Submits.row_mem (submits : Submits pytz chronicle clock taskId text event loaded row) :
    row ∈ (chronicleStep pytz chronicle event).db.instances.rows := by
  rw [submits.saved]
  exact Table.mem_save.mpr (Or.inl ⟨rfl, loaded.task, submits.stored.1,
    submits.stored.2.trans submits.id.symm⟩)

theorem Recorded.submitted (recorded : Recorded chronicle)
    (submits : Submits pytz chronicle clock taskId text event loaded row)
    (first : loaded.task.excuseSubmittedAt = none) :
    Recorded (chronicleStep pytz chronicle event) := by
  obtain ⟨stored, sameId⟩ := submits.stored
  have unexcused : excusesOf chronicle.excuses taskId = [] := by
    rw [← sameId, recorded.once loaded.task stored]
    simp [ownExcuse, first]
  constructor
  · intro excuse made
    rw [submits.excuses] at made
    rcases List.mem_append.mp made with earlier | new
    · obtain ⟨old, oldStored, own⟩ := recorded.known excuse earlier
      obtain ⟨next, member, same⟩ := taskStep_stays event oldStored
      exact ⟨next, member, same.trans own⟩
    · rw [List.mem_singleton.mp new]
      exact ⟨row, submits.row_mem, submits.id⟩
  · intro other member
    rw [submits.excuses, excusesOf_append]
    rw [submits.saved] at member
    rcases Table.mem_save.mp member with ⟨rfl, _⟩ | ⟨otherStored, different⟩
    · simp [submits.id, unexcused, ownExcuse, submits.told, submits.submittedAt]
    · have apart : ¬ taskId = other.id := fun same => different (same.symm.trans submits.id.symm)
      rw [if_neg apart, List.append_nil]
      exact recorded.once other otherStored
  · intro other member
    rw [submits.saved] at member
    rcases Table.mem_save.mp member with ⟨rfl, _⟩ | ⟨otherStored, _⟩
    · simp [submits.told]
    · exact recorded.told other otherStored

theorem exists_range (due sent : Date) : ∃ (rangeStart : Date) (numWeeks k : Nat),
    rangeStart.weekday = 0 ∧ rangeStart ≤ due ∧ due < rangeStart.addDays (7 * numWeeks) ∧
      k < numWeeks ∧ rangeStart.addDays (7 * k) ≤ sent ∧
        sent ≤ (rangeStart.addDays (7 * k)).addDays 6 := by
  have monday (date : Date) : (mondayOf date).weekday = 0 ∧ mondayOf date ≤ date := by
    unfold mondayOf Date.weekday
    rw [Date.le_def, Date.addDays_ordinal]
    omega
  obtain ⟨rangeStart, monday_, beforeDue, beforeSent⟩ : ∃ rangeStart : Date,
      rangeStart.weekday = 0 ∧ rangeStart ≤ due ∧ rangeStart ≤ sent := by
    by_cases order : due ≤ sent
    · refine ⟨mondayOf due, (monday due).1, (monday due).2, ?_⟩
      exact Int.le_trans (monday due).2 order
    · refine ⟨mondayOf sent, (monday sent).1, ?_, (monday sent).2⟩
      exact Int.le_trans (monday sent).2 (Int.le_of_lt (Date.not_le.mp order))
  refine ⟨rangeStart, ((sent.ordinal - rangeStart.ordinal) / 7).toNat +
    ((due.ordinal - rangeStart.ordinal) / 7).toNat + 1,
    ((sent.ordinal - rangeStart.ordinal) / 7).toNat, monday_, beforeDue, ?_⟩
  simp only [Date.le_def, Date.lt_def, Date.addDays_ordinal] at *
  omega

/-- A second excuse on an instance is missing from the report of the week of the first. -/
theorem first_of_kept (recorded : Recorded chronicle)
    (submits : Submits pytz chronicle clock taskId text event loaded row)
    (kept : HistoryKept (chronicleStep pytz chronicle event)) :
    loaded.task.excuseSubmittedAt = none := by
  obtain ⟨stored, sameId⟩ := submits.stored
  cases submitted : loaded.task.excuseSubmittedAt with
  | none => rfl
  | some earlier =>
      exfalso
      obtain ⟨rangeStart, numWeeks, k, monday_, since, before, inRange, sentSince, sentBefore⟩ :=
        exists_range ((TzInfo.fixed 0).localDate row.dueAt) ((TzInfo.fixed 0).localDate earlier)
      have only := Table.filter_key _ submits.row_mem
      have report := kept.counted (TzInfo.fixed 0) rangeStart numWeeks []
        (fun task => task.id = row.id) monday_ ?_
      · rw [only, buildWeeklyReport_eq monday_, List.map_map, List.map_inj_left] at report
        have week := report k (List.mem_range.mpr inRange)
        have first : (⟨taskId, earlier, loaded.task.excuseText.getD ""⟩ : Submission) ∈
            chronicle.excuses := by
          have own : (⟨taskId, earlier, loaded.task.excuseText.getD ""⟩ : Submission) ∈
              excusesOf chronicle.excuses loaded.task.id := by
            rw [recorded.once loaded.task stored]
            simp [ownExcuse, submitted, sameId]
          exact (List.mem_filter.mp own).1
        have counted : 0 < submissionsIn (TzInfo.fixed 0) [row] chronicle.excuses
            (rangeStart.addDays (7 * k)) := by
          refine List.countP_pos_iff.mpr ⟨_, first, decide_eq_true ⟨⟨sentSince, sentBefore⟩, ?_⟩⟩
          exact ⟨row, List.mem_singleton_self _, submits.id⟩
        have told : excusesIn (TzInfo.fixed 0) [row] (rangeStart.addDays (7 * k)) =
            submissionsIn (TzInfo.fixed 0) [row] [⟨taskId, clock.now, text⟩]
              (rangeStart.addDays (7 * k)) := by
          simp [excusesIn, submissionsIn, submits.submittedAt, submits.id]
        have added : submissionsIn (TzInfo.fixed 0) [row] (chronicleStep pytz chronicle
            event).excuses (rangeStart.addDays (7 * k)) =
            submissionsIn (TzInfo.fixed 0) [row] chronicle.excuses (rangeStart.addDays (7 * k)) +
              submissionsIn (TzInfo.fixed 0) [row] [⟨taskId, clock.now, text⟩]
                (rangeStart.addDays (7 * k)) := by
          rw [submits.excuses]
          exact List.countP_append
        rw [added, ← told] at week
        dsimp only [Function.comp_apply, weekRow] at week
        omega
      · intro task member own
        have same : task = row := Table.row_unique _ member submits.row_mem
          (of_decide_eq_true own)
        rw [same]
        exact ⟨since, before⟩

end Submitted

theorem Recorded.step (recorded : Recorded chronicle) (first : FirstExcuse chronicle event) :
    Recorded (chronicleStep pytz chronicle event) := by
  rcases submission_cases pytz chronicle event with
    none_ | ⟨clock, actor, taskId, text, loaded, row, rfl, submits⟩
  · exact recorded.unsubmitted none_
  · exact recorded.submitted submits
      (first loaded submits.found submits.actionable submits.long)

theorem firstExcuse_of_kept (recorded : Recorded chronicle)
    (kept : HistoryKept (chronicleStep pytz chronicle event)) : FirstExcuse chronicle event := by
  unfold FirstExcuse
  split
  · rename_i clock actor taskId text
    intro loaded found actionable long
    obtain ⟨next, ledger, returned⟩ : ∃ next ledger,
        submitExcuse clock text loaded.task chronicle.db.ledger = .ok (next, ledger) :=
      submitExcuse_isOk actionable long
    rcases submission_cases pytz chronicle
        (.lifecycle (.call clock actor taskId (.submitExcuse text))) with
      none_ | ⟨_, _, _, _, other, row, same, submits⟩
    · have found : load? chronicle.db taskId = some loaded := found
      simp only [submission?, callTransaction, found, ServiceCall.run, returned,
        Option.map_some, reduceCtorEq] at none_
    · cases same
      have one : loaded = other := Option.some.inj (found.symm.trans submits.found)
      subst one
      exact first_of_kept recorded submits kept
  · trivial

end Steps

theorem Recorded.initial {db : Database}
    (unexcused : ∀ task ∈ db.instances.rows, task.excuseSubmittedAt = none) :
    Recorded ⟨db, []⟩ := by
  refine ⟨nofun, ?_, ?_⟩
  · intro task stored
    simp [excusesOf, ownExcuse, unexcused task stored]
  · intro task stored
    simp [unexcused task stored]

/-- Over every run the weekly counts are those of the submissions made, and every text is
kept, exactly if no excuse is accepted on an instance that carries one already. -/
theorem excuse_history_kept_iff (pytz : String → Option TzInfo) (db : Database)
    (unexcused : ∀ task ∈ db.instances.rows, task.excuseSubmittedAt = none)
    (events : List TaskEvent) :
    Always (chronicleStep pytz) HistoryKept ⟨db, []⟩ events ↔
      EachMeets (chronicleStep pytz) FirstExcuse ⟨db, []⟩ events :=
  always_iff_of_broken Recorded (fun _ recorded => recorded.historyKept)
    (fun _ _ _ recorded first => recorded.step first)
    (fun _ _ _ recorded kept => firstExcuse_of_kept recorded kept)
    (Recorded.initial unexcused) (eachMeets_of_forall (fun _ _ _ => trivial) _)

/-- An excuse for a task due at 0 is sent an hour late and denied, and another one, sent
two hours late, is denied too. -/
def excusedTwice : List TaskEvent :=
  [.lifecycle (.call (afterHours 1) sampleTeen 1 (.submitExcuse "I was at the dentist")),
    .lifecycle (.call (afterHours 1) sampleParent 1 (.resolveExcuse false (some "no"))),
    .lifecycle (.call (afterHours 2) sampleTeen 1 (.submitExcuse "The sink was broken"))]

theorem second_excuse_overwrites :
    (runFrom (chronicleStep fun _ => none) ⟨overdueDatabase, []⟩ excusedTwice).excuses.length =
        2 ∧
      ((runFrom (chronicleStep fun _ => none) ⟨overdueDatabase, []⟩
        excusedTwice).db.instances.rows.map TaskInstance.excuseText) =
          [some "The sink was broken"] ∧
      ¬ HistoryKept (runFrom (chronicleStep fun _ => none) ⟨overdueDatabase, []⟩
        excusedTwice) := by
  have two : (runFrom (chronicleStep fun _ => none) ⟨overdueDatabase, []⟩
      excusedTwice).excuses.map Submission.text =
        ["I was at the dentist", "The sink was broken"] := by decide +kernel
  have rows : (runFrom (chronicleStep fun _ => none) ⟨overdueDatabase, []⟩
      excusedTwice).db.instances.rows.map TaskInstance.excuseText =
        [some "The sink was broken"] := by decide +kernel
  generalize runFrom (chronicleStep fun _ => none) ⟨overdueDatabase, []⟩ excusedTwice =
    chronicle at two rows ⊢
  refine ⟨?_, rows, ?_⟩
  · have length := congrArg List.length two
    rw [List.length_map] at length
    exact length
  · intro kept
    have first : "I was at the dentist" ∈ chronicle.excuses.map Submission.text := by
      rw [two]
      exact List.mem_cons_self
    obtain ⟨excuse, made, text⟩ := List.mem_map.mp first
    obtain ⟨task, stored, _, told⟩ := kept.stored excuse made
    have shown : some "I was at the dentist" ∈
        chronicle.db.instances.rows.map TaskInstance.excuseText :=
      List.mem_map.mpr ⟨task, stored, told.trans (congrArg some text)⟩
    rw [rows] at shown
    simp at shown

theorem one_excuse_kept :
    Always (chronicleStep fun _ => none) HistoryKept ⟨overdueDatabase, []⟩
      (excusedTwice.take 2) :=
  (excuse_history_kept_iff (fun _ => none) overdueDatabase (by decide)
    (excusedTwice.take 2)).mpr (by decide)

end KidsChores.Properties
