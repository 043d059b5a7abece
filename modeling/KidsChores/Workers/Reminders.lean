import Mathlib.Logic.Function.Basic
import KidsChores.Library.PyDatetime
import KidsChores.Services.Notifications

/-!
# Reminders

`_send_task_reminders` and `_send_series_expiring` of `app/workers/reminders.py`.  The
columns `reminder_sent_at` and `expiring_reminder_sent_at`, which no other code reads or
writes, are maps beside the database.
-/

set_option autoImplicit false

namespace KidsChores.Workers.Reminders

open KidsChores.Models
open KidsChores.Library
open KidsChores.Library.PyDatetime
open KidsChores.Services.Notifications

/-- `_REMINDER_OUTER_BOUND_HOURS`. -/
def reminderOuterBoundHours : Int := 24

abbrev ReminderSentAt := Uuid → Option Instant

/-- An instance with what is loaded with it. -/
structure DueSoon where
  task : TaskInstance
  definition : TaskDefinition
  household : Household
  assignee : Member

def loadDueSoon? (db : Database) (task : TaskInstance) : Option DueSoon := do
  let definition ← db.definitions.find? task.definitionId
  let household ← db.households.find? definition.householdId
  let assignee ← db.members.find? task.assigneeId
  return ⟨task, definition, household, assignee⟩

/-- The due-soon query. -/
def dueSoon (now : Instant) (db : Database) (sentAt : ReminderSentAt) : List DueSoon :=
  (db.instances.rows.filter fun task =>
    task.status = .pending ∧ sentAt task.id = none ∧ now < task.dueAt ∧
      task.dueAt ≤ now + timedeltaHours reminderOuterBoundHours).filterMap (loadDueSoon? db)

/-- `timedelta(minutes=household.task_reminder_minutes_before_due)`. -/
def leadTime (minutes : Int) : Timedelta := timedeltaSeconds (minutes * 60)

/-- What a run of the job does: whom it calls `notify_task_reminder` for, what that
sends, and the marks it leaves. -/
structure ReminderRun where
  notified : List Uuid
  pushes : List Push
  sentAt : ReminderSentAt

/-- The body of the loop. -/
def remind (now : Instant) (run : ReminderRun) (soon : DueSoon) : ReminderRun :=
  if soon.task.dueAt - now > leadTime soon.household.taskReminderMinutesBeforeDue then run
  else {
    notified := run.notified ++ [soon.task.id]
    pushes := run.pushes ++ notifyTaskReminder soon.assignee soon.definition
    sentAt := Function.update run.sentAt soon.task.id (some now) }

def sendTaskReminders (now : Instant) (db : Database) (sentAt : ReminderSentAt) :
    ReminderRun :=
  (dueSoon now db sentAt).foldl (remind now) ⟨[], [], sentAt⟩

/-! ## One run -/

section Run

variable {now : Instant} {db : Database} {sentAt : ReminderSentAt} {id : Uuid}

theorem loadDueSoon?_task {task : TaskInstance} {soon : DueSoon}
    (loaded : loadDueSoon? db task = some soon) : soon.task = task := by
  simp only [loadDueSoon?, Option.bind_eq_bind, Option.bind_eq_some_iff, Option.pure_def,
    Option.some.injEq] at loaded
  obtain ⟨definition, _, household, _, assignee, _, same⟩ := loaded
  subst same
  rfl

theorem mem_dueSoon {soon : DueSoon} :
    soon ∈ dueSoon now db sentAt ↔
      ∃ task ∈ db.instances.rows, loadDueSoon? db task = some soon ∧
        task.status = .pending ∧ sentAt task.id = none ∧ now < task.dueAt ∧
        task.dueAt ≤ now + timedeltaHours reminderOuterBoundHours := by
  unfold dueSoon
  simp only [List.mem_filterMap, List.mem_filter, decide_eq_true_eq]
  constructor
  · intro found
    obtain ⟨task, ⟨stored, selected⟩, loaded⟩ := found
    exact ⟨task, stored, loaded, selected⟩
  · intro found
    obtain ⟨task, stored, loaded, selected⟩ := found
    exact ⟨task, ⟨stored, selected⟩, loaded⟩

/-- The instances the loop notifies, and the marks it leaves on them. -/
theorem foldl_remind (now : Instant) (id : Uuid) (found : List DueSoon) (run : ReminderRun) :
    (id ∈ (found.foldl (remind now) run).notified ↔ id ∈ run.notified ∨
      ∃ soon ∈ found, soon.task.id = id ∧ soon.task.dueAt - now ≤
        leadTime soon.household.taskReminderMinutesBeforeDue) ∧
    (found.foldl (remind now) run).sentAt id =
      if ∃ soon ∈ found, soon.task.id = id ∧ soon.task.dueAt - now ≤
        leadTime soon.household.taskReminderMinutesBeforeDue then some now
      else run.sentAt id := by
  induction found generalizing run with
  | nil => simp
  | cons soon rest ih =>
      obtain ⟨notified, marked⟩ := ih (remind now run soon)
      rw [List.foldl_cons, notified, marked]
      unfold remind
      by_cases early : soon.task.dueAt - now >
          leadTime soon.household.taskReminderMinutesBeforeDue
      · rw [if_pos early]
        have skipped := Int.not_le.mpr early
        simp only [List.exists_mem_cons_iff, skipped, and_false, false_or, and_self]
      · rw [if_neg early]
        have taken := Int.not_lt.mp early
        by_cases own : soon.task.id = id
        · subst own
          simp only [List.exists_mem_cons_iff, taken, List.mem_append, List.mem_singleton,
            Function.update_self, ite_self, if_true, true_or, or_true, and_self]
        · simp only [List.exists_mem_cons_iff, own, false_and, false_or, List.mem_append,
            List.mem_singleton, Ne.symm own, or_false, Function.update_of_ne, ne_eq,
            not_false_eq_true, and_self]

/-- Notified are the instances of the query that are in their lead window. -/
theorem mem_notified :
    id ∈ (sendTaskReminders now db sentAt).notified ↔
      ∃ soon ∈ dueSoon now db sentAt, soon.task.id = id ∧ soon.task.dueAt - now ≤
        leadTime soon.household.taskReminderMinutesBeforeDue := by
  have loop := (foldl_remind now id (dueSoon now db sentAt) ⟨[], [], sentAt⟩).1
  unfold sendTaskReminders
  rw [loop]
  simp

theorem sentAt_notified (notified : id ∈ (sendTaskReminders now db sentAt).notified) :
    (sendTaskReminders now db sentAt).sentAt id = some now := by
  have loop := (foldl_remind now id (dueSoon now db sentAt) ⟨[], [], sentAt⟩).2
  rw [mem_notified] at notified
  rw [if_pos notified] at loop
  exact loop

theorem sentAt_other (other : id ∉ (sendTaskReminders now db sentAt).notified) :
    (sendTaskReminders now db sentAt).sentAt id = sentAt id := by
  have loop := (foldl_remind now id (dueSoon now db sentAt) ⟨[], [], sentAt⟩).2
  rw [mem_notified] at other
  rw [if_neg other] at loop
  exact loop

end Run

/-! ## Series windows -/

/-- `_SERIES_EXPIRING_LEAD_HOURS`. -/
def seriesExpiringLeadHours : Int := 24

/-- `_OUTSTANDING_STATUSES`. -/
def outstandingStatuses : List TaskStatus :=
  [.pending, .overdue, .reviewPending, .excusePending]

/-- A window with what is loaded with it. -/
structure Expiring where
  seriesInstance : SeriesInstance
  series : Series
  assignee : Member

def loadExpiring? (db : Database) (seriesInstance : SeriesInstance) : Option Expiring := do
  let series ← db.series.find? seriesInstance.seriesId
  let assignee ← db.members.find? series.assigneeId
  return ⟨seriesInstance, series, assignee⟩

/-- The query for the windows that end within the lead time. -/
def expiringSoon (now : Instant) (db : Database) (sentAt : ReminderSentAt) : List Expiring :=
  (db.seriesInstances.rows.filter fun seriesInstance =>
    seriesInstance.status = .active ∧ sentAt seriesInstance.id = none ∧
      now < seriesInstance.windowEnd ∧
      seriesInstance.windowEnd ≤ now + timedeltaHours seriesExpiringLeadHours).filterMap
        (loadExpiring? db)

/-- Some task of the window is still to be done or decided. -/
def HasOutstanding (db : Database) (seriesInstanceId : Uuid) : Prop :=
  ∃ task ∈ db.instances.rows, task.seriesInstanceId = some seriesInstanceId ∧
    task.status ∈ outstandingStatuses

instance (db : Database) (seriesInstanceId : Uuid) :
    Decidable (HasOutstanding db seriesInstanceId) :=
  inferInstanceAs (Decidable (∃ task ∈ db.instances.rows, _))

/-- The body of the loop. -/
def warn (now : Instant) (db : Database) (run : ReminderRun) (soon : Expiring) :
    ReminderRun :=
  if ¬ HasOutstanding db soon.seriesInstance.id then run
  else {
    notified := run.notified ++ [soon.seriesInstance.id]
    pushes := run.pushes ++ notifySeriesExpiring soon.assignee soon.series
    sentAt := Function.update run.sentAt soon.seriesInstance.id (some now) }

def sendSeriesExpiring (now : Instant) (db : Database) (sentAt : ReminderSentAt) :
    ReminderRun :=
  (expiringSoon now db sentAt).foldl (warn now db) ⟨[], [], sentAt⟩

section Windows

variable {now : Instant} {db : Database} {sentAt : ReminderSentAt} {id : Uuid}

theorem loadExpiring?_window {seriesInstance : SeriesInstance} {soon : Expiring}
    (loaded : loadExpiring? db seriesInstance = some soon) :
    soon.seriesInstance = seriesInstance := by
  simp only [loadExpiring?, Option.bind_eq_bind, Option.bind_eq_some_iff, Option.pure_def,
    Option.some.injEq] at loaded
  obtain ⟨series, _, assignee, _, same⟩ := loaded
  subst same
  rfl

theorem mem_expiringSoon {soon : Expiring} :
    soon ∈ expiringSoon now db sentAt ↔
      ∃ window ∈ db.seriesInstances.rows, loadExpiring? db window = some soon ∧
        window.status = .active ∧ sentAt window.id = none ∧ now < window.windowEnd ∧
        window.windowEnd ≤ now + timedeltaHours seriesExpiringLeadHours := by
  unfold expiringSoon
  simp only [List.mem_filterMap, List.mem_filter, decide_eq_true_eq]
  constructor
  · intro found
    obtain ⟨window, ⟨stored, selected⟩, loaded⟩ := found
    exact ⟨window, stored, loaded, selected⟩
  · intro found
    obtain ⟨window, stored, loaded, selected⟩ := found
    exact ⟨window, ⟨stored, selected⟩, loaded⟩

/-- What a turn of the loop does to the other windows. -/
theorem warn_other (run : ReminderRun) {soon : Expiring} (other : soon.seriesInstance.id ≠ id) :
    (id ∈ (warn now db run soon).notified ↔ id ∈ run.notified) ∧
      (warn now db run soon).sentAt id = run.sentAt id := by
  unfold warn
  split
  · exact ⟨Iff.rfl, rfl⟩
  · simp [Ne.symm other]

theorem warn_own (run : ReminderRun) {soon : Expiring}
    (left : HasOutstanding db soon.seriesInstance.id) :
    soon.seriesInstance.id ∈ (warn now db run soon).notified ∧
      (warn now db run soon).sentAt soon.seriesInstance.id = some now := by
  unfold warn
  rw [if_neg (not_not.mpr left)]
  simp

/-- The windows the loop warns of, and the marks it leaves on them. -/
theorem foldl_warn (now : Instant) (db : Database) (id : Uuid) (found : List Expiring)
    (run : ReminderRun) :
    (id ∈ (found.foldl (warn now db) run).notified ↔ id ∈ run.notified ∨
      (∃ soon ∈ found, soon.seriesInstance.id = id) ∧ HasOutstanding db id) ∧
    (found.foldl (warn now db) run).sentAt id =
      if (∃ soon ∈ found, soon.seriesInstance.id = id) ∧ HasOutstanding db id then some now
      else run.sentAt id := by
  induction found generalizing run with
  | nil => simp
  | cons soon rest ih =>
      obtain ⟨notified, marked⟩ := ih (warn now db run soon)
      rw [List.foldl_cons, notified, marked]
      by_cases own : soon.seriesInstance.id = id
      · subst own
        by_cases left : HasOutstanding db soon.seriesInstance.id
        · obtain ⟨named, stamped⟩ := @warn_own now db run soon left
          simp only [named, stamped, left, List.exists_mem_cons_iff, true_or, and_self, ite_self,
            if_true, or_true]
        · have skipped : warn now db run soon = run := if_pos left
          simp only [skipped, left, and_false, if_false, and_self]
      · obtain ⟨named, stamped⟩ := @warn_other now db id run soon own
        simp only [named, stamped, own, List.exists_mem_cons_iff, false_or, and_self]

/-- A run of the job warns of a window that ends within the lead time, bears no mark and
has something left to do. -/
structure Warnable (now : Instant) (db : Database) (id : Uuid) : Prop where
  endsSoon : ∃ window ∈ db.seriesInstances.rows, window.id = id ∧
    (loadExpiring? db window).isSome = true ∧ window.status = .active ∧
    now < window.windowEnd ∧
    window.windowEnd ≤ now + timedeltaHours seriesExpiringLeadHours
  outstanding : HasOutstanding db id

theorem exists_expiringSoon :
    (∃ soon ∈ expiringSoon now db sentAt, soon.seriesInstance.id = id) ↔
      sentAt id = none ∧ ∃ window ∈ db.seriesInstances.rows, window.id = id ∧
        (loadExpiring? db window).isSome = true ∧ window.status = .active ∧
        now < window.windowEnd ∧
        window.windowEnd ≤ now + timedeltaHours seriesExpiringLeadHours := by
  constructor
  · rintro ⟨soon, found, rfl⟩
    obtain ⟨window, stored, loaded, active, unsent, selected⟩ := mem_expiringSoon.mp found
    rw [loadExpiring?_window loaded]
    exact ⟨unsent, window, stored, rfl, Option.isSome_iff_exists.mpr ⟨soon, loaded⟩, active,
      selected⟩
  · rintro ⟨unsent, window, stored, rfl, loads, active, selected⟩
    obtain ⟨soon, loaded⟩ := Option.isSome_iff_exists.mp loads
    exact ⟨soon, mem_expiringSoon.mpr ⟨window, stored, loaded, active, unsent, selected⟩,
      congrArg SeriesInstance.id (loadExpiring?_window loaded)⟩

theorem mem_warned :
    id ∈ (sendSeriesExpiring now db sentAt).notified ↔
      Warnable now db id ∧ sentAt id = none := by
  have loop := (foldl_warn now db id (expiringSoon now db sentAt) ⟨[], [], sentAt⟩).1
  unfold sendSeriesExpiring
  rw [loop, exists_expiringSoon]
  constructor
  · rintro (absent | ⟨⟨unsent, endsSoon⟩, outstanding⟩)
    · cases absent
    · exact ⟨⟨endsSoon, outstanding⟩, unsent⟩
  · rintro ⟨⟨endsSoon, outstanding⟩, unsent⟩
    exact Or.inr ⟨⟨unsent, endsSoon⟩, outstanding⟩

theorem sentAt_warned :
    (sendSeriesExpiring now db sentAt).sentAt id =
      if id ∈ (sendSeriesExpiring now db sentAt).notified then some now else sentAt id := by
  have loop := foldl_warn now db id (expiringSoon now db sentAt) ⟨[], [], sentAt⟩
  unfold sendSeriesExpiring
  rw [loop.2]
  refine if_congr ?_ rfl rfl
  rw [loop.1]
  simp

end Windows

end KidsChores.Workers.Reminders
