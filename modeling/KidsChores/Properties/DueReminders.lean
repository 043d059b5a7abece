import Mathlib.Data.Nat.Find
import KidsChores.Workers.Reminders

/-!
# Reminders before the due time

The job runs at every quarter hour.  A task that stays pending is notified at the first
run in its lead window and never again, so it is notified if a quarter hour falls into
the window.
-/

set_option autoImplicit false

namespace KidsChores.Properties

open KidsChores.Library
open KidsChores.Library.PyDatetime
open KidsChores.Models
open KidsChores.Workers.Reminders

/-! ## The runs of the job -/

/-- `crontab(minute="*/15")`. -/
def quarterHour : Timedelta := timedeltaSeconds 900

def runTime (first : Int) (k : Nat) : Instant := (first + k) * quarterHour

/-- The marks before a run, when each run sees the database of its time. -/
def sentBefore (first : Int) (seen : Nat → Database) (sentAt : ReminderSentAt) :
    Nat → ReminderSentAt
  | 0 => sentAt
  | k + 1 => (sendTaskReminders (runTime first k) (seen k)
      (sentBefore first seen sentAt k)).sentAt

def Notified (first : Int) (seen : Nat → Database) (sentAt : ReminderSentAt) (id : Uuid)
    (k : Nat) : Prop :=
  id ∈ (sendTaskReminders (runTime first k) (seen k)
    (sentBefore first seen sentAt k)).notified

/-- From the lead time before it is due the instance is there and pending. -/
structure StaysPending (first : Int) (seen : Nat → Database) (id : Uuid) (due : Instant)
    (minutes : Int) : Prop where
  pending : ∀ k, due - leadTime minutes ≤ runTime first k → runTime first k < due →
    ∃ task ∈ (seen k).instances.rows, task.id = id ∧ task.status = .pending ∧
      (loadDueSoon? (seen k) task).isSome
  same : ∀ k, ∀ task ∈ (seen k).instances.rows, task.id = id → task.dueAt = due ∧
    ∀ soon, loadDueSoon? (seen k) task = some soon →
      soon.household.taskReminderMinutesBeforeDue = minutes

/-- However the database changes otherwise: one run notifies the instance, and it is in
the lead window. -/
def RemindedOnce (minutes : Int) (due : Instant) : Prop :=
  ∀ first seen sentAt id, runTime first 0 ≤ due - leadTime minutes → sentAt id = none →
    StaysPending first seen id due minutes →
      ∃ k, Notified first seen sentAt id k ∧ due - leadTime minutes ≤ runTime first k ∧
        runTime first k < due ∧ ∀ other, Notified first seen sentAt id other → other = k

/-- The last quarter hour before the due time is in the lead window. -/
def QuarterInWindow (minutes : Int) (due : Instant) : Prop :=
  (due - 1) % quarterHour < leadTime minutes

section Runs

variable {first : Int} {seen : Nat → Database} {sentAt : ReminderSentAt} {id : Uuid}
  {due : Instant} {minutes : Int}

theorem notified_in_window (stays : StaysPending first seen id due minutes) {k : Nat}
    (notified : Notified first seen sentAt id k) :
    sentBefore first seen sentAt k id = none ∧ due - leadTime minutes ≤ runTime first k ∧
      runTime first k < due := by
  obtain ⟨soon, found, own, inLead⟩ := mem_notified.mp notified
  obtain ⟨task, stored, loaded, _, unsent, late, _⟩ := mem_dueSoon.mp found
  have sameTask := loadDueSoon?_task loaded
  rw [sameTask] at own inLead
  obtain ⟨dueAt, lead⟩ := stays.same k task stored own
  rw [lead soon loaded, dueAt] at inLead
  rw [dueAt] at late
  rw [own] at unsent
  refine ⟨unsent, ?_, late⟩
  dsimp only [Instant, Timedelta] at *
  omega

theorem notified_of_unsent (accepted : minutes ≤ 1440)
    (stays : StaysPending first seen id due minutes) {k : Nat}
    (unsent : sentBefore first seen sentAt k id = none)
    (early : due - leadTime minutes ≤ runTime first k) (late : runTime first k < due) :
    Notified first seen sentAt id k := by
  obtain ⟨task, stored, own, pending, loads⟩ := stays.pending k early late
  obtain ⟨soon, loaded⟩ := Option.isSome_iff_exists.mp loads
  obtain ⟨dueAt, lead⟩ := stays.same k task stored own
  have outer : leadTime minutes ≤ timedeltaHours reminderOuterBoundHours := by
    dsimp only [leadTime, timedeltaHours, timedeltaSeconds, reminderOuterBoundHours,
      Timedelta]
    omega
  refine mem_notified.mpr ⟨soon, mem_dueSoon.mpr ⟨task, stored, loaded, pending, ?_, ?_, ?_⟩,
    ?_, ?_⟩
  · rw [own]
    exact unsent
  · rw [dueAt]
    exact late
  · rw [dueAt]
    dsimp only [Instant, Timedelta] at *
    omega
  · rw [loadDueSoon?_task loaded, own]
  · rw [loadDueSoon?_task loaded, lead soon loaded, dueAt]
    dsimp only [Instant, Timedelta] at *
    omega

theorem sentBefore_none (unmarked : sentAt id = none) {k : Nat}
    (silent : ∀ earlier, earlier < k → ¬ Notified first seen sentAt id earlier) :
    sentBefore first seen sentAt k id = none := by
  induction k with
  | zero => exact unmarked
  | succ k ih =>
      unfold sentBefore
      rw [sentAt_other (silent k (Nat.lt_succ_self k))]
      exact ih fun earlier before => silent earlier (Nat.lt_succ_of_lt before)

theorem sentBefore_marked {k later : Nat} (notified : Notified first seen sentAt id k)
    (after : k < later) : sentBefore first seen sentAt later id ≠ none := by
  induction later, after using Nat.le_induction with
  | base =>
      unfold sentBefore
      rw [sentAt_notified notified]
      exact Option.some_ne_none _
  | succ later after ih =>
      unfold sentBefore
      by_cases again : Notified first seen sentAt id later
      · rw [sentAt_notified again]
        exact Option.some_ne_none _
      · rw [sentAt_other again]
        exact ih

theorem notified_once (stays : StaysPending first seen id due minutes) {k other : Nat}
    (notified : Notified first seen sentAt id k)
    (again : Notified first seen sentAt id other) : other = k := by
  rcases Nat.lt_trichotomy other k with before | same | after
  · exact absurd (notified_in_window stays notified).1 (sentBefore_marked again before)
  · exact same
  · exact absurd (notified_in_window stays again).1 (sentBefore_marked notified after)

theorem runTime_mono (first : Int) {earlier k : Nat} (before : earlier ≤ k) :
    runTime first earlier ≤ runTime first k := by
  unfold runTime
  dsimp only [Instant, Timedelta, quarterHour, timedeltaSeconds]
  omega

/-- The first run in the window notifies, since no run before it does. -/
theorem remindedOnce_of_quarter (accepted : minutes ≤ 1440)
    (quarter : QuarterInWindow minutes due) : RemindedOnce minutes due := by
  intro first seen sentAt id starts unmarked stays
  have inWindow : ∃ k, due - leadTime minutes ≤ runTime first k ∧ runTime first k < due := by
    refine ⟨((due - 1) / quarterHour - first).toNat, ?_⟩
    unfold QuarterInWindow at quarter
    unfold runTime at *
    dsimp only [Instant, Timedelta, leadTime, quarterHour, timedeltaSeconds] at *
    omega
  have reached : ∃ k, due - leadTime minutes ≤ runTime first k := by
    obtain ⟨k, early, _⟩ := inWindow
    exact ⟨k, early⟩
  have silent : ∀ earlier, earlier < Nat.find reached →
      ¬ Notified first seen sentAt id earlier := by
    intro earlier before notified
    exact Nat.find_min reached before (notified_in_window stays notified).2.1
  have late : runTime first (Nat.find reached) < due := by
    obtain ⟨k, early, late⟩ := inWindow
    exact Int.lt_of_le_of_lt (runTime_mono first (Nat.find_min' reached early)) late
  have notified := notified_of_unsent accepted stays (sentBefore_none unmarked silent)
    (Nat.find_spec reached) late
  exact ⟨Nat.find reached, notified, Nat.find_spec reached, late,
    fun other again => notified_once stays notified again⟩

end Runs

/-! ## A family whose chore is pending -/

def dueFamily (minutes : Int) (due : Instant) : Database :=
  { sampleDatabase sampleDefinition { sampleTask with dueAt := due } with
    households := ⟨[{ sampleHousehold with taskReminderMinutesBeforeDue := minutes }],
      List.nodup_singleton _⟩ }

theorem dueFamily_staysPending (first minutes : Int) (due : Instant) :
    StaysPending first (fun _ => dueFamily minutes due) 1 due minutes := by
  constructor
  · intro k _ _
    exact ⟨{ sampleTask with dueAt := due }, List.mem_singleton.mpr rfl, rfl, rfl, rfl⟩
  · intro k task stored own
    have same : task = { sampleTask with dueAt := due } := List.mem_singleton.mp stored
    subst same
    refine ⟨rfl, ?_⟩
    intro soon loaded
    cases loaded
    rfl

theorem quarter_of_remindedOnce {minutes : Int} {due : Instant}
    (once : RemindedOnce minutes due) : QuarterInWindow minutes due := by
  have starts : runTime ((due - leadTime minutes) / quarterHour) 0 ≤ due - leadTime minutes := by
    unfold runTime
    dsimp only [Instant, Timedelta, quarterHour, timedeltaSeconds]
    omega
  obtain ⟨k, _, early, late, _⟩ := once _ _ (fun _ => none) 1 starts rfl
    (dueFamily_staysPending ((due - leadTime minutes) / quarterHour) minutes due)
  unfold QuarterInWindow
  unfold runTime at early late
  dsimp only [Instant, Timedelta, leadTime, quarterHour, timedeltaSeconds] at *
  omega

/-- A lead time of a quarter of an hour or more has one in its window. -/
theorem quarter_of_long {minutes : Int} {due : Instant} (long : 15 ≤ minutes) :
    QuarterInWindow minutes due := by
  unfold QuarterInWindow
  dsimp only [Instant, Timedelta, leadTime, quarterHour, timedeltaSeconds]
  omega

theorem reminded_once_iff {minutes : Int} (accepted : 5 ≤ minutes ∧ minutes ≤ 1440)
    (due : Instant) :
    (RemindedOnce minutes due ↔ QuarterInWindow minutes due) ∧
      (15 ≤ minutes → QuarterInWindow minutes due) :=
  ⟨⟨quarter_of_remindedOnce, remindedOnce_of_quarter accepted.2⟩, quarter_of_long⟩

theorem reminded_once_hour : RemindedOnce 60 (timedeltaSeconds 840) := by
  have hour := @reminded_once_iff 60 (by decide) (timedeltaSeconds 840)
  exact hour.1.mpr (hour.2 (by decide))

/-- Due at 00:14 with a lead time of five minutes: no quarter hour in the window. -/
theorem dishes_not_reminded :
    runTime 0 0 ≤ timedeltaSeconds 840 - leadTime 5 ∧
      StaysPending 0 (fun _ => dueFamily 5 (timedeltaSeconds 840)) 1 (timedeltaSeconds 840) 5 ∧
      ∀ k, ¬ Notified 0 (fun _ => dueFamily 5 (timedeltaSeconds 840)) (fun _ => none) 1 k := by
  refine ⟨by decide, dueFamily_staysPending 0 5 _, ?_⟩
  intro k notified
  obtain ⟨_, early, late⟩ :=
    notified_in_window (dueFamily_staysPending 0 5 (timedeltaSeconds 840)) notified
  unfold runTime at early late
  dsimp only [Instant, Timedelta, leadTime, quarterHour, timedeltaSeconds] at *
  omega

end KidsChores.Properties
