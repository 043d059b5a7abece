import KidsChores.Library.MarkedOnce
import KidsChores.Properties.SeriesWindow
import KidsChores.Properties.ServerWrites
import KidsChores.Workers.Reminders

/-!
# Warnings before a series window ends

The job runs every six hours and looks a day ahead, so a window with something left to do
is warned of once, at the first of four runs.  But no request links an instance to a
window: on the rows the server writes the job never sends anything.
-/

set_option autoImplicit false

namespace KidsChores.Properties

open KidsChores.Library
open KidsChores.Library.PyDatetime
open KidsChores.Library.Runs
open KidsChores.Models
open KidsChores.Server
open KidsChores.Workers.Reminders

/-! ## The runs of the job -/

def sixHours : Timedelta := timedeltaHours 6

/-- `crontab(hour="*/6", minute=30)`: the instant of a run, counted from the first one. -/
def warnTime (first : Int) (k : Nat) : Instant :=
  (first + k) * sixHours + timedeltaSeconds 1800

def warningLead : Timedelta := timedeltaHours seriesExpiringLeadHours

/-- Each run sees the database of its time. -/
def warningJob (first : Int) (seen : Nat → Database) : MarkingJob Uuid Instant where
  picks k id := Warnable (warnTime first k) (seen k) id
  handles k sentAt id := id ∈ (sendSeriesExpiring (warnTime first k) (seen k) sentAt).notified
  marked k sentAt := (sendSeriesExpiring (warnTime first k) (seen k) sentAt).sentAt
  handles_iff _ _ _ := mem_warned
  marked_handled k sentAt id warned := by
    rw [sentAt_warned, if_pos warned]
    exact Option.some_ne_none _
  marked_other k sentAt id other := by
    rw [sentAt_warned, if_neg other]

def Warned (first : Int) (seen : Nat → Database) (sentAt : ReminderSentAt) (k : Nat)
    (id : Uuid) : Prop :=
  (warningJob first seen).Handled sentAt k id

/-- On its last day the window is active and has something left to do. -/
structure StaysOutstanding (first : Int) (seen : Nat → Database) (id : Uuid)
    (windowEnd : Instant) : Prop where
  active : ∀ k, windowEnd - warningLead ≤ warnTime first k → warnTime first k < windowEnd →
    HasOutstanding (seen k) id ∧ ∃ window ∈ (seen k).seriesInstances.rows, window.id = id ∧
      (loadExpiring? (seen k) window).isSome = true ∧ window.status = .active
  same : ∀ k, ∀ window ∈ (seen k).seriesInstances.rows, window.id = id →
    window.windowEnd = windowEnd

/-- One run warns of the window, with more than eighteen hours left, and no other does. -/
def WarnedOnce (first : Int) (seen : Nat → Database) (sentAt : ReminderSentAt) (id : Uuid)
    (windowEnd : Instant) : Prop :=
  ∃ k, Warned first seen sentAt k id ∧ windowEnd - warningLead ≤ warnTime first k ∧
    warnTime first k < windowEnd - warningLead + sixHours ∧
    ∀ other, Warned first seen sentAt other id → other = k

section Runs

variable {first : Int} {seen : Nat → Database} {sentAt : ReminderSentAt} {id : Uuid}
  {windowEnd : Instant}

/-- The runs that pick the window are those of its last day. -/
theorem warnable_iff (stays : StaysOutstanding first seen id windowEnd) (k : Nat) :
    Warnable (warnTime first k) (seen k) id ↔
      windowEnd - warningLead ≤ warnTime first k ∧ warnTime first k < windowEnd := by
  constructor
  · rintro ⟨⟨window, stored, named, _, _, late, early⟩, _⟩
    rw [stays.same k window stored named] at late early
    unfold warningLead
    dsimp only [Instant, Timedelta] at *
    omega
  · rintro ⟨early, late⟩
    obtain ⟨outstanding, window, stored, named, loads, active⟩ := stays.active k early late
    have ends := stays.same k window stored named
    refine ⟨⟨window, stored, named, loads, active, ?_, ?_⟩, outstanding⟩
    · rw [ends]
      exact late
    · rw [ends]
      unfold warningLead at early
      dsimp only [Instant, Timedelta] at *
      omega

theorem run_in_first_hours (starts : warnTime first 0 ≤ windowEnd - warningLead) :
    ∃ k, windowEnd - warningLead ≤ warnTime first k ∧
      warnTime first k < windowEnd - warningLead + sixHours := by
  refine ⟨((windowEnd - warningLead - timedeltaSeconds 1800 + sixHours - 1) / sixHours -
    first).toNat, ?_⟩
  unfold warnTime warningLead sixHours seriesExpiringLeadHours at *
  dsimp only [Instant, Timedelta, timedeltaHours, timedeltaSeconds] at *
  omega

/-- However the database changes from run to run otherwise. -/
theorem series_warned_once (starts : warnTime first 0 ≤ windowEnd - warningLead)
    (unmarked : sentAt id = none) (stays : StaysOutstanding first seen id windowEnd) :
    WarnedOnce first seen sentAt id windowEnd := by
  obtain ⟨run, early, soon⟩ := run_in_first_hours starts
  have short : sixHours ≤ warningLead := by decide
  have late : warnTime first run < windowEnd := by
    dsimp only [Instant, Timedelta] at *
    omega
  obtain ⟨k, warned, order, unique⟩ := @MarkingJob.handled_once _ _ (warningJob first seen) _ _ _
    unmarked ((warnable_iff stays run).mpr ⟨early, late⟩)
  have picked := ((warningJob first seen).handles_iff _ _ _).mp warned
  refine ⟨k, warned, ((warnable_iff stays k).mp picked.1).1, ?_, unique⟩
  have monotone : warnTime first k ≤ warnTime first run := by
    unfold warnTime sixHours
    dsimp only [Instant, Timedelta, timedeltaHours, timedeltaSeconds]
    omega
  exact Int.lt_of_le_of_lt monotone soon

theorem sampleWindow_outstanding (first : Int) :
    StaysOutstanding first (fun _ => sampleWindow .individualPlusBonus false) 1 1000 where
  active _ _ _ := by decide
  same _ := by decide

theorem series_warned_once_sample :
    WarnedOnce (-10) (fun _ => sampleWindow .individualPlusBonus false) (fun _ => none) 1
      1000 :=
  series_warned_once (by decide) rfl (sampleWindow_outstanding (-10))

end Runs

/-! ## On the rows of the server -/

/-- Where no instance has a window, the job finds nothing left to do in any. -/
theorem idle_of_unlinked {db : Database} (unlinked : Unlinked db) (now : Instant)
    (sentAt : ReminderSentAt) : sendSeriesExpiring now db sentAt = ⟨[], [], sentAt⟩ := by
  unfold sendSeriesExpiring
  refine List.foldl_fixed' (fun soon => ?_) _
  refine if_pos ?_
  rintro ⟨task, stored, linked, _⟩
  rw [unlinked task stored] at linked
  cases linked

/-- In no state of a run does the job warn of anything, whenever it runs and whatever it
has sent before. -/
theorem series_never_warned (pytz : String → Option TzInfo)
    (verifyPassword : String → String → Bool) (events : List ServerEvent) :
    Always (serverStep pytz verifyPassword)
      (fun server => ∀ now sentAt,
        sendSeriesExpiring now server.world.db sentAt = ⟨[], [], sentAt⟩)
      emptyServer events :=
  (settled_always events).imp fun _ settled => idle_of_unlinked settled.unlinked

end KidsChores.Properties
