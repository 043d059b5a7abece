import KidsChores.Library.Weekdays
import KidsChores.Workers.GenerateInstances

/-!
# How often a definition recurs

The dates that `should_generate_for_date` selects: how many of a week, which weekdays,
and none outside the dates of the definition.
-/

set_option autoImplicit false

namespace KidsChores.Properties

open KidsChores.Models
open KidsChores.Library
open KidsChores.Library.PyDatetime
open KidsChores.Library.PyText
open KidsChores.Workers.GenerateInstances

/-- The dates of a definition, as far as they are read; an end date that is null or
empty is absent. -/
structure Dated (defn : TaskDefinition) (start : Date) (finish : Option Date) : Prop where
  starts : strptimeDate? defn.startDate = some start
  finishes : (if truthy defn.endDate then
    (strptimeDate? (defn.endDate.getD "")).map some else some none) = some finish

def InSeason (start : Date) (finish : Option Date) (date : Date) : Prop :=
  start ≤ date ∧ ∀ last ∈ finish, date ≤ last

instance (start : Date) (finish : Option Date) (date : Date) :
    Decidable (InSeason start finish date) :=
  inferInstanceAs (Decidable (_ ∧ _))

def WeekInSeason (start : Date) (finish : Option Date) (first : Date) : Prop :=
  ∀ n : Nat, n < 7 → InSeason start finish (first.addDays n)

def Occurs (defn : TaskDefinition) (date : Date) : Prop :=
  shouldGenerateForDate defn date = .ok true

instance (defn : TaskDefinition) (date : Date) : Decidable (Occurs defn date) :=
  inferInstanceAs (Decidable (shouldGenerateForDate defn date = .ok true))

/-- `weekday_mask` has the bit; a null mask has none. -/
def MaskBit (defn : TaskDefinition) (bit : Nat) : Prop :=
  ∃ mask ∈ defn.weekdayMask, mask.testBit bit = true

instance (defn : TaskDefinition) (bit : Nat) : Decidable (MaskBit defn bit) :=
  inferInstanceAs (Decidable (∃ mask ∈ defn.weekdayMask, mask.testBit bit = true))

def weekCount (defn : TaskDefinition) (first : Date) : Nat :=
  Nat.count (fun n => Occurs defn (first.addDays n)) 7

structure Density (defn : TaskDefinition) (start : Date) (finish : Option Date) :
    Prop where
  returns : ∀ date, ∃ occurs, shouldGenerateForDate defn date = .ok occurs
  daily : defn.scheduleType = .daily → ∀ first,
    WeekInSeason start finish first → weekCount defn first = 7
  weekly : defn.scheduleType = .weekly → ∀ first,
    WeekInSeason start finish first → weekCount defn first = 1
  weekdays : defn.scheduleType = .weekdays → ∀ first,
    WeekInSeason start finish first → weekCount defn first = Nat.count (MaskBit defn) 7
  /-- Bit 0 selects the Mondays, bit 6 the Sundays. -/
  selected : defn.scheduleType = .weekdays → ∀ date, InSeason start finish date →
    (Occurs defn date ↔ MaskBit defn date.weekday)
  once : defn.scheduleType = .oneTime → (∀ last ∈ finish, start ≤ last) →
    ∃! date, Occurs defn date
  never : defn.scheduleType = .oneTime → ¬ (∀ last ∈ finish, start ≤ last) →
    ∀ date, ¬ Occurs defn date
  outside : ∀ date, ¬ InSeason start finish date → ¬ Occurs defn date

/-! ## One date -/

section Dates

variable {defn : TaskDefinition} {start : Date} {finish : Option Date} {date : Date}

theorem shouldGenerateForDate_eq (dated : Dated defn start finish) (date : Date) :
    shouldGenerateForDate defn date =
      .ok (decide (InSeason start finish date) && onSchedule defn start date) := by
  obtain ⟨starts, finishes⟩ := dated
  unfold shouldGenerateForDate InSeason
  rw [starts]
  dsimp only
  by_cases early : date < start
  · have before : ¬ start ≤ date := Date.not_le.mpr early
    simp [early, before]
  · have since : start ≤ date := Date.not_lt.mp early
    rw [if_neg early]
    by_cases ends : truthy defn.endDate = true
    · rw [if_pos ends] at finishes ⊢
      obtain ⟨last, reads, rfl⟩ := Option.map_eq_some_iff.mp finishes
      rw [reads]
      dsimp only
      by_cases late : last < date
      · have after : ¬ date ≤ last := Date.not_le.mpr late
        simp [late, after]
      · have until_ : date ≤ last := Date.not_lt.mp late
        simp [late, since, until_]
    · rw [if_neg ends] at finishes ⊢
      cases finishes
      simp [since]

theorem occurs_iff (dated : Dated defn start finish) :
    Occurs defn date ↔ InSeason start finish date ∧ onSchedule defn start date = true := by
  unfold Occurs
  rw [shouldGenerateForDate_eq dated]
  simp

/-- Within the season the schedule alone decides, on every weekday of a week. -/
theorem weekCount_eq (dated : Dated defn start finish) {chosen : Nat → Prop}
    [DecidablePred chosen]
    (schedule : ∀ date, onSchedule defn start date = true ↔ chosen date.weekday)
    {first : Date} (season : WeekInSeason start finish first) :
    weekCount defn first = Nat.count chosen 7 := by
  have same : ∀ n : Nat, n < 7 → (Occurs defn (first.addDays n) ↔
      chosen (first.addDays n).weekday) := by
    intro n inWeek
    rw [occurs_iff dated, schedule]
    exact and_iff_right (season n inWeek)
  rw [← Date.count_week chosen first]
  apply Nat.le_antisymm
  · exact Nat.count_mono_left fun n inWeek => (same n inWeek).mp
  · exact Nat.count_mono_left fun n inWeek => (same n inWeek).mpr

theorem onSchedule_weekdays (weekdays : defn.scheduleType = .weekdays) :
    onSchedule defn start date = true ↔ MaskBit defn date.weekday := by
  unfold onSchedule MaskBit
  rw [weekdays]
  cases defn.weekdayMask with
  | none => simp
  | some mask => simp

theorem onSchedule_daily (daily : defn.scheduleType = .daily) :
    onSchedule defn start date = true := by
  unfold onSchedule
  rw [daily]

theorem onSchedule_oneTime (oneTime : defn.scheduleType = .oneTime) :
    onSchedule defn start date = true ↔ date = start := by
  unfold onSchedule
  rw [oneTime]
  simp

theorem onSchedule_weekly (weekly : defn.scheduleType = .weekly) :
    onSchedule defn start date = true ↔ date.weekday = start.weekday := by
  unfold onSchedule
  rw [weekly]
  simp

/-! ## Seven dates in a row -/

theorem weekCount_daily (dated : Dated defn start finish)
    (daily : defn.scheduleType = .daily) {first : Date}
    (season : WeekInSeason start finish first) :
    weekCount defn first = 7 := by
  have every : ∀ date, onSchedule defn start date = true ↔ True :=
    fun date => iff_of_true (onSchedule_daily daily) trivial
  rw [@weekCount_eq _ _ _ dated (fun _ => True) _ every _ season]
  exact Nat.count_true 7

/-- The weekday of the start is one of the seven. -/
theorem weekCount_weekly (dated : Dated defn start finish)
    (weekly : defn.scheduleType = .weekly) {first : Date}
    (season : WeekInSeason start finish first) :
    weekCount defn first = 1 := by
  have one : ∀ day < 7, Nat.count (· = day) 7 = 1 := by decide
  rw [@weekCount_eq _ _ _ dated (· = start.weekday) _
    (fun date => onSchedule_weekly weekly) _ season]
  exact one start.weekday start.weekday_lt

/-! ## Once -/

theorem occurs_oneTime (dated : Dated defn start finish)
    (oneTime : defn.scheduleType = .oneTime) :
    Occurs defn date ↔ date = start ∧ ∀ last ∈ finish, start ≤ last := by
  rw [occurs_iff dated, onSchedule_oneTime oneTime]
  constructor
  · rintro ⟨⟨_, until_⟩, rfl⟩
    exact ⟨rfl, until_⟩
  · rintro ⟨rfl, until_⟩
    exact ⟨⟨Int.le_refl date.ordinal, until_⟩, rfl⟩

/-- Every week within the dates of a daily definition has seven occurrences, of a weekly
one has one, and of one with a mask as many as the mask has bits; a definition for once
occurs once, and none occurs outside its dates. -/
theorem recurrence_density (defn : TaskDefinition) (start : Date) (finish : Option Date)
    (dated : Dated defn start finish) : Density defn start finish := by
  constructor
  · exact fun date => ⟨_, shouldGenerateForDate_eq dated date⟩
  · exact fun daily first season => weekCount_daily dated daily season
  · exact fun weekly first season => weekCount_weekly dated weekly season
  · exact fun weekdays first season =>
      weekCount_eq dated (fun date => onSchedule_weekdays weekdays) season
  · intro weekdays date season
    rw [occurs_iff dated, onSchedule_weekdays weekdays]
    exact and_iff_right season
  · intro oneTime until_
    exact ⟨start, (occurs_oneTime dated oneTime).mpr ⟨rfl, until_⟩,
      fun date occurs => ((occurs_oneTime dated oneTime).mp occurs).1⟩
  · intro oneTime ends date occurs
    exact ends ((occurs_oneTime dated oneTime).mp occurs).2
  · exact fun date away occurs => away ((occurs_iff dated).mp occurs).1

end Dates

/-- Mondays, Wednesdays and Fridays of 2024 and the year after. -/
def thriceWeekly : TaskDefinition :=
  { sampleDefinition with
    scheduleType := .weekdays
    weekdayMask := some 21
    startDate := "2024-01-01"
    endDate := some "2025-12-31" }

/-- The week from 26 February 2024, a leap year, to 3 March. -/
theorem three_in_leap_week :
    Dated thriceWeekly ⟨738886⟩ (some ⟨739616⟩) ∧ weekCount thriceWeekly ⟨738942⟩ = 3 := by
  have dated : Dated thriceWeekly ⟨738886⟩ (some ⟨739616⟩) :=
    ⟨by decide +kernel, by decide +kernel⟩
  have season : WeekInSeason ⟨738886⟩ (some ⟨739616⟩) ⟨738942⟩ := by
    unfold WeekInSeason
    decide
  refine ⟨dated, ?_⟩
  rw [(recurrence_density thriceWeekly ⟨738886⟩ (some ⟨739616⟩) dated).weekdays rfl _ season]
  decide

end KidsChores.Properties
