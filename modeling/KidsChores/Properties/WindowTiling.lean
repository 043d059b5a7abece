import KidsChores.Library.Calendar
import KidsChores.Routers.Series

/-!
# Windows of a series

A window lasts from the first midnight of a local week or month to that of the next one,
and every instant of the period gives the same window.  It contains them all where the
calendar shows the first date only from its midnight on, and the next one at once.
-/

set_option autoImplicit false

namespace KidsChores.Properties

open KidsChores.Models
open KidsChores.Library.PyDatetime
open KidsChores.Library.PyDatetime.Date
open KidsChores.Routers.Series
open KidsChores.Workers.GenerateInstances

variable {tz : TzInfo} {windowType : SeriesWindowType} {first next third date : Date}
  {now : Instant}

/-- The first dates of a week or a month and of the one after it. -/
def Period (windowType : SeriesWindowType) (first next : Date) : Prop :=
  match windowType with
  | .weekly => first.weekday = 0 ∧ next = first.addDays 7
  | .monthly => ∃ year month, ofYmd? year month 1 = some first ∧
      ofYmd? (monthAfter year month).1 (monthAfter year month).2 1 = some next
  | .custom => False

def InPeriod (tz : TzInfo) (first next : Date) (now : Instant) : Prop :=
  first ≤ tz.localDate now ∧ tz.localDate now < next

/-- Every instant of the period gives the same window, from the period's first midnight
on and with the instant in it, and in the next period it gives the window that starts
where this one ends. -/
def WindowTiles (tz : TzInfo) (windowType : SeriesWindowType) (first next third : Date) :
    Prop :=
  ∃ start finish last,
    tz.localize? (naiveAt first 0 0) = some start ∧
      (∀ now, InPeriod tz first next now →
        computeWindow tz now windowType = .ok (start, finish) ∧ start ≤ now ∧ now < finish) ∧
      ∀ later, InPeriod tz next third later →
        computeWindow tz later windowType = .ok (finish, last)

theorem windowDates?_weekly (monday : first.weekday = 0) (since : first ≤ date)
    (before : date < first.addDays 7) :
    windowDates? .weekly date = some (first, first.addDays 7) := by
  have start : date.addDays (-date.weekday) = first := by
    apply ordinal_inj
    rw [le_def] at since
    rw [lt_def, addDays_ordinal] at before
    rw [addDays_ordinal]
    unfold weekday at *
    omega
  unfold windowDates?
  dsimp only
  rw [start]

theorem windowDates?_monthly {year month : Nat} (opens : ofYmd? year month 1 = some first)
    (closes : ofYmd? (monthAfter year month).1 (monthAfter year month).2 1 = some next)
    (since : first ≤ date) (before : date < next) :
    windowDates? .monthly date = some (first, next) := by
  unfold windowDates?
  simp only [yearMonth_of_between opens closes since before, opens, Option.bind_eq_bind,
    Option.bind_some]
  unfold monthAfter at closes
  split
  · rename_i december
    rw [if_pos december] at closes
    rw [closes]
    rfl
  · rename_i earlier
    rw [if_neg earlier] at closes
    rw [closes]
    rfl

theorem windowDates?_of_period (period : Period windowType first next)
    (since : first ≤ date) (before : date < next) :
    windowDates? windowType date = some (first, next) := by
  cases windowType with
  | weekly =>
      obtain ⟨monday, same⟩ := period
      subst same
      exact windowDates?_weekly monday since before
  | monthly =>
      obtain ⟨year, month, opens, closes⟩ := period
      exact windowDates?_monthly opens closes since before
  | custom => exact period.elim

/-- A period is a week or longer. -/
theorem Period.long (period : Period windowType first next) : first.addDays 7 ≤ next := by
  cases windowType with
  | weekly =>
      rw [period.2]
      exact le_def.mpr (Int.le_refl _)
  | monthly =>
      obtain ⟨year, month, opens, closes⟩ := period
      exact addDays_seven_le_monthAfter opens closes
  | custom => exact period.elim

theorem computeWindow_iff (period : Period windowType first next)
    (inPeriod : InPeriod tz first next now) {start finish : Instant} :
    computeWindow tz now windowType = .ok (start, finish) ↔
      tz.localize? (naiveAt first 0 0) = some start ∧
        tz.localize? (naiveAt next 0 0) = some finish := by
  unfold computeWindow
  rw [windowDates?_of_period period inPeriod.1 inPeriod.2]
  dsimp only
  cases opens : tz.localize? (naiveAt first 0 0) with
  | none => simp
  | some midnight =>
      cases closes : tz.localize? (naiveAt next 0 0) with
      | none => simp
      | some nextMidnight => simp

theorem windowTiles_of_shows (period : Period windowType first next)
    (following : Period windowType next third) (opens : tz.ShowsNotBefore first)
    (closes : tz.ShowsFrom next) (ends : (tz.localize? (naiveAt third 0 0)).isSome) :
    WindowTiles tz windowType first next third := by
  obtain ⟨start, localized, early⟩ := opens
  obtain ⟨finish, nextLocalized, late⟩ := closes
  obtain ⟨last, thirdLocalized⟩ := Option.isSome_iff_exists.mp ends
  refine ⟨start, finish, last, localized, ?_, ?_⟩
  · intro now inPeriod
    refine ⟨(computeWindow_iff period inPeriod).mpr ⟨localized, nextLocalized⟩,
      early now inPeriod.1, ?_⟩
    by_contra past
    exact not_le.mpr inPeriod.2 (late now (Int.not_lt.mp past))
  · intro later inPeriod
    exact (computeWindow_iff following inPeriod).mpr ⟨nextLocalized, thirdLocalized⟩

/-- Two days after its first midnight a period has started on every clock. -/
theorem inPeriod_two_days (bounded : tz.Bounded) (long : first.addDays 7 ≤ next)
    {start : Instant} (opens : tz.localize? (naiveAt first 0 0) = some start) :
    InPeriod tz first next (start + 2 * microsecondsPerDay) := by
  have midnight := bounded.localized opens
  have clock := bounded.localTime (start + 2 * microsecondsPerDay)
  have apart := midnight_le_midnight.mpr long
  rw [naiveAt_addDays] at apart
  unfold InPeriod
  rw [TzInfo.le_localDate, TzInfo.localDate_lt]
  dsimp only [Instant, NaiveDatetime, Timedelta, microsecondsPerDay] at *
  omega

theorem shows_of_windowTiles (bounded : tz.Bounded) (period : Period windowType first next)
    (following : Period windowType next third)
    (tiles : WindowTiles tz windowType first next third) :
    tz.ShowsNotBefore first ∧ tz.ShowsFrom next ∧
      (tz.localize? (naiveAt third 0 0)).isSome := by
  obtain ⟨start, finish, last, opens, contained, meets⟩ := tiles
  have inFirst := inPeriod_two_days bounded period.long opens
  obtain ⟨_, closes⟩ := (computeWindow_iff period inFirst).mp (contained _ inFirst).1
  have inNext := inPeriod_two_days bounded following.long closes
  obtain ⟨_, ends⟩ := (computeWindow_iff following inNext).mp (meets _ inNext)
  have later : first.addDays 2 ≤ next := by
    have long := period.long
    rw [le_def, addDays_ordinal] at *
    omega
  refine ⟨⟨start, opens, ?_⟩, ⟨finish, closes, ?_⟩, ?_⟩
  · intro instant shown
    by_contra early
    have before := bounded.before_midnight opens later (Int.le_of_lt (Int.not_le.mp early))
    exact early (contained instant ⟨shown, before⟩).2.1
  · intro instant late
    by_contra behind
    have shown := bounded.after_midnight closes later late
    exact Int.not_lt.mpr late (contained instant ⟨shown, not_le.mp behind⟩).2.2
  · rw [ends]
    rfl

/-- Until the last month of year 9999 every date is in a week and in a month. -/
theorem exists_period (kind : windowType ≠ .custom) (since : 1 ≤ date.ordinal)
    (before : date.ordinal < 3652029) :
    ∃ first next, Period windowType first next ∧ first ≤ date ∧ date < next := by
  cases windowType with
  | weekly =>
      refine ⟨date.addDays (-date.weekday), _, ⟨?_, rfl⟩, ?_, ?_⟩
      · unfold weekday
        rw [addDays_ordinal]
        omega
      · rw [le_def, addDays_ordinal]
        omega
      · rw [lt_def, addDays_ordinal, addDays_ordinal]
        unfold weekday
        omega
  | monthly =>
      obtain ⟨year, month, first, next, opens, closes, lower, upper⟩ :=
        exists_firsts since before
      exact ⟨first, next, ⟨year, month, opens, closes⟩, lower, upper⟩
  | custom => exact absurd rfl kind

theorem windows_tile_iff (kind : windowType ≠ .custom) (bounded : tz.Bounded) :
    (∀ {first next third : Date}, Period windowType first next →
      Period windowType next third →
        (WindowTiles tz windowType first next third ↔
          tz.ShowsNotBefore first ∧ tz.ShowsFrom next ∧
            (tz.localize? (naiveAt third 0 0)).isSome)) ∧
      ∀ date : Date, 1 ≤ date.ordinal → date.ordinal < 3652029 →
        ∃ first next, Period windowType first next ∧ first ≤ date ∧ date < next := by
  constructor
  · intro first next third period following
    constructor
    · exact shows_of_windowTiles bounded period following
    · intro shows
      exact windowTiles_of_shows period following shows.1 shows.2.1 shows.2.2
  · intro date since before
    exact exists_period kind since before

/-! ## Two zones -/

theorem windows_tile_spring :
    WindowTiles TzInfo.newYork .monthly ⟨739707⟩ ⟨739737⟩ ⟨739768⟩ := by
  have april : Period .monthly ⟨739707⟩ ⟨739737⟩ := ⟨2026, 4, by decide, by decide⟩
  have may : Period .monthly ⟨739737⟩ ⟨739768⟩ := ⟨2026, 5, by decide, by decide⟩
  obtain ⟨start, opens, starts⟩ :
      TzInfo.newYork.TurnsAtMidnight ⟨739707⟩ :=
    TzInfo.withSummerTime_turns (by decide) (by decide)
  obtain ⟨finish, closes, ends⟩ :
      TzInfo.newYork.TurnsAtMidnight ⟨739737⟩ :=
    TzInfo.withSummerTime_turns (by decide) (by decide)
  exact ((windows_tile_iff (by decide) TzInfo.newYork_bounded).1 april may).mpr
    ⟨⟨start, opens, fun instant => (starts instant).mp⟩,
      ⟨finish, closes, fun instant => (ends instant).mpr⟩, by decide⟩

/-- `America/Havana` in 2026: forward on March 8 and back on November 1, both at 05:00
UTC.  On November 1 the hour after midnight is read twice. -/
def havana : TzInfo :=
  TzInfo.withSummerTime (-5) (naiveAt ⟨739683⟩ 5 0) (naiveAt ⟨739921⟩ 5 0)

/-- 2026-11-01 at 00:30, the first time. -/
def firstReading : Instant := naiveAt ⟨739921⟩ 4 30

theorem window_opens_after_firstReading :
    ofYmd? 2026 11 1 = some (havana.localDate firstReading) ∧
      ∃ start finish, computeWindow havana firstReading .monthly = .ok (start, finish) ∧
        firstReading < start := by
  refine ⟨by decide, naiveAt ⟨739921⟩ 5 0, naiveAt ⟨739951⟩ 5 0, ?_, by decide⟩
  have november : Period .monthly ⟨739921⟩ ⟨739951⟩ := ⟨2026, 11, by decide, by decide⟩
  exact (computeWindow_iff november ⟨by decide, by decide⟩).mpr ⟨by decide, by decide⟩

end KidsChores.Properties
