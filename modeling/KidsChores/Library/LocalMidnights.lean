import KidsChores.Library.PyDatetime

/-!
# Midnights of a time zone

When the calendar of a zone turns to a date, and the instants of a stretch of local
dates.  Offsets may change at any instant and in either direction, so a calendar can
show a date twice, and it need not turn at the midnight that `localize` gives.
-/

set_option autoImplicit false

namespace KidsChores.Library.PyDatetime

/-! ## Dates on the local clock -/

namespace Date

@[simp] theorem addDays_ordinal (date : Date) (days : Int) :
    (date.addDays days).ordinal = date.ordinal + days := rfl

theorem le_def {first second : Date} : first ≤ second ↔ first.ordinal ≤ second.ordinal :=
  Iff.rfl

theorem lt_def {first second : Date} : first < second ↔ first.ordinal < second.ordinal :=
  Iff.rfl

theorem ordinal_inj {first second : Date} (same : first.ordinal = second.ordinal) :
    first = second := by
  cases first
  cases second
  subst same
  rfl

theorem addDays_addDays (date : Date) (days more : Int) :
    (date.addDays days).addDays more = date.addDays (days + more) := by
  apply ordinal_inj
  simp only [addDays_ordinal]
  omega

theorem not_le {first second : Date} : ¬ first ≤ second ↔ second < first := by
  rw [le_def, lt_def]
  omega

theorem not_lt {first second : Date} : ¬ first < second ↔ second ≤ first := by
  rw [le_def, lt_def]
  omega

theorem lt_addDays_one (date : Date) : date < date.addDays 1 := by
  rw [lt_def, addDays_ordinal]
  omega

theorem eq_iff_between {first second : Date} :
    first = second ↔ second ≤ first ∧ first < second.addDays 1 := by
  rw [le_def, lt_def, addDays_ordinal]
  constructor
  · intro same
    subst same
    omega
  · intro between
    apply ordinal_inj
    omega

end Date

theorem naiveAt_midnight (date : Date) :
    naiveAt date 0 0 = (date.ordinal - epochOrdinal) * microsecondsPerDay := by
  simp [naiveAt, timedeltaSeconds]

theorem naiveAt_addDays (date : Date) (days : Int) :
    naiveAt (date.addDays days) 0 0 = naiveAt date 0 0 + days * microsecondsPerDay := by
  rw [naiveAt_midnight, naiveAt_midnight, ← Int.add_mul]
  congr 1
  simp only [Date.addDays_ordinal]
  omega

theorem le_naiveDate {date : Date} {local_ : NaiveDatetime} :
    date ≤ naiveDate local_ ↔ naiveAt date 0 0 ≤ local_ := by
  have bound := Int.le_ediv_iff_mul_le (a := date.ordinal - epochOrdinal) (b := local_)
    (show 0 < microsecondsPerDay by decide)
  rw [naiveAt_midnight, ← bound]
  change date.ordinal ≤ epochOrdinal + local_ / microsecondsPerDay ↔ _
  omega

theorem naiveDate_lt {date : Date} {local_ : NaiveDatetime} :
    naiveDate local_ < date ↔ local_ < naiveAt date 0 0 := by
  rw [← Date.not_le, le_naiveDate]
  exact Int.not_le

theorem midnight_le_midnight {first second : Date} :
    naiveAt first 0 0 ≤ naiveAt second 0 0 ↔ first ≤ second := by
  rw [naiveAt_midnight, naiveAt_midnight, Date.le_def]
  dsimp only [NaiveDatetime, microsecondsPerDay]
  omega

namespace TzInfo

variable {tz : TzInfo} {first next date : Date} {start finish instant : Instant}

theorem le_localDate : date ≤ tz.localDate instant ↔ naiveAt date 0 0 ≤ tz.localTime instant :=
  le_naiveDate

theorem localDate_lt : tz.localDate instant < date ↔ tz.localTime instant < naiveAt date 0 0 :=
  naiveDate_lt

/-! ## Where the calendar turns -/

/-- The calendar shows the date or a later one from the instant on, and never before. -/
def TurnsAt (tz : TzInfo) (date : Date) (turn : Instant) : Prop :=
  ∀ instant, date ≤ tz.localDate instant ↔ turn ≤ instant

/-- The calendar turns to the date at the midnight that `localize` gives. -/
def TurnsAtMidnight (tz : TzInfo) (date : Date) : Prop :=
  ∃ midnight, tz.localize? (naiveAt date 0 0) = some midnight ∧ tz.TurnsAt date midnight

/-- The calendar shows the date only from the midnight on that `localize` gives. -/
def ShowsNotBefore (tz : TzInfo) (date : Date) : Prop :=
  ∃ midnight, tz.localize? (naiveAt date 0 0) = some midnight ∧
    ∀ instant, date ≤ tz.localDate instant → midnight ≤ instant

/-- From the midnight on that `localize` gives, the calendar shows the date or a later
one. -/
def ShowsFrom (tz : TzInfo) (date : Date) : Prop :=
  ∃ midnight, tz.localize? (naiveAt date 0 0) = some midnight ∧
    ∀ instant, midnight ≤ instant → date ≤ tz.localDate instant

theorem TurnsAt.before (turns : tz.TurnsAt date start) :
    tz.localDate instant < date ↔ instant < start := by
  rw [← Date.not_le, turns instant]
  exact Int.not_le

theorem TurnsAt.unique {other : Instant} (turns : tz.TurnsAt date start)
    (again : tz.TurnsAt date other) : start = other :=
  Int.le_antisymm ((turns other).mp ((again other).mpr (Int.le_refl other)))
    ((again start).mp ((turns start).mpr (Int.le_refl start)))

/-- Between two turns the calendar shows the dates from the first to the second. -/
theorem between_of_turns (opens : tz.TurnsAt first start) (closes : tz.TurnsAt next finish) :
    start ≤ instant ∧ instant < finish ↔
      first ≤ tz.localDate instant ∧ tz.localDate instant < next := by
  rw [opens instant, closes.before]

/-! ## Offsets of less than a day -/

/-- What `datetime` asks of every offset: `-24h < offset < 24h`. -/
structure Bounded (tz : TzInfo) : Prop where
  utcOffset : ∀ instant, -microsecondsPerDay < tz.utcOffset instant ∧
    tz.utcOffset instant < microsecondsPerDay
  localizeOffset : ∀ naive, ∀ offset ∈ tz.localizeOffset naive,
    -microsecondsPerDay < offset ∧ offset < microsecondsPerDay

theorem Bounded.localized (bounded : tz.Bounded) {naive : NaiveDatetime}
    (localized : tz.localize? naive = some instant) :
    naive - microsecondsPerDay < instant ∧ instant < naive + microsecondsPerDay := by
  unfold localize? at localized
  cases attached : tz.localizeOffset naive with
  | none => simp [attached] at localized
  | some offset =>
      have small := bounded.localizeOffset naive offset attached
      simp only [attached, Option.map_some, Option.some.injEq] at localized
      dsimp only [Instant, NaiveDatetime, Timedelta] at *
      omega

theorem Bounded.localTime (bounded : tz.Bounded) (instant : Instant) :
    instant - microsecondsPerDay < tz.localTime instant ∧
      tz.localTime instant < instant + microsecondsPerDay := by
  have small := bounded.utcOffset instant
  unfold TzInfo.localTime
  dsimp only [Instant, NaiveDatetime, Timedelta] at *
  omega

/-- Before a localized midnight the calendar is at most two days ahead of it. -/
theorem Bounded.before_midnight (bounded : tz.Bounded)
    (localized : tz.localize? (naiveAt first 0 0) = some start)
    (later : first.addDays 2 ≤ next) (early : instant ≤ start) :
    tz.localDate instant < next := by
  have opens := bounded.localized localized
  have clock := bounded.localTime instant
  have apart := midnight_le_midnight.mpr later
  rw [naiveAt_addDays] at apart
  rw [localDate_lt]
  dsimp only [Instant, NaiveDatetime, Timedelta] at *
  omega

/-- From a localized midnight on the calendar is at most two days behind it. -/
theorem Bounded.after_midnight (bounded : tz.Bounded)
    (localized : tz.localize? (naiveAt next 0 0) = some finish)
    (later : first.addDays 2 ≤ next) (late : finish ≤ instant) :
    first ≤ tz.localDate instant := by
  have closes := bounded.localized localized
  have clock := bounded.localTime instant
  have apart := midnight_le_midnight.mpr later
  rw [naiveAt_addDays] at apart
  rw [le_localDate]
  dsimp only [Instant, NaiveDatetime, Timedelta] at *
  omega

/-- An interval between localized midnights that holds just the dates between them starts
and ends where the calendar turns. -/
theorem Bounded.turns_of_between (bounded : tz.Bounded)
    (opens : tz.localize? (naiveAt first 0 0) = some start)
    (closes : tz.localize? (naiveAt next 0 0) = some finish)
    (later : first.addDays 2 ≤ next)
    (between : ∀ instant, start ≤ instant ∧ instant < finish ↔
      first ≤ tz.localDate instant ∧ tz.localDate instant < next) :
    tz.TurnsAt first start ∧ tz.TurnsAt next finish := by
  constructor
  · intro instant
    constructor
    · intro shown
      by_contra early
      have ahead := bounded.before_midnight opens later
        (Int.le_of_lt (Int.not_le.mp early))
      exact early ((between instant).mpr ⟨shown, ahead⟩).1
    · intro late
      by_cases inside : instant < finish
      · exact ((between instant).mp ⟨late, inside⟩).1
      · exact bounded.after_midnight closes later (Int.not_lt.mp inside)
  · intro instant
    constructor
    · intro shown
      by_contra early
      have early := Int.not_le.mp early
      by_cases inside : start ≤ instant
      · exact Date.not_le.mpr ((between instant).mp ⟨inside, early⟩).2 shown
      · have ahead := bounded.before_midnight opens later
          (Int.le_of_lt (Int.not_le.mp inside))
        exact Date.not_le.mpr ahead shown
    · intro late
      by_contra behind
      have shown := bounded.after_midnight closes later late
      have inside := (between instant).mpr ⟨shown, Date.not_le.mp behind⟩
      exact Int.not_lt.mpr late inside.2

/-! ## A zone with summer time -/

/-- The clocks go forward by an hour at the first instant and back at the second; a local
time that is skipped or read twice gets the standard offset. -/
def withSummerTime (standard : Int) (forward back : Instant) : TzInfo where
  utcOffset instant :=
    if forward ≤ instant ∧ instant < back then timedeltaHours (standard + 1)
    else timedeltaHours standard
  localizeOffset naive :=
    if forward + timedeltaHours (standard + 1) ≤ naive ∧
        naive < back + timedeltaHours standard then
      some (timedeltaHours (standard + 1))
    else some (timedeltaHours standard)

theorem withSummerTime_bounded {standard : Int} {forward back : Instant}
    (east : -24 < standard) (west : standard < 23) :
    (withSummerTime standard forward back).Bounded := by
  have small (hours : Int) (least : -24 < hours) (most : hours < 24) :
      -microsecondsPerDay < timedeltaHours hours ∧
        timedeltaHours hours < microsecondsPerDay := by
    dsimp only [timedeltaHours, timedeltaSeconds, microsecondsPerDay, Timedelta]
    omega
  constructor
  · intro instant
    unfold withSummerTime
    dsimp only
    split
    · exact small _ (by omega) (by omega)
    · exact small _ (by omega) (by omega)
  · intro naive offset attached
    unfold withSummerTime at attached
    dsimp only at attached
    split at attached
    · cases attached
      exact small _ (by omega) (by omega)
    · cases attached
      exact small _ (by omega) (by omega)

theorem timedeltaHours_succ (hours : Int) :
    timedeltaHours (hours + 1) = timedeltaHours hours + 3600000000 := by
  dsimp only [timedeltaHours, timedeltaSeconds, Timedelta]
  omega

section Summer

variable {standard : Int} {forward back : Instant}
  (since : forward + timedeltaHours (standard + 1) ≤ naiveAt date 0 0)
  (before : naiveAt date 0 0 < back + timedeltaHours standard)
include since before

/-- During summer time the calendar turns at the midnights of summer time. -/
theorem withSummerTime_turnsAt :
    (withSummerTime standard forward back).TurnsAt date
      (naiveAt date 0 0 - timedeltaHours (standard + 1)) := by
  intro instant
  rw [le_localDate]
  have hour := timedeltaHours_succ standard
  unfold localTime withSummerTime
  dsimp only [Instant, NaiveDatetime, Timedelta] at *
  split
  · omega
  · omega

theorem withSummerTime_turns :
    (withSummerTime standard forward back).TurnsAtMidnight date := by
  refine ⟨naiveAt date 0 0 - timedeltaHours (standard + 1), ?_,
    withSummerTime_turnsAt since before⟩
  unfold localize? withSummerTime
  dsimp only
  rw [if_pos ⟨since, before⟩]
  rfl

end Summer

/-- `America/New_York` in 2026: forward on March 8 at 07:00 UTC, back on November 1
at 06:00 UTC. -/
def newYork : TzInfo :=
  withSummerTime (-5) (naiveAt ⟨739683⟩ 7 0) (naiveAt ⟨739921⟩ 6 0)

theorem newYork_bounded : newYork.Bounded :=
  withSummerTime_bounded (by decide) (by decide)

end TzInfo

end KidsChores.Library.PyDatetime
