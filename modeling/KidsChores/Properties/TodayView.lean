import KidsChores.Library.LocalMidnights
import KidsChores.Routers.Listings

/-!
# The household's today

The bounds of the today view are wall-clock midnights under the offset in force now.
They are the local day when the calendar turns to today and to tomorrow at midnights of
that offset.
-/

set_option autoImplicit false

namespace KidsChores.Properties

open KidsChores.Models
open KidsChores.Library.PyDatetime
open KidsChores.Routers.Definitions
open KidsChores.Routers.Listings

variable {pytz : String → Option TzInfo} {household : Household} {tz : TzInfo}
  {now instant : Instant}

/-- The view holds exactly the instances that are due on the household's local date. -/
def ShowsToday (pytz : String → Option TzInfo) (household : Household) (tz : TzInfo)
    (now : Instant) : Prop :=
  ∃ start finish, todayBounds pytz household now = .ok (start, finish) ∧
    ∀ task : TaskInstance, start ≤ task.dueAt ∧ task.dueAt < finish ↔
      tz.localDate task.dueAt = tz.localDate now

/-- The calendar turns to the date when a clock with that offset reads its midnight. -/
def TurnsUnder (tz : TzInfo) (offset : Timedelta) (date : Date) : Prop :=
  ∃ turn, tz.TurnsAt date turn ∧ turn + offset = naiveAt date 0 0

/-- Today and tomorrow both begin under the offset in force now. -/
structure EvenDay (tz : TzInfo) (now : Instant) : Prop where
  today : TurnsUnder tz (tz.utcOffset now) (tz.localDate now)
  tomorrow : TurnsUnder tz (tz.utcOffset now) ((tz.localDate now).addDays 1)

/-- No offset of these days is more than a day away from the one in force now. -/
def ChangesByADay (tz : TzInfo) (now : Instant) : Prop :=
  ∀ moment, now - 3 * microsecondsPerDay ≤ moment → moment ≤ now + 3 * microsecondsPerDay →
    tz.utcOffset moment ≤ tz.utcOffset now + microsecondsPerDay ∧
      tz.utcOffset now ≤ tz.utcOffset moment + microsecondsPerDay

theorem todayBounds_eq (known : pytz household.timezone = some tz) :
    todayBounds pytz household now =
      .ok (naiveAt (tz.localDate now) 0 0 - tz.utcOffset now,
        naiveAt ((tz.localDate now).addDays 1) 0 0 - tz.utcOffset now) := by
  have later : naiveAt ((tz.localDate now).addDays 1) 0 0 - tz.utcOffset now =
      naiveAt (tz.localDate now) 0 0 - tz.utcOffset now + microsecondsPerDay := by
    rw [naiveAt_addDays]
    dsimp only [NaiveDatetime, Timedelta]
    omega
  rw [later]
  unfold todayBounds timezone
  rw [known]
  rfl

theorem showsToday_iff (known : pytz household.timezone = some tz) :
    ShowsToday pytz household tz now ↔ ∀ instant,
      naiveAt (tz.localDate now) 0 0 - tz.utcOffset now ≤ instant ∧
          instant < naiveAt ((tz.localDate now).addDays 1) 0 0 - tz.utcOffset now ↔
        tz.localDate instant = tz.localDate now := by
  constructor
  · intro shows moment
    obtain ⟨start, finish, bounds, exact⟩ := shows
    rw [todayBounds_eq known] at bounds
    cases bounds
    exact exact { sampleTask with dueAt := moment }
  · intro exact
    exact ⟨_, _, todayBounds_eq known, fun task => exact task.dueAt⟩

theorem shows_of_even (known : pytz household.timezone = some tz) (even : EvenDay tz now) :
    ShowsToday pytz household tz now := by
  obtain ⟨⟨opens, turns, reads⟩, ⟨closes, turnsNext, readsNext⟩⟩ := even
  rw [showsToday_iff known]
  intro instant
  have starts : naiveAt (tz.localDate now) 0 0 - tz.utcOffset now = opens := by
    rw [← reads]
    exact Int.add_sub_cancel opens (tz.utcOffset now)
  have ends : naiveAt ((tz.localDate now).addDays 1) 0 0 - tz.utcOffset now = closes := by
    rw [← readsNext]
    exact Int.add_sub_cancel closes (tz.utcOffset now)
  rw [starts, ends, TzInfo.between_of_turns turns turnsNext, ← Date.eq_iff_between]

section Shown

variable (bounded : tz.Bounded) (near : ChangesByADay tz now)
include bounded near

/-- Before today's midnight under the offset in force now no clock shows tomorrow. -/
theorem localDate_before (early : instant < naiveAt (tz.localDate now) 0 0 - tz.utcOffset now) :
    tz.localDate instant < (tz.localDate now).addDays 1 := by
  have apart := naiveAt_addDays (tz.localDate now) 1
  have started := TzInfo.le_localDate.mp (Int.le_refl (tz.localDate now).ordinal)
  have ends := TzInfo.localDate_lt.mp (tz.localDate now).lt_addDays_one
  have offsetNow := bounded.utcOffset now
  have offsetThen := bounded.utcOffset instant
  have change := near instant
  rw [TzInfo.localDate_lt]
  unfold TzInfo.localTime at *
  dsimp only [Instant, NaiveDatetime, Timedelta, microsecondsPerDay] at *
  omega

theorem localDate_after
    (late : naiveAt ((tz.localDate now).addDays 1) 0 0 - tz.utcOffset now ≤ instant) :
    tz.localDate now ≤ tz.localDate instant := by
  have apart := naiveAt_addDays (tz.localDate now) 1
  have started := TzInfo.le_localDate.mp (Int.le_refl (tz.localDate now).ordinal)
  have ends := TzInfo.localDate_lt.mp (tz.localDate now).lt_addDays_one
  have offsetNow := bounded.utcOffset now
  have offsetThen := bounded.utcOffset instant
  have change := near instant
  rw [TzInfo.le_localDate]
  unfold TzInfo.localTime at *
  dsimp only [Instant, NaiveDatetime, Timedelta, microsecondsPerDay] at *
  omega

theorem even_of_shows (known : pytz household.timezone = some tz)
    (shows : ShowsToday pytz household tz now) : EvenDay tz now := by
  have exact := (showsToday_iff known).mp shows
  constructor
  · refine ⟨_, fun instant => ⟨fun shown => ?_, fun late => ?_⟩, Int.sub_add_cancel _ _⟩
    · by_contra early
      have ahead := localDate_before bounded near (Int.not_le.mp early)
      exact early ((exact instant).mpr (Date.eq_iff_between.mpr ⟨shown, ahead⟩)).1
    · by_cases inside : instant <
          naiveAt ((tz.localDate now).addDays 1) 0 0 - tz.utcOffset now
      · exact (Date.eq_iff_between.mp ((exact instant).mp ⟨late, inside⟩)).1
      · exact localDate_after bounded near (Int.not_lt.mp inside)
  · refine ⟨_, fun instant => ⟨fun shown => ?_, fun late => ?_⟩, Int.sub_add_cancel _ _⟩
    · by_contra early
      by_cases inside : naiveAt (tz.localDate now) 0 0 - tz.utcOffset now ≤ instant
      · have today := (exact instant).mp ⟨inside, Int.not_le.mp early⟩
        exact Date.not_le.mpr (Date.eq_iff_between.mp today).2 shown
      · exact Date.not_le.mpr (localDate_before bounded near (Int.not_le.mp inside)) shown
    · by_contra behind
      have today := Date.eq_iff_between.mpr
        ⟨localDate_after bounded near late, Date.not_le.mp behind⟩
      exact Int.not_lt.mpr late ((exact instant).mpr today).2

end Shown

theorem turnsUnder_iff {date : Date} {turn : Instant} {offset : Timedelta}
    (turns : tz.TurnsAt date turn) (reads : tz.localTime turn = naiveAt date 0 0) :
    TurnsUnder tz offset date ↔ tz.utcOffset turn = offset := by
  unfold TzInfo.localTime at reads
  constructor
  · rintro ⟨other, turnsToo, under⟩
    cases turns.unique turnsToo
    exact Int.add_left_cancel (reads.trans under.symm)
  · rintro rfl
    exact ⟨turn, turns, reads⟩

/-- Where the offset does not change within three days of now, the view is the local
day. -/
theorem shows_of_unchanged (known : pytz household.timezone = some tz)
    (bounded : tz.Bounded)
    (unchanged : ∀ moment, now - 3 * microsecondsPerDay ≤ moment →
      moment ≤ now + 3 * microsecondsPerDay → tz.utcOffset moment = tz.utcOffset now) :
    ShowsToday pytz household tz now := by
  rw [showsToday_iff known]
  intro moment
  have apart := naiveAt_addDays (tz.localDate now) 1
  have started := TzInfo.le_localDate.mp (Int.le_refl (tz.localDate now).ordinal)
  have ends := TzInfo.localDate_lt.mp (tz.localDate now).lt_addDays_one
  have offsetNow := bounded.utcOffset now
  have offsetThen := bounded.utcOffset moment
  have same := unchanged moment
  rw [Date.eq_iff_between, TzInfo.le_localDate, TzInfo.localDate_lt]
  unfold TzInfo.localTime at *
  dsimp only [Instant, NaiveDatetime, Timedelta, microsecondsPerDay] at *
  omega

/-- The view is today exactly if the calendar turns to today and to tomorrow at midnights
under the offset in force now: where it turns at midnights, if the offset is the same at
both.  It is today where the offset does not change. -/
theorem today_exact_iff (known : pytz household.timezone = some tz) (bounded : tz.Bounded)
    (near : ChangesByADay tz now) :
    (ShowsToday pytz household tz now ↔ EvenDay tz now) ∧
      (∀ opens closes, tz.TurnsAt (tz.localDate now) opens →
        tz.localTime opens = naiveAt (tz.localDate now) 0 0 →
        tz.TurnsAt ((tz.localDate now).addDays 1) closes →
        tz.localTime closes = naiveAt ((tz.localDate now).addDays 1) 0 0 →
        (ShowsToday pytz household tz now ↔ tz.utcOffset opens = tz.utcOffset now ∧
          tz.utcOffset closes = tz.utcOffset now)) ∧
      ((∀ moment, now - 3 * microsecondsPerDay ≤ moment →
          moment ≤ now + 3 * microsecondsPerDay → tz.utcOffset moment = tz.utcOffset now) →
        ShowsToday pytz household tz now) := by
  have exact : ShowsToday pytz household tz now ↔ EvenDay tz now :=
    ⟨even_of_shows bounded near known, shows_of_even known⟩
  refine ⟨exact, ?_, shows_of_unchanged known bounded⟩
  intro opens closes turns reads turnsNext readsNext
  rw [exact, ← turnsUnder_iff turns reads, ← turnsUnder_iff turnsNext readsNext]
  exact ⟨fun even => ⟨even.today, even.tomorrow⟩, fun both => ⟨both.1, both.2⟩⟩

/-! ## Days of New York -/

def newYorkOnly (name : String) : Option TzInfo :=
  if name = "America/New_York" then some TzInfo.newYork else none

def newYorkHousehold : Household :=
  { sampleHousehold with timezone := "America/New_York" }

/-- 2026-03-08, noon in summer time. -/
def changedNoon : Instant := naiveAt ⟨739683⟩ 16 0

/-- Due on 2026-03-07 at 23:30, before the change. -/
def lateChore : TaskInstance := { sampleTask with dueAt := naiveAt ⟨739683⟩ 4 30 }

/-- 2026-06-01, noon. -/
def juneNoon : Instant := naiveAt ⟨739768⟩ 16 0

theorem newYork_changesByADay (now : Instant) : ChangesByADay TzInfo.newYork now := by
  intro moment _ _
  unfold TzInfo.newYork TzInfo.withSummerTime
  dsimp only
  split <;> split <;> decide

theorem newYork_june (moment : Instant) (since : juneNoon - 3 * microsecondsPerDay ≤ moment)
    (before : moment ≤ juneNoon + 3 * microsecondsPerDay) :
    TzInfo.newYork.utcOffset moment = TzInfo.newYork.utcOffset juneNoon := by
  have forward : naiveAt ⟨739683⟩ 7 0 ≤ juneNoon - 3 * microsecondsPerDay := by decide
  have back : juneNoon + 3 * microsecondsPerDay < naiveAt ⟨739921⟩ 6 0 := by decide
  have summer : naiveAt ⟨739683⟩ 7 0 ≤ moment ∧ moment < naiveAt ⟨739921⟩ 6 0 :=
    ⟨Int.le_trans forward since, Int.lt_of_le_of_lt before back⟩
  unfold TzInfo.newYork TzInfo.withSummerTime
  dsimp only
  rw [if_pos summer]
  decide

/-- A day in summer time from midnight to midnight. -/
theorem today_exact_newYork :
    ShowsToday newYorkOnly newYorkHousehold TzInfo.newYork juneNoon ∧
      EvenDay TzInfo.newYork juneNoon := by
  have settled := @today_exact_iff newYorkOnly newYorkHousehold TzInfo.newYork juneNoon rfl
    TzInfo.newYork_bounded (newYork_changesByADay juneNoon)
  have shows := (settled.2.1 _ _ (TzInfo.withSummerTime_turnsAt (by decide) (by decide))
    (by decide) (TzInfo.withSummerTime_turnsAt (by decide) (by decide)) (by decide)).mpr
      ⟨by decide, by decide⟩
  exact ⟨shows, settled.1.mp (settled.2.2 newYork_june)⟩

theorem lateChore_shown_again :
    (∃ start finish, todayBounds newYorkOnly newYorkHousehold changedNoon =
        .ok (start, finish) ∧ start ≤ lateChore.dueAt ∧ lateChore.dueAt < finish) ∧
      TzInfo.newYork.localDate lateChore.dueAt ≠ TzInfo.newYork.localDate changedNoon := by
  constructor
  · exact ⟨_, _, todayBounds_eq rfl, by decide, by decide⟩
  · decide

end KidsChores.Properties
