import KidsChores.Properties.TodayView

/-!
# Week views

A week view starts at the local midnight of its date and lasts seven times twenty-four
hours.  Consecutive views tile the calendar where both midnights have one offset and the
calendar turns at them.
-/

set_option autoImplicit false

namespace KidsChores.Properties

open KidsChores.Models
open KidsChores.Library.PyDatetime
open KidsChores.Routers.Definitions
open KidsChores.Routers.Listings

variable {pytz : String → Option TzInfo} {household : Household} {tz : TzInfo}
  {text next : String} {date : Date} {start finish : Instant}

/-- The view holds exactly the instances due on its seven dates, and the next view starts
where it ends. -/
def WeekTiles (pytz : String → Option TzInfo) (household : Household) (tz : TzInfo)
    (text next : String) (date : Date) : Prop :=
  ∃ start meet finish,
    weekBounds pytz text household = .ok (start, meet) ∧
      weekBounds pytz next household = .ok (meet, finish) ∧
      ∀ task : TaskInstance, start ≤ task.dueAt ∧ task.dueAt < meet ↔
        date ≤ tz.localDate task.dueAt ∧ tz.localDate task.dueAt ≤ date.addDays 6

/-- Both midnights get one offset, the calendar turns at both, and the week after the
next one starts by `date.max`. -/
def EvenWeek (tz : TzInfo) (date : Date) : Prop :=
  tz.localizeOffset (naiveAt date 0 0) = tz.localizeOffset (naiveAt (date.addDays 7) 0 0) ∧
    tz.TurnsAtMidnight date ∧ tz.TurnsAtMidnight (date.addDays 7) ∧
    date.ordinal + 14 ≤ maxOrdinal

def InWeek (pytz : String → Option TzInfo) (household : Household) (text : String)
    (task : TaskInstance) : Prop :=
  ∃ bounds, weekBounds pytz text household = .ok bounds ∧
    bounds.1 ≤ task.dueAt ∧ task.dueAt < bounds.2

theorem weekBounds_iff (known : pytz household.timezone = some tz)
    (parsed : strptimeDate? text = some date) :
    weekBounds pytz text household = .ok (start, finish) ↔
      tz.localize? (naiveAt date 0 0) = some start ∧
        date.ordinal + 7 ≤ maxOrdinal ∧ finish = start + 7 * microsecondsPerDay := by
  unfold weekBounds timezone
  simp only [known, parsed, bind, Except.bind]
  cases localized : tz.localize? (naiveAt date 0 0) with
  | none => simp
  | some midnight =>
      dsimp only
      split
      · rename_i early
        simp only [Except.ok.injEq, Prod.mk.injEq, Option.some.injEq]
        constructor
        · intro bounds
          obtain ⟨opens, closes⟩ := bounds
          subst opens
          exact ⟨rfl, early, closes.symm⟩
        · intro bounds
          obtain ⟨opens, _, closes⟩ := bounds
          subst opens
          exact ⟨rfl, closes.symm⟩
      · rename_i late
        simp [late]

/-- Two midnights a week apart have one offset just when the second is 168 hours after
the first. -/
theorem localize?_week (opens : tz.localize? (naiveAt date 0 0) = some start) :
    tz.localize? (naiveAt (date.addDays 7) 0 0) = some (start + 7 * microsecondsPerDay) ↔
      tz.localizeOffset (naiveAt date 0 0) =
        tz.localizeOffset (naiveAt (date.addDays 7) 0 0) := by
  unfold TzInfo.localize? at opens ⊢
  rw [naiveAt_addDays]
  cases first : tz.localizeOffset (naiveAt date 0 0) with
  | none => simp [first] at opens
  | some offset =>
      simp only [first, Option.map_some, Option.some.injEq] at opens
      cases second : tz.localizeOffset (naiveAt date 0 0 + 7 * microsecondsPerDay) with
      | none => simp
      | some other =>
          simp only [Option.map_some, Option.some.injEq]
          dsimp only [Instant, NaiveDatetime, Timedelta] at *
          omega

theorem lt_addDays_seven {shown : Date} :
    shown ≤ date.addDays 6 ↔ shown < date.addDays 7 := by
  rw [Date.le_def, Date.lt_def, Date.addDays_ordinal, Date.addDays_ordinal]
  omega

theorem weekTiles_of_even (known : pytz household.timezone = some tz)
    (parsed : strptimeDate? text = some date)
    (follows : strptimeDate? next = some (date.addDays 7)) (even : EvenWeek tz date) :
    WeekTiles pytz household tz text next date := by
  obtain ⟨sameOffset, ⟨start, opens, turns⟩, ⟨meet, closes, turnsNext⟩, early⟩ := even
  have meets := (localize?_week opens).mpr sameOffset
  have same : meet = start + 7 * microsecondsPerDay := by
    rw [meets] at closes
    cases closes
    rfl
  subst same
  refine ⟨start, _, _, (weekBounds_iff known parsed).mpr ⟨opens, by omega, rfl⟩,
    (weekBounds_iff known follows).mpr ⟨meets, ?_, rfl⟩, ?_⟩
  · rw [Date.addDays_ordinal]
    omega
  · intro task
    rw [lt_addDays_seven]
    exact TzInfo.between_of_turns turns turnsNext

theorem even_of_weekTiles (known : pytz household.timezone = some tz)
    (bounded : tz.Bounded) (parsed : strptimeDate? text = some date)
    (follows : strptimeDate? next = some (date.addDays 7))
    (tiles : WeekTiles pytz household tz text next date) : EvenWeek tz date := by
  obtain ⟨start, meet, finish, bounds, nextBounds, exact⟩ := tiles
  obtain ⟨opens, _, lasts⟩ := (weekBounds_iff known parsed).mp bounds
  obtain ⟨closes, early, _⟩ := (weekBounds_iff known follows).mp nextBounds
  have between : ∀ instant, start ≤ instant ∧ instant < meet ↔
      date ≤ tz.localDate instant ∧ tz.localDate instant < date.addDays 7 := by
    intro instant
    rw [← lt_addDays_seven]
    exact exact { sampleTask with dueAt := instant }
  have later : date.addDays 2 ≤ date.addDays 7 := by
    rw [Date.le_def, Date.addDays_ordinal, Date.addDays_ordinal]
    omega
  obtain ⟨turns, turnsNext⟩ := bounded.turns_of_between opens closes later between
  refine ⟨?_, ⟨start, opens, turns⟩, ⟨meet, closes, turnsNext⟩, ?_⟩
  · rw [← localize?_week opens, closes, lasts]
  · rw [Date.addDays_ordinal] at early
    omega

/-! ## Consecutive weeks -/

theorem inWeek_iff {task : TaskInstance}
    (tiles : WeekTiles pytz household tz text next date) :
    InWeek pytz household text task ↔
      date ≤ tz.localDate task.dueAt ∧ tz.localDate task.dueAt ≤ date.addDays 6 := by
  obtain ⟨start, meet, finish, returned, _, exact⟩ := tiles
  rw [← exact task]
  unfold InWeek
  rw [returned]
  constructor
  · intro inside
    obtain ⟨bounds, same, inside⟩ := inside
    cases same
    exact inside
  · intro inside
    exact ⟨_, rfl, inside⟩

/-- An instance due within even weeks is in exactly one of their views. -/
theorem existsUnique_week (known : pytz household.timezone = some tz) {weeks : Nat → String}
    {count : Nat}
    (parsed : ∀ k, k ≤ count → strptimeDate? (weeks k) = some (date.addDays (7 * k)))
    (even : ∀ k, k < count → EvenWeek tz (date.addDays (7 * k))) {task : TaskInstance}
    (since : date ≤ tz.localDate task.dueAt)
    (before : tz.localDate task.dueAt < date.addDays (7 * count)) :
    ∃! k, k < count ∧ InWeek pytz household (weeks k) task := by
  have inWeek : ∀ k, k < count → (InWeek pytz household (weeks k) task ↔
      date.ordinal + 7 * k ≤ (tz.localDate task.dueAt).ordinal ∧
        (tz.localDate task.dueAt).ordinal ≤ date.ordinal + 7 * k + 6) := by
    intro k earlier
    have follows := parsed (k + 1) earlier
    rw [show (7 * ((k + 1 : Nat) : Int)) = 7 * k + 7 by omega,
      ← Date.addDays_addDays] at follows
    exact inWeek_iff (weekTiles_of_even known (parsed k (Nat.le_of_lt earlier)) follows
      (even k earlier))
  rw [Date.le_def] at since
  rw [Date.lt_def, Date.addDays_ordinal] at before
  have found : (((tz.localDate task.dueAt).ordinal - date.ordinal) / 7).toNat < count := by
    omega
  refine ⟨_, ⟨found, (inWeek _ found).mpr (by omega)⟩, ?_⟩
  intro k other
  have inside := (inWeek k other.1).mp other.2
  omega

theorem week_views_tile_iff (known : pytz household.timezone = some tz)
    (bounded : tz.Bounded) :
    (∀ {text next : String} {date : Date}, strptimeDate? text = some date →
      strptimeDate? next = some (date.addDays 7) →
        (WeekTiles pytz household tz text next date ↔ EvenWeek tz date)) ∧
      ∀ {weeks : Nat → String} {count : Nat} {date : Date},
        (∀ k, k ≤ count → strptimeDate? (weeks k) = some (date.addDays (7 * k))) →
          (∀ k, k < count → EvenWeek tz (date.addDays (7 * k))) →
            ∀ task : TaskInstance, date ≤ tz.localDate task.dueAt →
              tz.localDate task.dueAt < date.addDays (7 * count) →
                ∃! k, k < count ∧ InWeek pytz household (weeks k) task := by
  constructor
  · intro text next date parsed follows
    exact ⟨even_of_weekTiles known bounded parsed follows,
      weekTiles_of_even known parsed follows⟩
  · intro weeks count date parsed even task since before
    exact existsUnique_week known parsed even since before

/-- 2026-03-09, the Monday after the clocks went forward. -/
def secondMonday : Date := ⟨739684⟩

/-- Due on that Monday at 00:30. -/
def earlyChore : TaskInstance := { sampleTask with dueAt := naiveAt secondMonday 4 30 }

def marchWeeks (k : Nat) : String := if k = 0 then "2026-03-09" else "2026-03-16"

theorem week_views_tile_march :
    WeekTiles newYorkOnly newYorkHousehold TzInfo.newYork "2026-03-09" "2026-03-16"
        secondMonday ∧
      ∀ task : TaskInstance, secondMonday ≤ TzInfo.newYork.localDate task.dueAt →
        TzInfo.newYork.localDate task.dueAt < secondMonday.addDays 7 →
          ∃! k, k < 1 ∧ InWeek newYorkOnly newYorkHousehold (marchWeeks k) task := by
  have even : EvenWeek TzInfo.newYork secondMonday :=
    ⟨by decide, TzInfo.withSummerTime_turns (by decide) (by decide),
      TzInfo.withSummerTime_turns (by decide) (by decide), by decide⟩
  have known : newYorkOnly newYorkHousehold.timezone = some TzInfo.newYork := rfl
  have views := week_views_tile_iff known TzInfo.newYork_bounded
  constructor
  · exact (views.1 (by decide) (by decide)).mpr even
  · have weeks : ∀ k : Nat, k ≤ 1 →
        strptimeDate? (marchWeeks k) = some (secondMonday.addDays (7 * k)) := by decide
    have evens : ∀ k : Nat, k < 1 →
        EvenWeek TzInfo.newYork (secondMonday.addDays (7 * k)) := by
      intro k first
      cases k with
      | zero => exact even
      | succ k => omega
    exact views.2 weeks evens

theorem earlyChore_in_two_weeks :
    strptimeDate? "2026-03-09" = (strptimeDate? "2026-03-02").map (·.addDays 7) ∧
      InWeek newYorkOnly newYorkHousehold "2026-03-02" earlyChore ∧
      InWeek newYorkOnly newYorkHousehold "2026-03-09" earlyChore ∧
      TzInfo.newYork.localDate earlyChore.dueAt = secondMonday := by
  have first : strptimeDate? "2026-03-02" = some ⟨739677⟩ := by decide
  have second : strptimeDate? "2026-03-09" = some secondMonday := by decide
  refine ⟨by decide, ?_, ?_, by decide⟩
  · exact ⟨_, (weekBounds_iff rfl first).mpr ⟨rfl, by decide, rfl⟩, by decide, by decide⟩
  · exact ⟨_, (weekBounds_iff rfl second).mpr ⟨rfl, by decide, rfl⟩, by decide, by decide⟩

end KidsChores.Properties
