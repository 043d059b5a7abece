import Mathlib.Data.Nat.Count
import KidsChores.Library.Calendar

/-!
# Anniversaries

Year, month and day of a date, the years between two dates as a calendar counts them,
and the days between a date and its anniversaries: 365 for each year, and one for each
29th of February.
-/

set_option autoImplicit false

namespace KidsChores.Library.PyDatetime.Date

/-- `date.day`. -/
def day (date : Date) : Nat :=
  date.yearAndDay.2 + 1 - daysBeforeMonth date.yearMonth.1 date.yearMonth.2

/-- `(today.month, today.day) < (birth.month, birth.day)`. -/
def EarlierInYear (today birth : Date) : Prop :=
  today.yearMonth.2 < birth.yearMonth.2 ∨
    today.yearMonth.2 = birth.yearMonth.2 ∧ today.day < birth.day

instance (today birth : Date) : Decidable (EarlierInYear today birth) :=
  inferInstanceAs (Decidable (_ ∨ _))

/-- The years that have passed, as a calendar counts them. -/
def yearsBetween (birth today : Date) : Int :=
  (today.yearMonth.1 : Int) - birth.yearMonth.1 - if EarlierInYear today birth then 1 else 0

/-- The same month and day of a later year; the first of March for a 29th of February
that the year does not have. -/
def anniversary (birth : Date) (years : Nat) : Date :=
  ⟨((daysBeforeYear (birth.yearMonth.1 + years) +
    daysBeforeMonth (birth.yearMonth.1 + years) birth.yearMonth.2 + birth.day : Nat) : Int)⟩

/-- The leap days from a date up to its anniversary. -/
def leapDays (birth : Date) (years : Nat) : Nat :=
  Nat.count (fun n =>
    isLeap (birth.yearMonth.1 + n + if 2 < birth.yearMonth.2 then 1 else 0) = true) years

/-! ## The fields of a date -/

structure HasFields (date : Date) (year month day : Nat) : Prop where
  validYear : 1 ≤ year
  validMonth : 1 ≤ month
  twelve : month ≤ 12
  validDay : 1 ≤ day
  inMonth : day ≤ daysInMonth year month
  ordinal : date.ordinal =
    ((daysBeforeYear year + daysBeforeMonth year month + day : Nat) : Int)

section Fields

variable {date : Date} {year month day : Nat}

theorem HasFields.of_ofYmd? (valid : ofYmd? year month day = some date) :
    date.HasFields year month day := by
  unfold ofYmd? at valid
  split at valid
  · rename_i fields
    cases valid
    obtain ⟨validYear, _, validMonth, twelve, validDay, inMonth⟩ := fields
    refine ⟨validYear, validMonth, twelve, validDay, inMonth, ?_⟩
    push_cast
    rfl
  · cases valid

theorem HasFields.yearMonth_eq (fields : date.HasFields year month day) :
    date.yearMonth = (year, month) := by
  have next := @daysBeforeMonth_succ year month fields.validMonth
  have validDay := fields.validDay
  have inMonth := fields.inMonth
  have ordinal := fields.ordinal
  refine Date.yearMonth_eq (daysBeforeMonth year month + day - 1) fields.validYear
    fields.validMonth fields.twelve ?_ ?_ ?_
  · omega
  · omega
  · omega

theorem HasFields.day_eq (fields : date.HasFields year month day) : date.day = day := by
  have next := @daysBeforeMonth_succ year month fields.validMonth
  have validDay := fields.validDay
  have inMonth := fields.inMonth
  have ordinal := fields.ordinal
  have inYear : daysBeforeMonth year month + day - 1 < daysInYear year := by
    have later := daysBeforeMonth_mono year (Nat.le_add_left 1 month)
      (Nat.add_le_add_right fields.twelve 1)
    rw [show 12 + 1 = 13 from rfl, daysBeforeMonth_thirteen] at later
    omega
  have found := yearAndDay_daysBeforeYear fields.validYear inYear
  have same : date = ⟨((daysBeforeYear year + (daysBeforeMonth year month + day - 1) : Nat) :
      Int) + 1⟩ := by
    apply ordinal_inj
    dsimp only
    omega
  rw [← same] at found
  unfold Date.day
  rw [fields.yearMonth_eq, found]
  dsimp only
  omega

theorem exists_fields (since : 1 ≤ date.ordinal) :
    ∃ year month day, date.HasFields year month day := by
  obtain ⟨year, valid, sinceYear, beforeYear⟩ := exists_year (date.ordinal - 1).toNat
  rw [daysBeforeYear_succ valid, ← daysBeforeMonth_thirteen] at beforeYear
  have inYear : (date.ordinal - 1).toNat - daysBeforeYear year <
      daysBeforeMonth year (12 + 1) := by
    rw [show 12 + 1 = 13 from rfl]
    omega
  obtain ⟨month, validMonth, twelve, sinceMonth, beforeMonth⟩ := exists_month inYear
  rw [daysBeforeMonth_succ validMonth] at beforeMonth
  exact ⟨year, month, date.ordinal.toNat - daysBeforeYear year - daysBeforeMonth year month,
    valid, validMonth, twelve, by omega, by omega, by omega⟩

end Fields

/-! ## Leap days -/

theorem daysBeforeYear_add {year : Nat} (valid : 1 ≤ year) (years : Nat) :
    daysBeforeYear (year + years) = daysBeforeYear year + 365 * years +
      Nat.count (fun n => isLeap (year + n) = true) years := by
  induction years with
  | zero => simp
  | succ years ih =>
      rw [← Nat.add_assoc, daysBeforeYear_succ (Nat.le_trans valid (Nat.le_add_right _ _)), ih,
        Nat.count_succ]
      unfold daysInYear
      split <;> omega

/-- The days before a month are those of a common year, and the leap day. -/
theorem daysBeforeMonth_eq (year : Nat) {month : Nat} (twelve : month ≤ 12) :
    daysBeforeMonth year month =
      daysBeforeMonth 1 month + if 2 < month ∧ isLeap year = true then 1 else 0 := by
  have months : ∀ leap : Bool, ∀ month ≤ 12,
      ((List.range (month - 1)).map fun earlier =>
        if earlier + 1 = 2 then (if leap then 29 else 28)
        else if earlier + 1 = 4 ∨ earlier + 1 = 6 ∨ earlier + 1 = 9 ∨ earlier + 1 = 11 then 30
        else 31).sum =
      daysBeforeMonth 1 month + if 2 < month ∧ leap = true then 1 else 0 := by decide
  exact months (isLeap year) month twelve

theorem anniversary_ordinal {birth : Date} {year month day : Nat}
    (fields : birth.HasFields year month day) (years : Nat) :
    (birth.anniversary years).ordinal =
      birth.ordinal + 365 * (years : Int) + birth.leapDays years := by
  have passed := daysBeforeYear_add fields.validYear years
  have first := daysBeforeMonth_eq year fields.twelve
  have last := daysBeforeMonth_eq (year + years) fields.twelve
  have leap : Nat.count (fun n => isLeap (year + n) = true) years +
      (if 2 < month ∧ isLeap (year + years) = true then 1 else 0) =
      birth.leapDays years + if 2 < month ∧ isLeap year = true then 1 else 0 := by
    unfold leapDays
    rw [fields.yearMonth_eq]
    by_cases late : 2 < month
    · have shifted := Nat.count_succ' (fun n => isLeap (year + n) = true) years
      rw [Nat.count_succ] at shifted
      simp only [late, true_and, if_true, Nat.add_assoc]
      exact shifted
    · simp [late]
  unfold anniversary
  rw [fields.yearMonth_eq, fields.day_eq, fields.ordinal]
  dsimp only
  omega

/-! ## Before the anniversary -/

section Order

variable {birth today : Date} {year month day thisYear thisMonth thisDay : Nat}

/-- A day of a year is no later than the end of another year, the leap day included. -/
theorem HasFields.inYear (fields : birth.HasFields year month day) (other : Nat) :
    daysBeforeMonth other month + day ≤ daysInYear other := by
  have inMonth := fields.inMonth
  have next := @daysBeforeMonth_succ other month fields.validMonth
  have later := daysBeforeMonth_mono other (Nat.le_add_left 1 month)
    (Nat.add_le_add_right fields.twelve 1)
  rw [show 12 + 1 = 13 from rfl, daysBeforeMonth_thirteen] at later
  by_cases february : month = 2
  · subst february
    have january : daysBeforeMonth other 2 = 31 := rfl
    have short : daysInMonth year 2 ≤ 29 := by
      unfold daysInMonth
      split_ifs <;> omega
    unfold daysInYear
    split <;> omega
  · have same : daysInMonth year month = daysInMonth other month := by
      simp only [daysInMonth, february, if_false]
    omega

/-- Month and day compare as the days of the year do. -/
theorem HasFields.earlierInYear_iff (fields : birth.HasFields year month day)
    (now : today.HasFields thisYear thisMonth thisDay) :
    EarlierInYear today birth ↔
      daysBeforeMonth thisYear thisMonth + thisDay < daysBeforeMonth thisYear month + day := by
  unfold EarlierInYear
  rw [fields.yearMonth_eq, fields.day_eq, now.yearMonth_eq, now.day_eq]
  dsimp only
  have inMonth := fields.inMonth
  have validDay := fields.validDay
  have nowInMonth := now.inMonth
  have nowValid := now.validDay
  have next := @daysBeforeMonth_succ thisYear thisMonth now.validMonth
  have following := @daysBeforeMonth_succ thisYear month fields.validMonth
  rcases Nat.lt_trichotomy thisMonth month with earlier | same | later
  · have passed := daysBeforeMonth_mono thisYear (Nat.le_add_left 1 thisMonth) earlier
    refine iff_of_true (Or.inl earlier) ?_
    omega
  · subst same
    omega
  · have passed := daysBeforeMonth_mono thisYear (Nat.le_add_left 1 month) later
    have long : daysInMonth year month ≤ daysInMonth thisYear month + 1 := by
      unfold daysInMonth
      split_ifs <;> omega
    refine iff_of_false (by omega) ?_
    omega

/-- The years that have passed are fewer exactly before the anniversary. -/
theorem yearsBetween_lt_iff (fields : birth.HasFields year month day)
    (now : today.HasFields thisYear thisMonth thisDay) (years : Nat) :
    yearsBetween birth today < years ↔ today < birth.anniversary years := by
  have earlier := fields.earlierInYear_iff now
  have inYear := fields.inYear (year + years)
  have nowInYear := now.inYear thisYear
  have validDay := fields.validDay
  have nowValid := now.validDay
  have ordinal := now.ordinal
  unfold yearsBetween anniversary
  rw [lt_def, fields.yearMonth_eq, fields.day_eq, now.yearMonth_eq]
  dsimp only
  rcases Nat.lt_trichotomy thisYear (year + years) with before | same | after
  · have passed := daysBeforeYear_mono (Nat.le_add_left 1 thisYear) before
    rw [daysBeforeYear_succ now.validYear] at passed
    split <;> omega
  · subst same
    by_cases precedes : EarlierInYear today birth
    · have less := earlier.mp precedes
      rw [if_pos precedes]
      omega
    · have more := mt earlier.mpr precedes
      rw [if_neg precedes]
      omega
  · have passed := daysBeforeYear_mono (Nat.le_add_left 1 (year + years)) after
    rw [daysBeforeYear_succ (Nat.le_trans fields.validYear (Nat.le_add_right _ _))] at passed
    split <;> omega

end Order

end KidsChores.Library.PyDatetime.Date
