import KidsChores.Library.LocalMidnights

/-!
# The Gregorian calendar

`date.year` and `date.month` of the dates between the firsts of two months.  A year is
written through its centuries, four-year cycles and the rest, which is how the ordinal
is divided.
-/

set_option autoImplicit false

namespace KidsChores.Library.PyDatetime.Date

/-! ## Years -/

def daysInYear (year : Nat) : Nat := if isLeap year then 366 else 365

/-- A leap year is the fourth of its cycle, unless the cycle is the last of a century
that is not the fourth. -/
theorem isLeap_iff (n400 : Nat) {n100 n4 n1 : Nat} (centuries : n100 < 4)
    (cycles : n4 < 25) (years : n1 < 4) :
    isLeap (400 * n400 + 100 * n100 + 4 * n4 + n1 + 1) = true ↔
      n1 = 3 ∧ (n4 ≠ 24 ∨ n100 = 3) := by
  unfold isLeap
  simp only [Bool.and_eq_true, Bool.or_eq_true, beq_iff_eq, bne_iff_ne, ne_eq]
  omega

theorem daysBeforeYear_eq (n400 : Nat) {n100 n4 n1 : Nat} (centuries : n100 < 4)
    (cycles : n4 < 25) (years : n1 < 4) :
    daysBeforeYear (400 * n400 + 100 * n100 + 4 * n4 + n1 + 1) =
      146097 * n400 + 36524 * n100 + 1461 * n4 + 365 * n1 := by
  unfold daysBeforeYear
  dsimp only
  omega

/-- The steps of the division, the two that go one too far included. -/
theorem yearAndDay_eq (n : Nat) :
    yearAndDay ⟨(n : Int) + 1⟩ =
      if n % 146097 % 36524 % 1461 / 365 = 4 ∨ n % 146097 / 36524 = 4 then
        (n / 146097 * 400 + 1 + n % 146097 / 36524 * 100 +
            n % 146097 % 36524 / 1461 * 4 + n % 146097 % 36524 % 1461 / 365 - 1,
          364 + if isLeap (n / 146097 * 400 + 1 + n % 146097 / 36524 * 100 +
            n % 146097 % 36524 / 1461 * 4 + n % 146097 % 36524 % 1461 / 365 - 1) then 1
            else 0)
      else
        (n / 146097 * 400 + 1 + n % 146097 / 36524 * 100 +
            n % 146097 % 36524 / 1461 * 4 + n % 146097 % 36524 % 1461 / 365,
          n % 146097 % 36524 % 1461 % 365) := by
  have passed : ((n : Int) + 1 - 1).toNat = n := by omega
  unfold yearAndDay
  dsimp only
  rw [passed]

theorem yearAndDay_cycles {n400 n100 n4 n1 day : Nat} (centuries : n100 < 4)
    (cycles : n4 < 25) (years : n1 < 4)
    (inYear : day < daysInYear (400 * n400 + 100 * n100 + 4 * n4 + n1 + 1)) :
    yearAndDay
        ⟨((146097 * n400 + 36524 * n100 + 1461 * n4 + 365 * n1 + day : Nat) : Int) + 1⟩ =
      (400 * n400 + 100 * n100 + 4 * n4 + n1 + 1, day) := by
  have leap := isLeap_iff n400 centuries cycles years
  generalize isLeapYear : 400 * n400 + 100 * n100 + 4 * n4 + n1 + 1 = year at leap inYear
  have short : day < 365 ∨ day = 365 ∧ n1 = 3 ∧ (n4 ≠ 24 ∨ n100 = 3) := by
    unfold daysInYear at inYear
    split at inYear
    · rename_i leapYear
      have last := leap.mp leapYear
      omega
    · omega
  generalize passed : 146097 * n400 + 36524 * n100 + 1461 * n4 + 365 * n1 + day = n
  have q400 : n / 146097 = n400 := by omega
  have r400 : n % 146097 = 36524 * n100 + 1461 * n4 + 365 * n1 + day := by omega
  rw [yearAndDay_eq, q400, r400]
  by_cases last : day = 365 ∧ n4 = 24
  · -- the last day of four centuries: the division by a century yields four
    have rest : 36524 * n100 + 1461 * n4 + 365 * n1 + day = 146096 := by omega
    have isLast : n400 * 400 + 1 + 4 * 100 + 0 * 4 + 0 - 1 = year := by omega
    have leapYear : isLeap year = true := leap.mpr (by omega)
    have q100 : 146096 / 36524 = 4 := by decide
    have r100 : 146096 % 36524 = 0 := by decide
    rw [rest, q100, r100, if_pos (Or.inr rfl), isLast, if_pos leapYear, last.1]
  · have q100 : (36524 * n100 + 1461 * n4 + 365 * n1 + day) / 36524 = n100 := by omega
    have r100 : (36524 * n100 + 1461 * n4 + 365 * n1 + day) % 36524 =
        1461 * n4 + 365 * n1 + day := by omega
    have q4 : (1461 * n4 + 365 * n1 + day) / 1461 = n4 := by omega
    have r4 : (1461 * n4 + 365 * n1 + day) % 1461 = 365 * n1 + day := by omega
    rw [q100, r100, q4, r4]
    by_cases leapDay : day = 365
    · -- the last day of four years: the division by a year yields four
      have rest : (365 * n1 + day) / 365 = 4 := by omega
      have isLast : n400 * 400 + 1 + n100 * 100 + n4 * 4 + 4 - 1 = year := by omega
      have leapYear : isLeap year = true := leap.mpr (by omega)
      rw [rest, if_pos (Or.inl rfl), isLast, if_pos leapYear, leapDay]
    · have q1 : (365 * n1 + day) / 365 = n1 := by omega
      have r1 : (365 * n1 + day) % 365 = day := by omega
      have same : n400 * 400 + 1 + n100 * 100 + n4 * 4 + n1 = year := by omega
      rw [q1, r1, if_neg (by omega), same]

theorem exists_cycles {year : Nat} (valid : 1 ≤ year) :
    ∃ n400 n100 n4 n1, n100 < 4 ∧ n4 < 25 ∧ n1 < 4 ∧
      year = 400 * n400 + 100 * n100 + 4 * n4 + n1 + 1 :=
  ⟨(year - 1) / 400, (year - 1) % 400 / 100, (year - 1) % 100 / 4, (year - 1) % 4,
    by omega, by omega, by omega, by omega⟩

theorem yearAndDay_daysBeforeYear {year day : Nat} (valid : 1 ≤ year)
    (inYear : day < daysInYear year) :
    yearAndDay ⟨((daysBeforeYear year + day : Nat) : Int) + 1⟩ = (year, day) := by
  obtain ⟨n400, n100, n4, n1, centuries, cycles, years, split⟩ := exists_cycles valid
  subst split
  rw [daysBeforeYear_eq n400 centuries cycles years]
  exact yearAndDay_cycles centuries cycles years inYear

theorem isLeap_eq (year : Nat) :
    isLeap year = decide (year % 4 = 0 ∧ (year % 100 ≠ 0 ∨ year % 400 = 0)) := by
  rw [Bool.eq_iff_iff]
  unfold isLeap
  simp only [Bool.and_eq_true, Bool.or_eq_true, beq_iff_eq, bne_iff_ne, decide_eq_true_eq]

theorem daysBeforeYear_succ {year : Nat} (valid : 1 ≤ year) :
    daysBeforeYear (year + 1) = daysBeforeYear year + daysInYear year := by
  obtain ⟨passed, rfl⟩ : ∃ passed, year = passed + 1 := ⟨year - 1, by omega⟩
  have fours : (passed + 1) / 4 = passed / 4 + if (passed + 1) % 4 = 0 then 1 else 0 := by
    split <;> omega
  have centuries :
      (passed + 1) / 100 = passed / 100 + if (passed + 1) % 100 = 0 then 1 else 0 := by
    split <;> omega
  have last : (passed + 1) / 400 = passed / 400 + if (passed + 1) % 400 = 0 then 1 else 0 := by
    split <;> omega
  have century : (passed + 1) % 100 = 0 → (passed + 1) % 4 = 0 := by omega
  have fourth : (passed + 1) % 400 = 0 → (passed + 1) % 100 = 0 := by omega
  have enough : passed / 100 ≤ passed := Nat.div_le_self _ _
  unfold daysBeforeYear daysInYear
  rw [isLeap_eq]
  dsimp only
  rw [Nat.add_sub_cancel, Nat.add_sub_cancel, fours, centuries, last]
  generalize passed / 4 = fours at *
  generalize passed / 100 = centuries at *
  generalize passed / 400 = last at *
  generalize (passed + 1) % 4 = four at *
  generalize (passed + 1) % 100 = hundred at *
  generalize (passed + 1) % 400 = fourHundred at *
  simp only [decide_eq_true_eq]
  split_ifs <;> omega

/-! ## Months -/

theorem daysBeforeMonth_succ {year month : Nat} (valid : 1 ≤ month) :
    daysBeforeMonth year (month + 1) = daysBeforeMonth year month + daysInMonth year month := by
  obtain ⟨earlier, rfl⟩ : ∃ earlier, month = earlier + 1 := ⟨month - 1, by omega⟩
  unfold daysBeforeMonth
  rw [Nat.add_sub_cancel, Nat.add_sub_cancel, List.range_succ, List.map_append,
    List.sum_append]
  simp

theorem daysBeforeMonth_mono (year : Nat) {first second : Nat} (valid : 1 ≤ first)
    (later : first ≤ second) : daysBeforeMonth year first ≤ daysBeforeMonth year second := by
  induction later with
  | refl => exact Nat.le_refl _
  | step later ih =>
      rw [daysBeforeMonth_succ (Nat.le_trans valid later)]
      omega

theorem daysBeforeMonth_thirteen (year : Nat) :
    daysBeforeMonth year 13 = daysInYear year := by
  unfold daysBeforeMonth daysInMonth daysInYear
  cases isLeap year with
  | true => decide
  | false => decide

/-- The months that have started by a day of the year. -/
theorem months_started {year month day : Nat} (twelve : month ≤ 12)
    (since : daysBeforeMonth year month ≤ day)
    (before : day < daysBeforeMonth year (month + 1)) :
    ((List.range 12).filter fun earlier =>
      daysBeforeMonth year (earlier + 1) ≤ day).length = month := by
  have started : ((List.range 12).filter fun earlier =>
      daysBeforeMonth year (earlier + 1) ≤ day) =
        (List.range 12).filter fun earlier => earlier < month := by
    apply List.filter_congr
    intro earlier _
    rw [decide_eq_decide]
    constructor
    · intro started
      by_contra later
      have passed := daysBeforeMonth_mono year (Nat.le_add_left 1 month)
        (show month + 1 ≤ earlier + 1 by omega)
      omega
    · intro earlierMonth
      have passed := daysBeforeMonth_mono year (Nat.le_add_left 1 earlier) earlierMonth
      omega
  have count : ∀ month ≤ 12, ((List.range 12).filter (· < month)).length = month := by decide
  rw [started, count month twelve]

theorem yearMonth_eq {date : Date} {year month : Nat} (day : Nat) (valid : 1 ≤ year)
    (validMonth : 1 ≤ month) (twelve : month ≤ 12)
    (since : daysBeforeMonth year month ≤ day)
    (before : day < daysBeforeMonth year (month + 1))
    (ordinal : date.ordinal = ((daysBeforeYear year + day : Nat) : Int) + 1) :
    date.yearMonth = (year, month) := by
  have inYear : day < daysInYear year := by
    rw [← daysBeforeMonth_thirteen]
    have last := daysBeforeMonth_mono year (Nat.le_add_left 1 month)
      (show month + 1 ≤ 13 by omega)
    omega
  have found := yearAndDay_daysBeforeYear valid inYear
  rw [← ordinal] at found
  unfold yearMonth
  rw [found]
  dsimp only
  rw [months_started twelve since before]

/-! ## From the first of a month to the first of the next -/

/-- The year and the month that follow. -/
def monthAfter (year month : Nat) : Nat × Nat :=
  if month = 12 then (year + 1, 1) else (year, month + 1)

theorem ofYmd?_first {year month : Nat} {date : Date}
    (first : ofYmd? year month 1 = some date) :
    1 ≤ year ∧ 1 ≤ month ∧ month ≤ 12 ∧
      date.ordinal = ((daysBeforeYear year + daysBeforeMonth year month : Nat) : Int) + 1 := by
  unfold ofYmd? at first
  split at first
  · rename_i valid
    cases first
    refine ⟨valid.1, valid.2.2.1, valid.2.2.2.1, ?_⟩
    push_cast
    rfl
  · cases first

theorem ofYmd?_some {year month : Nat} (valid : 1 ≤ year ∧ year ≤ 9999)
    (validMonth : 1 ≤ month ∧ month ≤ 12) : ∃ date, ofYmd? year month 1 = some date := by
  have long : 1 ≤ daysInMonth year month := by
    unfold daysInMonth
    split_ifs <;> omega
  unfold ofYmd?
  rw [if_pos ⟨valid.1, valid.2, validMonth.1, validMonth.2, Nat.le_refl 1, long⟩]
  exact ⟨_, rfl⟩

theorem monthAfter_ordinal {year month : Nat} {first next : Date}
    (opens : ofYmd? year month 1 = some first)
    (closes : ofYmd? (monthAfter year month).1 (monthAfter year month).2 1 = some next) :
    next.ordinal =
      ((daysBeforeYear year + daysBeforeMonth year (month + 1) : Nat) : Int) + 1 := by
  obtain ⟨valid, _, _, _⟩ := ofYmd?_first opens
  obtain ⟨_, _, _, nextOrdinal⟩ := ofYmd?_first closes
  rw [nextOrdinal]
  unfold monthAfter
  split
  · rename_i december
    subst december
    rw [daysBeforeYear_succ valid, daysBeforeMonth_thirteen]
    rfl
  · rfl

/-- A month is longer than a week. -/
theorem addDays_seven_le_monthAfter {year month : Nat} {first next : Date}
    (opens : ofYmd? year month 1 = some first)
    (closes : ofYmd? (monthAfter year month).1 (monthAfter year month).2 1 = some next) :
    first.addDays 7 ≤ next := by
  obtain ⟨_, validMonth, _, firstOrdinal⟩ := ofYmd?_first opens
  have nextOrdinal := monthAfter_ordinal opens closes
  rw [daysBeforeMonth_succ validMonth] at nextOrdinal
  have long : 28 ≤ daysInMonth year month := by
    unfold daysInMonth
    split_ifs <;> omega
  rw [le_def, addDays_ordinal]
  omega

theorem yearMonth_of_between {year month : Nat} {first next date : Date}
    (opens : ofYmd? year month 1 = some first)
    (closes : ofYmd? (monthAfter year month).1 (monthAfter year month).2 1 = some next)
    (since : first ≤ date) (before : date < next) : date.yearMonth = (year, month) := by
  obtain ⟨valid, validMonth, twelve, firstOrdinal⟩ := ofYmd?_first opens
  have nextOrdinal := monthAfter_ordinal opens closes
  rw [le_def] at since
  rw [lt_def] at before
  refine yearMonth_eq (date.ordinal - 1 - daysBeforeYear year).toNat valid validMonth
    twelve ?_ ?_ ?_
  · omega
  · omega
  · omega

/-! ## Every date is in a month -/

theorem exists_year (passed : Nat) :
    ∃ year, 1 ≤ year ∧ daysBeforeYear year ≤ passed ∧ passed < daysBeforeYear (year + 1) := by
  induction passed with
  | zero => exact ⟨1, by decide⟩
  | succ passed ih =>
      obtain ⟨year, valid, since, before⟩ := ih
      by_cases same : passed + 1 < daysBeforeYear (year + 1)
      · exact ⟨year, valid, by omega, same⟩
      · have long : 365 ≤ daysInYear (year + 1) := by
          unfold daysInYear
          split <;> omega
        have next := daysBeforeYear_succ (Nat.le_add_left 1 year)
        exact ⟨year + 1, by omega, by omega, by omega⟩

theorem exists_month {year day months : Nat}
    (before : day < daysBeforeMonth year (months + 1)) :
    ∃ month, 1 ≤ month ∧ month ≤ months ∧ daysBeforeMonth year month ≤ day ∧
      day < daysBeforeMonth year (month + 1) := by
  induction months with
  | zero =>
      have none_ : daysBeforeMonth year (0 + 1) = 0 := rfl
      omega
  | succ months ih =>
      by_cases earlier : day < daysBeforeMonth year (months + 1)
      · obtain ⟨month, valid, most, since, until_⟩ := ih earlier
        exact ⟨month, valid, by omega, since, until_⟩
      · exact ⟨months + 1, by omega, by omega, by omega, before⟩

theorem daysBeforeYear_mono {first second : Nat} (valid : 1 ≤ first)
    (later : first ≤ second) : daysBeforeYear first ≤ daysBeforeYear second := by
  induction later with
  | refl => exact Nat.le_refl _
  | step later ih =>
      rw [daysBeforeYear_succ (Nat.le_trans valid later)]
      omega

/-- The month of a date, as the firsts that it lies between. -/
theorem exists_firsts {date : Date} (since : 1 ≤ date.ordinal)
    (before : date.ordinal < 3652029) :
    ∃ year month first next, ofYmd? year month 1 = some first ∧
      ofYmd? (monthAfter year month).1 (monthAfter year month).2 1 = some next ∧
      first ≤ date ∧ date < next := by
  obtain ⟨year, valid, sinceYear, beforeYear⟩ := exists_year (date.ordinal - 1).toNat
  rw [daysBeforeYear_succ valid, ← daysBeforeMonth_thirteen] at beforeYear
  have inYear : (date.ordinal - 1).toNat - daysBeforeYear year <
      daysBeforeMonth year (12 + 1) := by
    rw [show 12 + 1 = 13 from rfl]
    omega
  obtain ⟨month, validMonth, twelve, sinceMonth, beforeMonth⟩ := exists_month inYear
  have early : year < 10000 := by
    by_contra late
    have passed := daysBeforeYear_mono (show 1 ≤ 10000 by decide) (Nat.not_lt.mp late)
    have all : daysBeforeYear 10000 = 3652059 := by decide
    omega
  have earlyMonth : year = 9999 → month < 12 := by
    intro last
    subst last
    by_contra late
    have december : month = 12 := by omega
    subst december
    have passed : daysBeforeYear 9999 + daysBeforeMonth 9999 12 = 3652028 := by decide
    omega
  obtain ⟨first, opens⟩ : ∃ first, ofYmd? year month 1 = some first :=
    ofYmd?_some ⟨valid, by omega⟩ ⟨validMonth, twelve⟩
  have following : 1 ≤ (monthAfter year month).1 ∧ (monthAfter year month).1 ≤ 9999 ∧
      1 ≤ (monthAfter year month).2 ∧ (monthAfter year month).2 ≤ 12 := by
    unfold monthAfter
    split
    · dsimp only
      omega
    · dsimp only
      omega
  obtain ⟨next, closes⟩ :
      ∃ next, ofYmd? (monthAfter year month).1 (monthAfter year month).2 1 = some next :=
    ofYmd?_some ⟨following.1, following.2.1⟩ ⟨following.2.2.1, following.2.2.2⟩
  obtain ⟨_, _, _, firstOrdinal⟩ := ofYmd?_first opens
  have nextOrdinal := monthAfter_ordinal opens closes
  refine ⟨year, month, first, next, opens, closes, ?_, ?_⟩
  · rw [le_def]
    omega
  · rw [lt_def]
    omega

end KidsChores.Library.PyDatetime.Date
