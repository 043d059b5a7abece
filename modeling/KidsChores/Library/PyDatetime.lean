import Mathlib.Data.Int.Bitwise
import KidsChores.Library.PyText

/-!
# Python dates, instants and time zones

`date` as its proleptic Gregorian ordinal, `datetime` as a count of microseconds
since 1970 (aware values in UTC, naive values on the local clock), `strptime`
for ISO dates, and a time zone as the offsets it attaches.  A zone is a
parameter: nothing is assumed of it here.
-/

set_option autoImplicit false

namespace KidsChores.Library.PyDatetime

open KidsChores.Library.PyText

abbrev Instant := Int
abbrev NaiveDatetime := Int
abbrev Timedelta := Int

/-- `timedelta(seconds=n)`. -/
def timedeltaSeconds (n : Int) : Timedelta := n * 1000000

/-- `timedelta(hours=n)`. -/
def timedeltaHours (n : Int) : Timedelta := timedeltaSeconds (n * 3600)

/-! ## Dates -/

structure Date where
  ordinal : Int
  deriving DecidableEq, Repr

namespace Date

instance : LE Date := ⟨fun first second => first.ordinal ≤ second.ordinal⟩
instance : LT Date := ⟨fun first second => first.ordinal < second.ordinal⟩

instance (first second : Date) : Decidable (first ≤ second) :=
  inferInstanceAs (Decidable (first.ordinal ≤ second.ordinal))

instance (first second : Date) : Decidable (first < second) :=
  inferInstanceAs (Decidable (first.ordinal < second.ordinal))

/-- `date + timedelta(days=n)`. -/
def addDays (date : Date) (days : Int) : Date := ⟨date.ordinal + days⟩

/-- `date.weekday()`: Monday is 0. -/
def weekday (date : Date) : Nat := ((date.ordinal + 6) % 7).toNat

def isLeap (year : Nat) : Bool :=
  year % 4 == 0 && (year % 100 != 0 || year % 400 == 0)

def daysBeforeYear (year : Nat) : Nat :=
  let earlier := year - 1
  earlier * 365 + earlier / 4 - earlier / 100 + earlier / 400

def daysInMonth (year month : Nat) : Nat :=
  if month = 2 then (if isLeap year then 29 else 28)
  else if month = 4 ∨ month = 6 ∨ month = 9 ∨ month = 11 then 30
  else 31

def daysBeforeMonth (year month : Nat) : Nat :=
  ((List.range (month - 1)).map fun earlier => daysInMonth year (earlier + 1)).sum

/-- `date(year, month, day)`; `none` is `ValueError`. -/
def ofYmd? (year month day : Nat) : Option Date :=
  if 1 ≤ year ∧ year ≤ 9999 ∧ 1 ≤ month ∧ month ≤ 12 ∧
      1 ≤ day ∧ day ≤ daysInMonth year month then
    some ⟨daysBeforeYear year + daysBeforeMonth year month + day⟩
  else none

/-- The year of a date and the days of it that have passed. -/
def yearAndDay (date : Date) : Nat × Nat :=
  let n := (date.ordinal - 1).toNat
  let n400 := n / 146097
  let n := n % 146097
  let n100 := n / 36524
  let n := n % 36524
  let n4 := n / 1461
  let n := n % 1461
  let n1 := n / 365
  let year := n400 * 400 + 1 + n100 * 100 + n4 * 4 + n1
  if n1 = 4 ∨ n100 = 4 then (year - 1, 364 + if isLeap (year - 1) then 1 else 0)
  else (year, n % 365)

/-- `date.year` and `date.month`. -/
def yearMonth (date : Date) : Nat × Nat :=
  let (year, day) := date.yearAndDay
  (year, ((List.range 12).filter fun earlier =>
    daysBeforeMonth year (earlier + 1) ≤ day).length)

end Date

/-! ## `strptime(text, "%Y-%m-%d")` -/

/-- `(?P<m>1[0-2]|0[1-9]|[1-9])`, every alternative that matches, in order. -/
def monthMatches : List Char → List (Nat × List Char)
  | '1' :: c :: rest =>
      (if '0' ≤ c ∧ c ≤ '2' then [(10 + (c.toNat - 48), rest)] else []) ++
        [(1, c :: rest)]
  | '0' :: c :: rest =>
      if '1' ≤ c ∧ c ≤ '9' then [(c.toNat - 48, rest)] else []
  | c :: rest => if '1' ≤ c ∧ c ≤ '9' then [(c.toNat - 48, rest)] else []
  | [] => []

/-- `(?P<d>3[0-1]|[1-2]\d|0[1-9]|[1-9]| [1-9])`, the first alternative. -/
def dayMatch : List Char → Option (Nat × List Char)
  | '3' :: c :: rest =>
      if '0' ≤ c ∧ c ≤ '1' then some (30 + (c.toNat - 48), rest)
      else some (3, c :: rest)
  | '0' :: c :: rest =>
      if '1' ≤ c ∧ c ≤ '9' then some (c.toNat - 48, rest) else none
  | ' ' :: c :: rest =>
      if '1' ≤ c ∧ c ≤ '9' then some (c.toNat - 48, rest) else none
  | c :: next :: rest =>
      if '1' ≤ c ∧ c ≤ '2' then
        match decimal? next with
        | some digit => some (10 * (c.toNat - 48) + digit, rest)
        | none => some (c.toNat - 48, next :: rest)
      else if '1' ≤ c ∧ c ≤ '9' then some (c.toNat - 48, next :: rest)
      else none
  | [c] => if '1' ≤ c ∧ c ≤ '9' then some (c.toNat - 48, []) else none
  | [] => none

/-- The date of the matched fields; unconverted text is an error. -/
def finishDate (year : Nat) : Nat × List Char → Option Date
  | (month, '-' :: rest) =>
      match dayMatch rest with
      | some (day, []) => Date.ofYmd? year month day
      | _ => none
  | _ => none

/-- `datetime.strptime(text, "%Y-%m-%d").date()`; `none` is `ValueError`. -/
def strptimeDate? (text : String) : Option Date :=
  match text.toList with
  | a :: b :: c :: d :: '-' :: rest =>
      match decimal? a, decimal? b, decimal? c, decimal? d with
      | some w, some x, some y, some z =>
          match (monthMatches rest).find? fun found =>
              found.2.head? = some '-' with
          | some found => finishDate (1000 * w + 100 * x + 10 * y + z) found
          | none => none
      | _, _, _, _ => none
  | _ => none

/-! ## Time zones -/

/-- A zone: the UTC offset in force at an instant, and the offset `localize`
attaches to a naive value; `none` is the `OverflowError` at the ends of the
range of `datetime`. -/
structure TzInfo where
  utcOffset : Instant → Timedelta
  localizeOffset : NaiveDatetime → Option Timedelta

def microsecondsPerDay : Int := 86400000000

/-- The ordinal of 1970-01-01. -/
def epochOrdinal : Int := 719163

/-- `datetime(year, month, day, hour, minute)` on a date. -/
def naiveAt (date : Date) (hour minute : Int) : NaiveDatetime :=
  (date.ordinal - epochOrdinal) * microsecondsPerDay +
    timedeltaSeconds (hour * 3600 + minute * 60)

def naiveDate (local_ : NaiveDatetime) : Date :=
  ⟨epochOrdinal + local_ / microsecondsPerDay⟩

namespace TzInfo

/-- `tz.localize(naive).astimezone(pytz.utc)`. -/
def localize? (tz : TzInfo) (naive : NaiveDatetime) : Option Instant :=
  (tz.localizeOffset naive).map fun offset => naive - offset

/-- The wall clock of `instant.astimezone(tz)`. -/
def localTime (tz : TzInfo) (instant : Instant) : NaiveDatetime :=
  instant + tz.utcOffset instant

def localDate (tz : TzInfo) (instant : Instant) : Date :=
  naiveDate (tz.localTime instant)

/-- A zone with one offset for all times. -/
def fixed (offset : Timedelta) : TzInfo :=
  ⟨fun _ => offset, fun _ => some offset⟩

end TzInfo

end KidsChores.Library.PyDatetime
