import Mathlib.Data.Nat.Count
import KidsChores.Library.LocalMidnights

/-!
# Weekdays of consecutive dates

Seven dates in a row have each weekday once, wherever they begin, so a choice of
weekdays is met by as many of them as it has days.
-/

set_option autoImplicit false

namespace KidsChores.Library.PyDatetime.Date

theorem weekday_lt (date : Date) : date.weekday < 7 := by
  unfold weekday
  omega

theorem weekday_addDays (first : Date) (days : Nat) :
    (first.addDays days).weekday = (first.weekday + days) % 7 := by
  unfold weekday
  rw [addDays_ordinal]
  omega

/-- A period holds as many hits as the first one, wherever it begins. -/
theorem count_period {hit : Nat → Prop} [DecidablePred hit] {period : Nat}
    (periodic : ∀ day, hit (period + day) ↔ hit day) (shift : Nat) :
    Nat.count (fun n => hit (shift + n)) period = Nat.count hit period := by
  have shifted := Nat.count_add hit shift period
  have swapped := Nat.count_add hit period shift
  have same : Nat.count (fun n => hit (period + n)) shift = Nat.count hit shift := by
    simp only [periodic]
  rw [same] at swapped
  rw [Nat.add_comm period shift] at swapped
  omega

/-- The dates of a week that fall on a chosen weekday. -/
theorem count_week (chosen : Nat → Prop) [DecidablePred chosen] (first : Date) :
    Nat.count (fun n => chosen (first.addDays n).weekday) 7 = Nat.count chosen 7 := by
  have periodic : ∀ day, chosen ((7 + day) % 7) ↔ chosen (day % 7) := by
    intro day
    rw [Nat.add_mod_left]
  have shifted := @count_period (fun day => chosen (day % 7)) _ 7 periodic first.weekday
  have aligned : Nat.count (fun day => chosen (day % 7)) 7 = Nat.count chosen 7 := rfl
  simp only [weekday_addDays]
  rw [← aligned]
  exact shifted

end KidsChores.Library.PyDatetime.Date
