import KidsChores.Library.Anniversaries
import KidsChores.Routers.Household

/-!
# The age gate

`create_teen_profile` counts years of 365 days.  Thirteen of them are over before the
thirteenth birthday, by the leap days in between.
-/

set_option autoImplicit false

namespace KidsChores.Properties

open KidsChores.Models
open KidsChores.Library
open KidsChores.Library.PyDatetime
open KidsChores.Routers
open KidsChores.Routers.Definitions
open KidsChores.Routers.Household

def RejectedForAge (request : CreateTeenProfile) (db : Database) : Prop :=
  createTeenProfile request db =
    .error (.http 422 "Teen must be at least 13 years old (COPPA compliance).")

/-- Today is one of the last days before the thirteenth birthday, as many as the leap
days since the birth. -/
def InLeapDays (birth today : Date) : Prop :=
  (birth.anniversary 13).addDays (-birth.leapDays 13) ≤ today ∧ today < birth.anniversary 13

instance (birth today : Date) : Decidable (InLeapDays birth today) :=
  inferInstanceAs (Decidable (_ ∧ _))

theorem strptimeDate?_fields {text : String} {date : Date}
    (valid : strptimeDate? text = some date) :
    ∃ year month day, date.HasFields year month day := by
  unfold strptimeDate? at valid
  split at valid
  · split at valid
    · split at valid
      · unfold finishDate at valid
        split at valid
        · split at valid
          · exact ⟨_, _, _, .of_ofYmd? valid⟩
          · cases valid
        · cases valid
      · cases valid
    · cases valid
  · cases valid

theorem rejectedForAge_iff {request : CreateTeenProfile} {db : Database} {parent : Member}
    {household : Models.Household} {birth : Date}
    (loaded : loadParent db request.memberId = .ok (parent, household))
    (valid : strptimeDate? request.body.birthdate = some birth) :
    RejectedForAge request db ↔ ageYears birth (naiveDate request.now) < 13 := by
  unfold RejectedForAge
  simp only [createTeenProfile, loaded, valid, bind, Except.bind, pure, Except.pure]
  by_cases young : ageYears birth (naiveDate request.now) < 13
  · rw [if_pos young]
    exact iff_of_true rfl young
  · rw [if_neg young]
    refine iff_of_false ?_ young
    intro rejected
    split at rejected
    · cases rejected
    · split at rejected <;> cases rejected

/-- The day count and the calendar agree outside the last leap days. -/
theorem ageYears_agrees_iff {birth today : Date} {year month day : Nat}
    (fields : birth.HasFields year month day) (since : 1 ≤ today.ordinal) :
    (ageYears birth today < 13 ↔ birth.yearsBetween today < 13) ↔
      ¬ InLeapDays birth today := by
  obtain ⟨thisYear, thisMonth, thisDay, now⟩ := Date.exists_fields since
  have calendar : birth.yearsBetween today < 13 ↔ today < birth.anniversary 13 :=
    Date.yearsBetween_lt_iff fields now 13
  have birthday := Date.anniversary_ordinal fields 13
  rw [calendar]
  unfold ageYears InLeapDays
  rw [Date.lt_def, Date.le_def, Date.addDays_ordinal, birthday]
  omega

/-- A valid birthdate is rejected exactly before the thirteenth birthday, unless today is
one of the last days before it, as many as the leap days since the birth: then it is
accepted. -/
theorem age_gate_exact_iff (request : CreateTeenProfile) (db : Database) (parent : Member)
    (household : Models.Household) (birth : Date)
    (loaded : loadParent db request.memberId = .ok (parent, household))
    (valid : strptimeDate? request.body.birthdate = some birth)
    (clock : 1 ≤ (naiveDate request.now).ordinal) :
    (RejectedForAge request db ↔ birth.yearsBetween (naiveDate request.now) < 13) ↔
      ¬ InLeapDays birth (naiveDate request.now) := by
  obtain ⟨year, month, day, fields⟩ := strptimeDate?_fields valid
  rw [rejectedForAge_iff loaded valid]
  exact ageYears_agrees_iff fields clock

def bareFamily : Database :=
  { sampleDatabase sampleDefinition sampleTask with
    definitions := Table.empty
    instances := Table.empty }

def bornInMarch : TeenProfileCreate where
  displayName := "Robin"
  birthdate := "2010-03-01"
  nameLength := by decide
  birthPattern := by decide
  pinDigits := by simp

/-- At noon, UTC, on a day of February 2023. -/
def februaryNoon (day : Int) : CreateTeenProfile where
  now := timedeltaSeconds (1675166400 + day * 86400)
  memberId := 1
  hashPin := id
  body := bornInMarch

/-- Born on 1 March 2010, accepted on 26 February 2023. -/
theorem accepted_at_twelve :
    strptimeDate? bornInMarch.birthdate = some ⟨733832⟩ ∧
      (createTeenProfile (februaryNoon 26) bareFamily).isOk = true ∧
      Date.yearsBetween ⟨733832⟩ (naiveDate (februaryNoon 26).now) = 12 ∧
      ¬ (RejectedForAge (februaryNoon 26) bareFamily ↔
        Date.yearsBetween ⟨733832⟩ (naiveDate (februaryNoon 26).now) < 13) := by
  have valid : strptimeDate? bornInMarch.birthdate = some ⟨733832⟩ := by decide +kernel
  have accepted : (createTeenProfile (februaryNoon 26) bareFamily).isOk = true := by
    decide +kernel
  have twelve : Date.yearsBetween ⟨733832⟩ (naiveDate (februaryNoon 26).now) = 12 := by
    decide +kernel
  refine ⟨valid, accepted, twelve, ?_⟩
  intro exact_
  have rejected := exact_.mpr (by rw [twelve]; decide)
  rw [RejectedForAge] at rejected
  rw [rejected] at accepted
  cases accepted

theorem rejected_in_time :
    RejectedForAge (februaryNoon 25) bareFamily ↔
      Date.yearsBetween ⟨733832⟩ (naiveDate (februaryNoon 25).now) < 13 :=
  (age_gate_exact_iff (februaryNoon 25) bareFamily sampleParent sampleHousehold ⟨733832⟩
    (by decide +kernel) (by decide +kernel) (by decide +kernel)).mpr (by decide +kernel)

end KidsChores.Properties
