import KidsChores.Routers.Household
import KidsChores.Routers.Series
import KidsChores.Routers.Wallet

/-!
# What the checks of the bodies say about rows

A row is created and edited by bodies that passed their checks, so it is in the ranges of
those checks: the defaults are, and an edit that the columns take keeps what it leaves
alone.  An edit does not check the mask and the last date of a definition: the latter is
only known to fit its column.
-/

set_option autoImplicit false

namespace KidsChores.Properties

open KidsChores.Library
open KidsChores.Models
open KidsChores.Routers.Definitions
open KidsChores.Routers.Household
open KidsChores.Routers.Series
open KidsChores.Routers.Wallet
open KidsChores.Session

structure DefinitionInRange (definition : TaskDefinition) : Prop where
  title : LengthBetween 1 200 definition.title
  points : Between 1 10000 definition.pointValue
  start : datePattern definition.startDate = true
  ends : ∀ text ∈ definition.endDate, text.length ≤ 10
  due : timePattern definition.dueTime = true

structure SeriesInRange (series : Models.Series) : Prop where
  name : LengthBetween 1 200 series.name
  bonus : 1 ≤ series.bonusPoints

structure HouseholdInRange (household : Models.Household) : Prop where
  grace : Between 1 72 household.gracePeriodHours
  reminder : Between 5 1440 household.taskReminderMinutesBeforeDue

structure ClaimInRange (claim : Claim) : Prop where
  item : LengthBetween 1 500 claim.requestedItem
  points : 1 ≤ claim.points

/-! ## Rows as they are created -/

theorem datePattern_length {text : String} (matched : datePattern text = true) :
    text.length ≤ 10 := by
  unfold datePattern at matched
  split at matched
  · rename_i digits
    rw [← String.length_toList, digits]
    exact Nat.le_refl 10
  · cases matched

theorem created_inRange (body : TaskDefinitionCreate) (household : Models.Household)
    (parent : Member) (id : Uuid) : DefinitionInRange (body.definition household parent id) :=
  ⟨body.titleLength, body.pointRange, body.startPattern,
    fun text sent => datePattern_length (body.endPattern text sent), body.duePattern⟩

theorem seriesCreated_inRange (body : SeriesCreate) (household : Models.Household) (id : Uuid) :
    SeriesInRange (body.series household id) :=
  ⟨body.nameLength, body.bonusRange⟩

theorem claim_inRange (body : ClaimCreate) (member : Member) (id : Uuid) :
    ClaimInRange (body.claim member id) :=
  ⟨body.itemLength, body.pointRange⟩

/-- The defaults of a new household pass the checks of an edit. -/
theorem household_defaults (id : Uuid) (name : String) :
    HouseholdInRange { id := id, name := name } := by
  have grace : Between 1 72 24 := by decide
  have reminder : Between 5 1440 60 := by decide
  exact ⟨grace, reminder⟩

/-! ## Rows as they are edited -/

theorem varchar?_within {limit : Nat} {text stored : String} (short : text.length ≤ limit)
    (taken : varchar? limit text = some stored) : stored = text := by
  unfold varchar? at taken
  rw [if_pos short] at taken
  split at taken
  · cases taken
  · exact (Option.some.inj taken).symm

theorem varchar?_length {limit : Nat} {text stored : String}
    (taken : varchar? limit text = some stored) : stored.length ≤ limit := by
  unfold varchar? at taken
  split at taken
  · cases taken
  split at taken
  · rename_i short
    cases taken
    exact short
  split at taken
  · cases taken
    rw [String.length_ofList]
    exact List.length_take_le limit _
  · cases taken

theorem timePattern_length {text : String} (matched : timePattern text = true) :
    text.length ≤ 5 := by
  unfold timePattern at matched
  split at matched
  · rename_i digits
    rw [← String.length_toList, digits]
    exact Nat.le_refl 5
  · cases matched

/-- An optional field of the body leaves the column, or writes what it checked. -/
theorem getD_keeps {Value : Type} {property : Value → Prop} {field : Option Value}
    {column : Value} (checked : ∀ value ∈ field, property value) (held : property column) :
    property (field.getD column) := by
  cases field with
  | none => exact held
  | some value => exact checked value rfl

/-- The same where the text has a column of limited length. -/
theorem varchar_keeps {property : String → Prop} {limit : Nat} {field stored : Option String}
    {column : String} (taken : field.mapM (varchar? limit) = some stored)
    (short : ∀ text ∈ field, text.length ≤ limit) (checked : ∀ text ∈ field, property text)
    (held : property column) : property (stored.getD column) := by
  cases field with
  | none =>
      cases taken
      exact held
  | some text =>
      obtain ⟨kept, cut, rfl⟩ := Option.map_eq_some_iff.mp taken
      rw [Option.getD_some, varchar?_within (short text rfl) cut]
      exact checked text rfl

theorem or_fits {limit : Nat} {field stored column : Option String}
    (taken : field.mapM (varchar? limit) = some stored)
    (held : ∀ text ∈ column, text.length ≤ limit) :
    ∀ text ∈ stored.or column, text.length ≤ limit := by
  cases field with
  | none =>
      cases taken
      exact held
  | some sent =>
      obtain ⟨kept, cut, rfl⟩ := Option.map_eq_some_iff.mp taken
      intro text same
      cases same
      exact varchar?_length cut

theorem DefinitionInRange.edited {body : TaskDefinitionUpdate}
    {definition edited : TaskDefinition} (inRange : DefinitionInRange definition)
    (applied : body.edit? definition = some edited) : DefinitionInRange edited := by
  simp only [TaskDefinitionUpdate.edit?, Option.bind_eq_bind,
    Option.bind_eq_some_iff] at applied
  obtain ⟨title, titleTaken, endDate, endTaken, dueTime, dueTaken, stored⟩ := applied
  split at stored
  · cases stored
    refine ⟨?_, ?_, inRange.start, or_fits endTaken inRange.ends, ?_⟩
    · exact varchar_keeps titleTaken (fun text given => (body.titleLength text given).2)
        body.titleLength inRange.title
    · exact getD_keeps body.pointRange inRange.points
    · refine varchar_keeps dueTaken ?_ body.duePattern inRange.due
      exact fun text given => timePattern_length (body.duePattern text given)
  · cases stored

theorem SeriesInRange.edited {body : SeriesUpdate} {series edited : Models.Series}
    (inRange : SeriesInRange series) (applied : body.edit? series = some edited) :
    SeriesInRange edited := by
  unfold SeriesUpdate.edit? at applied
  split at applied
  · cases applied
    exact ⟨getD_keeps body.nameLength inRange.name, getD_keeps body.bonusRange inRange.bonus⟩
  · cases applied

theorem HouseholdInRange.edited {body : HouseholdUpdate} {household edited : Models.Household}
    (inRange : HouseholdInRange household) (applied : body.edit? household = some edited) :
    HouseholdInRange edited := by
  simp only [HouseholdUpdate.edit?, Option.bind_eq_bind, Option.bind_eq_some_iff,
    Option.pure_def, Option.some.injEq] at applied
  obtain ⟨name, _, timezone, _, pointsLabel, _, rfl⟩ := applied
  exact ⟨getD_keeps body.graceRange inRange.grace,
    getD_keeps body.reminderRange inRange.reminder⟩

end KidsChores.Properties
