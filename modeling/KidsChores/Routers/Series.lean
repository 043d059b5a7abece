import KidsChores.Routers.Definitions

/-!
# Series router

`app/routers/series.py`.  Creating a series links the definitions it bundles to it
and opens its first window; a series can be edited and archived.
-/

set_option autoImplicit false

namespace KidsChores.Routers.Series

open KidsChores.Models
open KidsChores.Library
open KidsChores.Library.PyDatetime
open KidsChores.Routers.Definitions
open KidsChores.Services.Ledger
open KidsChores.Session
open KidsChores.Workers.GenerateInstances

structure SeriesCreate where
  name : String
  assigneeId : Uuid
  bonusPoints : Int
  payoutMode : SeriesPayoutMode
  windowType : SeriesWindowType
  taskDefinitionIds : List Uuid
  nameLength : LengthBetween 1 200 name
  bonusRange : 1 ≤ bonusPoints
  bundles : taskDefinitionIds ≠ []

/-- The local dates a window starts and ends on; `custom` has no dates of its own
yet. -/
def windowDates? (windowType : SeriesWindowType) (today : Date) :
    Option (Date × Date) :=
  match windowType with
  | .weekly =>
      let start := today.addDays (-today.weekday)
      some (start, start.addDays 7)
  | .monthly => do
      let (year, month) := today.yearMonth
      let start ← Date.ofYmd? year month 1
      let finish ←
        if month = 12 then Date.ofYmd? (year + 1) 1 1
        else Date.ofYmd? year (month + 1) 1
      return (start, finish)
  | .custom => some (today, today.addDays 7)

/-- `_compute_window`. -/
def computeWindow (tz : TzInfo) (now : Instant) (windowType : SeriesWindowType) :
    Except JobError (Instant × Instant) :=
  match windowDates? windowType (tz.localDate now) with
  | none => .error .valueError
  | some (start, finish) =>
      match tz.localize? (naiveAt start 0 0), tz.localize? (naiveAt finish 0 0) with
      | some windowStart, some windowEnd => .ok (windowStart, windowEnd)
      | _, _ => .error .overflowError

structure CreateSeries where
  now : Instant
  memberId : Uuid
  body : SeriesCreate

/-- The definitions of the body that belong to the household. -/
def bundled (body : SeriesCreate) (household : Household)
    (definition : TaskDefinition) : Bool :=
  definition.id ∈ body.taskDefinitionIds ∧ definition.householdId = household.id

def SeriesCreate.series (body : SeriesCreate) (household : Household) (id : Uuid) :
    Models.Series where
  id := id
  householdId := household.id
  name := body.name
  assigneeId := body.assigneeId
  bonusPoints := body.bonusPoints
  payoutMode := body.payoutMode
  windowType := body.windowType

def openWindow (seriesId : Uuid) (windowStart windowEnd : Instant) (id : Uuid) :
    SeriesInstance where
  id := id
  seriesId := seriesId
  windowStart := windowStart
  windowEnd := windowEnd

def linkTo (seriesId : Uuid) (definition : TaskDefinition) : TaskDefinition :=
  { definition with seriesId := some seriesId }

theorem linkTo_id (seriesId : Uuid) (definition : TaskDefinition) :
    (linkTo seriesId definition).id = definition.id := rfl

/-- The rows after a series was created: the series, its window, and the link in
the definitions it bundles. -/
def afterSeries (body : SeriesCreate) (household : Household)
    (windowStart windowEnd : Instant) (db : Database) : Database :=
  { db with
    series := db.series.append (body.series household) fun _ => rfl
    definitions := db.definitions.updateWhere (bundled body household)
      (linkTo db.series.freshKey) (linkTo_id db.series.freshKey)
    seriesInstances := db.seriesInstances.append
      (openWindow db.series.freshKey windowStart windowEnd) fun _ => rfl }

def createSeries (pytz : String → Option TzInfo) (request : CreateSeries)
    (db : Database) : Except RequestError Database := do
  let (_, household) ← loadParent db request.memberId
  if (db.definitions.rows.filter (bundled request.body household)).length ≠
      request.body.taskDefinitionIds.length then
    throw (.http 422 "One or more task definitions not found in this household.")
  requireAssignee db household request.body.assigneeId
  if ¬ (storableText (some request.body.name) ∧ FitsInteger request.body.bonusPoints) then
    throw (.raised .dataError)
  let tz ← ofJob (timezone pytz household)
  let (windowStart, windowEnd) ← ofJob
    (computeWindow tz request.now request.body.windowType)
  return afterSeries request.body household windowStart windowEnd db

theorem mem_afterSeries_definitions {body : SeriesCreate} {household : Household}
    {windowStart windowEnd : Instant} {db : Database} {definition : TaskDefinition} :
    definition ∈ (afterSeries body household windowStart windowEnd db).definitions.rows ↔
      ∃ old ∈ db.definitions.rows, definition =
        if bundled body household old then linkTo db.series.freshKey old else old := by
  have linked : (afterSeries body household windowStart windowEnd db).definitions =
      db.definitions.updateWhere (bundled body household)
        (linkTo db.series.freshKey) (linkTo_id db.series.freshKey) := rfl
  rw [linked, Table.mem_updateWhere]

theorem mem_afterSeries_series {body : SeriesCreate} {household : Household}
    {windowStart windowEnd : Instant} {db : Database} {series : Models.Series} :
    series ∈ (afterSeries body household windowStart windowEnd db).series.rows ↔
      series ∈ db.series.rows ∨ series = body.series household db.series.freshKey := by
  have opened : (afterSeries body household windowStart windowEnd db).series =
      db.series.append (body.series household) fun _ => rfl := rfl
  rw [opened]
  exact Table.mem_append

theorem mem_afterSeries_windows {body : SeriesCreate} {household : Household}
    {windowStart windowEnd : Instant} {db : Database} {seriesInstance : SeriesInstance} :
    seriesInstance ∈
        (afterSeries body household windowStart windowEnd db).seriesInstances.rows ↔
      seriesInstance ∈ db.seriesInstances.rows ∨ seriesInstance =
        openWindow db.series.freshKey windowStart windowEnd db.seriesInstances.freshKey := by
  have opened : (afterSeries body household windowStart windowEnd db).seriesInstances =
      db.seriesInstances.append (openWindow db.series.freshKey windowStart windowEnd)
        fun _ => rfl := rfl
  rw [opened]
  exact Table.mem_append

theorem createSeries_ok {pytz : String → Option TzInfo} {request : CreateSeries}
    {db next : Database} (returned : createSeries pytz request db = .ok next) :
    ∃ household windowStart windowEnd,
      requireAssignee db household request.body.assigneeId = .ok () ∧
        next = afterSeries request.body household windowStart windowEnd db := by
  unfold createSeries at returned
  obtain ⟨⟨_, household⟩, _, returned⟩ := bind_ok returned
  dsimp only at returned
  split at returned
  · cases returned
  obtain ⟨_, assignee, returned⟩ := bind_ok returned
  split at returned
  · cases returned
  obtain ⟨tz, _, returned⟩ := bind_ok returned
  obtain ⟨⟨windowStart, windowEnd⟩, _, returned⟩ := bind_ok returned
  cases returned
  exact ⟨household, windowStart, windowEnd, assignee, rfl⟩

/-! ## update_series and archive_series -/

/-- The body leaves out the assignee and the bundled definitions. -/
structure SeriesUpdate where
  name : Option String := none
  bonusPoints : Option Int := none
  payoutMode : Option SeriesPayoutMode := none
  windowType : Option SeriesWindowType := none
  nameLength : ∀ text ∈ name, LengthBetween 1 200 text
  bonusRange : ∀ points ∈ bonusPoints, 1 ≤ points

structure UpdateSeries where
  memberId : Uuid
  seriesId : Uuid
  body : SeriesUpdate

def getSeriesOr404 (db : Database) (household : Household) (seriesId : Uuid) :
    Except RequestError Models.Series :=
  match db.series.find? seriesId with
  | some series =>
      if series.householdId = household.id then .ok series
      else .error (.http 404 "Series not found.")
  | none => .error (.http 404 "Series not found.")

/-- `setattr` for every field that is not `None`, as the columns take it. -/
def SeriesUpdate.edit? (body : SeriesUpdate) (series : Models.Series) :
    Option Models.Series :=
  if storableText body.name ∧ ∀ points ∈ body.bonusPoints, FitsInteger points then
    some { series with
      name := body.name.getD series.name
      bonusPoints := body.bonusPoints.getD series.bonusPoints
      payoutMode := body.payoutMode.getD series.payoutMode
      windowType := body.windowType.getD series.windowType }
  else none

def updateSeries (request : UpdateSeries) (db : Database) :
    Except RequestError Database := do
  let (_, household) ← loadParent db request.memberId
  let series ← getSeriesOr404 db household request.seriesId
  match request.body.edit? series with
  | none => .error (.raised .dataError)
  | some edited => return { db with series := db.series.save edited }

structure ArchiveSeries where
  now : Instant
  memberId : Uuid
  seriesId : Uuid
  deriving DecidableEq, Repr

def archiveSeries (request : ArchiveSeries) (db : Database) :
    Except RequestError Database := do
  let (_, household) ← loadParent db request.memberId
  let series ← getSeriesOr404 db household request.seriesId
  return { db with
    series := db.series.save { series with archivedAt := some request.now } }

/-- What no edit of a series changes. -/
structure SameSeries (series edited : Models.Series) : Prop where
  id : edited.id = series.id
  householdId : edited.householdId = series.householdId
  assigneeId : edited.assigneeId = series.assigneeId

theorem SameSeries.refl (series : Models.Series) : SameSeries series series := ⟨rfl, rfl, rfl⟩

theorem SameSeries.trans {first second third : Models.Series} (early : SameSeries first second)
    (late : SameSeries second third) : SameSeries first third :=
  ⟨late.id.trans early.id, late.householdId.trans early.householdId,
    late.assigneeId.trans early.assigneeId⟩

theorem getSeriesOr404_ok {db : Database} {household : Household} {seriesId : Uuid}
    {series : Models.Series}
    (returned : getSeriesOr404 db household seriesId = .ok series) :
    db.series.find? seriesId = some series := by
  unfold getSeriesOr404 at returned
  split at returned
  · rename_i stored found
    split at returned
    · cases returned
      exact found
    · cases returned
  · cases returned

theorem getSeriesOr404_own {db : Database} {household : Household} {seriesId : Uuid}
    {series : Models.Series}
    (returned : getSeriesOr404 db household seriesId = .ok series) :
    series.householdId = household.id := by
  unfold getSeriesOr404 at returned
  split at returned
  · split at returned
    · rename_i own
      cases returned
      exact own
    · cases returned
  · cases returned

theorem edit?_sameSeries {body : SeriesUpdate} {series edited : Models.Series}
    (applied : body.edit? series = some edited) : SameSeries series edited := by
  unfold SeriesUpdate.edit? at applied
  split at applied
  · cases applied
    exact ⟨rfl, rfl, rfl⟩
  · cases applied

theorem updateSeries_ok {request : UpdateSeries} {db next : Database}
    (returned : updateSeries request db = .ok next) :
    ∃ series edited, db.series.find? request.seriesId = some series ∧
      SameSeries series edited ∧ next = { db with series := db.series.save edited } := by
  unfold updateSeries at returned
  obtain ⟨⟨_, household⟩, _, returned⟩ := bind_ok returned
  obtain ⟨series, found, returned⟩ := bind_ok returned
  split at returned
  · cases returned
  · rename_i edited applied
    cases returned
    exact ⟨series, edited, getSeriesOr404_ok found, edit?_sameSeries applied, rfl⟩

theorem archiveSeries_ok {request : ArchiveSeries} {db next : Database}
    (returned : archiveSeries request db = .ok next) :
    ∃ series edited, db.series.find? request.seriesId = some series ∧
      SameSeries series edited ∧ next = { db with series := db.series.save edited } := by
  unfold archiveSeries at returned
  obtain ⟨⟨_, household⟩, _, returned⟩ := bind_ok returned
  obtain ⟨series, found, returned⟩ := bind_ok returned
  cases returned
  exact ⟨series, { series with archivedAt := some request.now },
    getSeriesOr404_ok found, ⟨rfl, rfl, rfl⟩, rfl⟩

end KidsChores.Routers.Series
