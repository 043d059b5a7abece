import KidsChores.Routers.Requests

/-!
# Definitions router

Creating and editing a definition, `app/routers/definitions.py`, with the bodies
of `app/schemas/schemas.py`.  A body carries the checks of its schema, so one that
Pydantic rejects cannot be built.  A request that raises is rolled back.
-/

set_option autoImplicit false

namespace KidsChores.Routers.Definitions

open KidsChores.Models
open KidsChores.Library
open KidsChores.Library.PyDatetime
open KidsChores.Library.PyText
open KidsChores.Session
open KidsChores.Workers.GenerateInstances

/-! ## Bodies -/

/-- `Field(min_length=low, max_length=high)`. -/
def LengthBetween (low high : Nat) (text : String) : Prop :=
  low ≤ text.length ∧ text.length ≤ high

/-- `Field(ge=low, le=high)`. -/
def Between (low high value : Int) : Prop := low ≤ value ∧ value ≤ high

instance (low high : Nat) (text : String) : Decidable (LengthBetween low high text) :=
  inferInstanceAs (Decidable (_ ∧ _))

instance (low high value : Int) : Decidable (Between low high value) :=
  inferInstanceAs (Decidable (_ ∧ _))

/-- `Field(pattern=r"^\d{4}-\d{2}-\d{2}$")`. -/
def datePattern (text : String) : Bool :=
  match text.toList with
  | [a, b, c, d, '-', e, f, '-', g, h] => [a, b, c, d, e, f, g, h].all isDecimal
  | _ => false

/-- `Field(pattern=r"^\d{2}:\d{2}$")`. -/
def timePattern (text : String) : Bool :=
  match text.toList with
  | [a, b, ':', c, d] => [a, b, c, d].all isDecimal
  | _ => false

structure TaskDefinitionCreate where
  assigneeId : Uuid
  title : String
  description : Option String := none
  pointValue : Int
  scheduleType : ScheduleType
  weekdayMask : Option Int := none
  startDate : String
  endDate : Option String := none
  dueTime : String := "20:00"
  requiresReview : Bool := false
  seriesId : Option Uuid := none
  titleLength : LengthBetween 1 200 title
  pointRange : Between 1 10000 pointValue
  maskRange : ∀ mask ∈ weekdayMask, Between 0 127 mask
  startPattern : datePattern startDate = true
  endPattern : ∀ text ∈ endDate, datePattern text = true
  duePattern : timePattern dueTime = true

structure TaskDefinitionUpdate where
  title : Option String := none
  description : Option String := none
  pointValue : Option Int := none
  scheduleType : Option ScheduleType := none
  weekdayMask : Option Int := none
  endDate : Option String := none
  dueTime : Option String := none
  requiresReview : Option Bool := none
  titleLength : ∀ text ∈ title, LengthBetween 1 200 text
  pointRange : ∀ points ∈ pointValue, Between 1 10000 points
  duePattern : ∀ text ∈ dueTime, timePattern text = true

/-! A field that the body leaves out passes its check. -/

theorem title_unset : ∀ text ∈ (none : Option String), LengthBetween 1 200 text := by simp

theorem points_unset : ∀ points ∈ (none : Option Int), Between 1 10000 points := by simp

theorem due_unset : ∀ text ∈ (none : Option String), timePattern text = true := by simp

/-- A body that edits the due time only. -/
def editDueTime (dueTime : String) (accepted : timePattern dueTime = true) :
    TaskDefinitionUpdate where
  dueTime := some dueTime
  titleLength := title_unset
  pointRange := points_unset
  duePattern := by simpa using accepted

/-! ## create_definition -/

structure CreateDefinition where
  /-- The readings of the clock: for the local date, and in the upsert. -/
  today : Instant
  now : Instant
  memberId : Uuid
  body : TaskDefinitionCreate

def TaskDefinitionCreate.definition (body : TaskDefinitionCreate)
    (household : Household) (parent : Member) (id : Uuid) : TaskDefinition where
  id := id
  householdId := household.id
  assigneeId := body.assigneeId
  title := body.title
  description := body.description
  pointValue := body.pointValue
  scheduleType := body.scheduleType
  weekdayMask := body.weekdayMask
  startDate := body.startDate
  endDate := body.endDate
  dueTime := body.dueTime
  requiresReview := body.requiresReview
  seriesId := body.seriesId
  createdBy := parent.id

/-- The `INSERT` of a definition: its texts are stored, its series exists. -/
def checkColumns (body : TaskDefinitionCreate) (db : Database) :
    Except RequestError Unit :=
  if storableText (some body.title) && storableText body.description then
    match body.seriesId with
    | none => .ok ()
    | some seriesId =>
        match db.series.find? seriesId with
        | none => .error .integrity
        | some _ => .ok ()
  else .error (.raised .dataError)

def timezone (pytz : String → Option TzInfo) (household : Household) :
    Except JobError TzInfo :=
  match pytz household.timezone with
  | none => .error .unknownTimeZone
  | some tz => .ok tz

/-- The date whose instance is created on demand. -/
def onDemandDate (tz : TzInfo) (today : Instant) (definition : TaskDefinition) :
    Except JobError Date :=
  if definition.scheduleType = .oneTime then
    match strptimeDate? definition.startDate with
    | none => .error .valueError
    | some start => .ok start
  else .ok (tz.localDate today)

def createDefinition (pytz : String → Option TzInfo) (request : CreateDefinition)
    (db : Database) : Except RequestError Database := do
  let (parent, household) ← loadParent db request.memberId
  requireAssignee db household request.body.assigneeId
  checkColumns request.body db
  let definition := request.body.definition household parent db.definitions.freshKey
  let tz ← ofJob (timezone pytz household)
  let targetDate ← ofJob (onDemandDate tz request.today definition)
  let instances ← ofJob
    (upsertInstanceForDate tz request.now db.instances definition targetDate)
  return { db with
    definitions := db.definitions.append
      (request.body.definition household parent) fun _ => rfl
    instances := instances }

/-! ## update_definition -/

structure UpdateDefinition where
  memberId : Uuid
  definitionId : Uuid
  body : TaskDefinitionUpdate

def getOr404 (db : Database) (household : Household) (definitionId : Uuid) :
    Except RequestError TaskDefinition :=
  match db.definitions.find? definitionId with
  | some definition =>
      if definition.householdId = household.id then .ok definition
      else .error (.http 404 "Task definition not found.")
  | none => .error (.http 404 "Task definition not found.")

/-- `setattr` for every field that is not `None`, as the columns take it. -/
def TaskDefinitionUpdate.edit? (body : TaskDefinitionUpdate)
    (definition : TaskDefinition) : Option TaskDefinition := do
  let title ← body.title.mapM (varchar? 200)
  let endDate ← body.endDate.mapM (varchar? 10)
  let dueTime ← body.dueTime.mapM (varchar? 5)
  if storableText body.description ∧
      ∀ mask ∈ body.weekdayMask, Between (-32768) 32767 mask then
    some { definition with
      title := title.getD definition.title
      description := body.description.or definition.description
      pointValue := body.pointValue.getD definition.pointValue
      scheduleType := body.scheduleType.getD definition.scheduleType
      weekdayMask := body.weekdayMask.or definition.weekdayMask
      endDate := endDate.or definition.endDate
      dueTime := dueTime.getD definition.dueTime
      requiresReview := body.requiresReview.getD definition.requiresReview }
  else none

def updateDefinition (request : UpdateDefinition) (db : Database) :
    Except RequestError Database := do
  let (_, household) ← loadParent db request.memberId
  let definition ← getOr404 db household request.definitionId
  match request.body.edit? definition with
  | none => .error (.raised .dataError)
  | some edited => return { db with definitions := db.definitions.save edited }

/-! ## archive_definition -/

structure ArchiveDefinition where
  now : Instant
  memberId : Uuid
  definitionId : Uuid

def archiveDefinition (request : ArchiveDefinition) (db : Database) :
    Except RequestError Database := do
  let (_, household) ← loadParent db request.memberId
  let definition ← getOr404 db household request.definitionId
  return { db with
    definitions := db.definitions.save { definition with archivedAt := some request.now } }

/-! ## When a definition is created -/

theorem checkColumns_ok_iff {body : TaskDefinitionCreate} {db : Database} :
    checkColumns body db = .ok () ↔
      (storableText (some body.title) && storableText body.description) = true ∧
        ∀ seriesId ∈ body.seriesId, ∃ series, db.series.find? seriesId = some series := by
  unfold checkColumns
  by_cases stored :
      (storableText (some body.title) && storableText body.description) = true
  · rw [if_pos stored]
    cases body.seriesId with
    | none => simp [stored]
    | some seriesId =>
        cases found : db.series.find? seriesId with
        | none => simp [found]
        | some series => simp [found, stored]
  · rw [if_neg stored]
    simp [stored]

/-- The request passes its checks, the one on its series aside. -/
structure CreateDefinition.Accepted (request : CreateDefinition) (db : Database)
    (parent : Member) (household : Household) (tz : TzInfo) : Prop where
  assignee : (requireAssignee db household request.body.assigneeId).isOk = true
  texts : (storableText (some request.body.title) &&
    storableText request.body.description) = true
  reads : ∃ targetDate ∈ (onDemandDate tz request.today (request.body.definition
      household parent db.definitions.freshKey)).toOption,
    TargetReads tz (request.body.definition household parent db.definitions.freshKey)
      targetDate

theorem CreateDefinition.accepted_iff {request : CreateDefinition} {db : Database}
    {parent : Member} {household : Household} {tz : TzInfo} :
    request.Accepted db parent household tz ↔
      (requireAssignee db household request.body.assigneeId).isOk = true ∧
      (storableText (some request.body.title) &&
        storableText request.body.description) = true ∧
      ∃ targetDate ∈ (onDemandDate tz request.today (request.body.definition
          household parent db.definitions.freshKey)).toOption,
        TargetReads tz (request.body.definition household parent
          db.definitions.freshKey) targetDate :=
  ⟨fun ⟨assignee, texts, reads⟩ => ⟨assignee, texts, reads⟩,
    fun ⟨assignee, texts, reads⟩ => ⟨assignee, texts, reads⟩⟩

instance (request : CreateDefinition) (db : Database) (parent : Member)
    (household : Household) (tz : TzInfo) :
    Decidable (request.Accepted db parent household tz) :=
  decidable_of_iff _ CreateDefinition.accepted_iff.symm

/-- With its series there, if it names one, an accepted request creates its
definition. -/
theorem createDefinition_returns {pytz : String → Option TzInfo}
    {request : CreateDefinition} {db : Database} {parent : Member}
    {household : Household} {tz : TzInfo}
    (loaded : loadParent db request.memberId = .ok (parent, household))
    (zone : pytz household.timezone = some tz)
    (accepted : request.Accepted db parent household tz)
    (named : ∀ seriesId ∈ request.body.seriesId,
      ∃ series, db.series.find? seriesId = some series) :
    ∃ next, createDefinition pytz request db = .ok next := by
  obtain ⟨targetDate, target, reads⟩ := accepted.reads
  have columns : checkColumns request.body db = .ok () :=
    checkColumns_ok_iff.mpr ⟨accepted.texts, named⟩
  have assignee : requireAssignee db household request.body.assigneeId = .ok () := by
    have passed := accepted.assignee
    cases checked : requireAssignee db household request.body.assigneeId with
    | error raised =>
        rw [checked] at passed
        cases passed
    | ok value => rfl
  have dated : onDemandDate tz request.today (request.body.definition household parent
      db.definitions.freshKey) = .ok targetDate := toOption_eq_some.mp target
  obtain ⟨instances, upserted⟩ := (@upsert_returns_iff tz request.now db.instances _
    targetDate).mpr reads
  simp only [createDefinition, loaded, assignee, columns, timezone, zone, dated, upserted,
    ofJob, Except.mapError, bind, Except.bind, pure, Except.pure]
  exact ⟨_, rfl⟩

/-! ## What the requests leave -/

/-- A definition that was created, with its household, zone and first date. -/
structure Created (pytz : String → Option TzInfo) (request : CreateDefinition)
    (db next : Database) (parent : Member) (household : Household) (tz : TzInfo)
    (targetDate : Date) (instances : Table TaskInstance.id) : Prop where
  loaded : loadParent db request.memberId = .ok (parent, household)
  assignee : requireAssignee db household request.body.assigneeId = .ok ()
  columns : checkColumns request.body db = .ok ()
  zone : pytz household.timezone = some tz
  target : onDemandDate tz request.today
    (request.body.definition household parent db.definitions.freshKey) = .ok targetDate
  upserted : upsertInstanceForDate tz request.now db.instances
    (request.body.definition household parent db.definitions.freshKey) targetDate =
      .ok instances
  committed : next = { db with
    definitions := db.definitions.append
      (request.body.definition household parent) fun _ => rfl
    instances := instances }

theorem createDefinition_ok {pytz : String → Option TzInfo}
    {request : CreateDefinition} {db next : Database}
    (returned : createDefinition pytz request db = .ok next) :
    ∃ parent household tz targetDate instances,
      Created pytz request db next parent household tz targetDate instances := by
  unfold createDefinition at returned
  obtain ⟨⟨parent, household⟩, loaded, returned⟩ := bind_ok returned
  obtain ⟨_, assignee, returned⟩ := bind_ok returned
  obtain ⟨_, checked, returned⟩ := bind_ok returned
  obtain ⟨tz, zone, returned⟩ := bind_ok returned
  obtain ⟨targetDate, target, returned⟩ := bind_ok returned
  obtain ⟨instances, upserted, returned⟩ := bind_ok returned
  cases returned
  have zoneFound : pytz household.timezone = some tz := by
    have known := ofJob_ok zone
    unfold timezone at known
    split at known
    · cases known
    · rename_i found
      cases known
      exact found
  exact ⟨parent, household, tz, targetDate, instances, loaded, assignee, checked, zoneFound,
    ofJob_ok target, ofJob_ok upserted, rfl⟩

theorem Created.seriesFound {pytz : String → Option TzInfo}
    {request : CreateDefinition} {db next : Database} {parent : Member}
    {household : Household} {tz : TzInfo} {targetDate : Date}
    {instances : Table TaskInstance.id}
    (created : Created pytz request db next parent household tz targetDate instances) :
    ∀ seriesId ∈ request.body.seriesId,
      ∃ series, db.series.find? seriesId = some series :=
  (checkColumns_ok_iff.mp created.columns).2

theorem Created.accepted {pytz : String → Option TzInfo}
    {request : CreateDefinition} {db next : Database} {parent : Member}
    {household : Household} {tz : TzInfo} {targetDate : Date}
    {instances : Table TaskInstance.id}
    (created : Created pytz request db next parent household tz targetDate instances) :
    request.Accepted db parent household tz := by
  refine ⟨?_, (checkColumns_ok_iff.mp created.columns).1, targetDate, ?_, ?_⟩
  · rw [created.assignee]
    rfl
  · rw [created.target]
    rfl
  · exact upsert_returns_iff.mp ⟨instances, created.upserted⟩

theorem Created.mem_definitions {pytz : String → Option TzInfo}
    {request : CreateDefinition} {db next : Database} {parent : Member}
    {household : Household} {tz : TzInfo} {targetDate : Date}
    {instances : Table TaskInstance.id}
    (created : Created pytz request db next parent household tz targetDate instances)
    {definition : TaskDefinition} :
    definition ∈ next.definitions.rows ↔ definition ∈ db.definitions.rows ∨
      definition = request.body.definition household parent db.definitions.freshKey := by
  have rows : next.definitions = db.definitions.append
      (request.body.definition household parent) fun _ => rfl := by
    rw [created.committed]
  rw [rows]
  exact Table.mem_append

/-- The rows of the new definition's first upsert: the old ones, and at most one
new instance, of the new definition. -/
theorem Created.mem_instances {pytz : String → Option TzInfo}
    {request : CreateDefinition} {db next : Database} {parent : Member}
    {household : Household} {tz : TzInfo} {targetDate : Date}
    {instances : Table TaskInstance.id}
    (created : Created pytz request db next parent household tz targetDate instances)
    {task : TaskInstance} (member : task ∈ next.instances.rows) :
    task ∈ db.instances.rows ∨ ∃ due,
      shouldGenerateForDate (request.body.definition household parent
        db.definitions.freshKey) targetDate = .ok true ∧
      dueUtc tz targetDate request.body.dueTime = .ok due ∧
      (∀ old ∈ db.instances.rows,
        ¬ (old.definitionId = db.definitions.freshKey ∧ old.dueAt = due)) ∧
      task = newInstance (request.body.definition household parent
        db.definitions.freshKey) due request.now db.instances.freshKey := by
  have rows : next.instances = instances := by
    rw [created.committed]
  rw [rows] at member
  rcases upsert_cases created.upserted with
    same | ⟨due, scheduled, timed, free, inserted⟩
  · rw [same] at member
    exact Or.inl member
  · rw [inserted] at member
    rcases Table.mem_append.mp member with old | new
    · exact Or.inl old
    · exact Or.inr ⟨due, scheduled, timed, free, new⟩

/-- The columns an edit leaves alone. -/
structure SameDefinition (definition edited : TaskDefinition) : Prop where
  id : edited.id = definition.id
  householdId : edited.householdId = definition.householdId
  assigneeId : edited.assigneeId = definition.assigneeId
  createdBy : edited.createdBy = definition.createdBy
  startDate : edited.startDate = definition.startDate
  seriesId : edited.seriesId = definition.seriesId
  archivedAt : edited.archivedAt = definition.archivedAt

theorem edit?_same {body : TaskDefinitionUpdate}
    {definition edited : TaskDefinition}
    (applied : body.edit? definition = some edited) :
    SameDefinition definition edited := by
  simp only [TaskDefinitionUpdate.edit?, Option.bind_eq_bind,
    Option.bind_eq_some_iff] at applied
  obtain ⟨title, _, endDate, _, dueTime, _, stored⟩ := applied
  split at stored
  · cases stored
    exact ⟨rfl, rfl, rfl, rfl, rfl, rfl, rfl⟩
  · cases stored

theorem getOr404_ok {db : Database} {household : Household} {definitionId : Uuid}
    {definition : TaskDefinition}
    (returned : getOr404 db household definitionId = .ok definition) :
    db.definitions.find? definitionId = some definition ∧
      definition.householdId = household.id := by
  unfold getOr404 at returned
  split at returned
  · rename_i stored found
    split at returned
    · rename_i own
      cases returned
      exact ⟨found, own⟩
    · cases returned
  · cases returned

theorem edit?_requiresReview {body : TaskDefinitionUpdate}
    {definition edited : TaskDefinition}
    (applied : body.edit? definition = some edited) :
    edited.requiresReview = body.requiresReview.getD definition.requiresReview := by
  simp only [TaskDefinitionUpdate.edit?, Option.bind_eq_bind,
    Option.bind_eq_some_iff] at applied
  obtain ⟨title, _, endDate, _, dueTime, _, stored⟩ := applied
  split at stored
  · cases stored
    rfl
  · cases stored

theorem updateDefinition_edit {request : UpdateDefinition} {db next : Database}
    (returned : updateDefinition request db = .ok next) :
    ∃ household definition edited,
      db.households.find? definition.householdId = some household ∧
      db.definitions.find? request.definitionId = some definition ∧
      request.body.edit? definition = some edited ∧
      next = { db with definitions := db.definitions.save edited } := by
  unfold updateDefinition at returned
  obtain ⟨⟨_, household⟩, loaded, returned⟩ := bind_ok returned
  obtain ⟨definition, definitionFound, returned⟩ := bind_ok returned
  have householdFound := (loadParent_ok loaded).2
  obtain ⟨stored, own⟩ := getOr404_ok definitionFound
  split at returned
  · cases returned
  · rename_i edited applied
    cases returned
    refine ⟨household, definition, edited, ?_, stored, applied, rfl⟩
    rw [own, Table.key_of_find? householdFound]
    exact householdFound

theorem updateDefinition_ok {request : UpdateDefinition} {db next : Database}
    (returned : updateDefinition request db = .ok next) :
    ∃ definition edited,
      db.definitions.find? request.definitionId = some definition ∧
      SameDefinition definition edited ∧
      next = { db with definitions := db.definitions.save edited } := by
  obtain ⟨_, definition, edited, _, found, applied, committed⟩ :=
    updateDefinition_edit returned
  exact ⟨definition, edited, found, edit?_same applied, committed⟩

theorem archiveDefinition_ok {request : ArchiveDefinition} {db next : Database}
    (returned : archiveDefinition request db = .ok next) :
    ∃ definition, db.definitions.find? request.definitionId = some definition ∧
      next = { db with
        definitions := db.definitions.save
          { definition with archivedAt := some request.now } } := by
  unfold archiveDefinition at returned
  obtain ⟨⟨_, household⟩, _, returned⟩ := bind_ok returned
  obtain ⟨definition, found, returned⟩ := bind_ok returned
  cases returned
  exact ⟨definition, (getOr404_ok found).1, rfl⟩

end KidsChores.Routers.Definitions
