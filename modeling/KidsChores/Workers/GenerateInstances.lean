import KidsChores.Services.StateMachine

/-!
# Nightly instance generation

`app/workers/generate_instances.py`.  `pytz.timezone` is a parameter: it maps a
name to a zone or raises.  A household's run is one transaction; the loop over
households has no handler, so an exception in one run ends the loop with the
earlier commits in place.
-/

set_option autoImplicit false

namespace KidsChores.Workers.GenerateInstances

open KidsChores.Models
open KidsChores.Library
open KidsChores.Library.PyDatetime
open KidsChores.Library.PyText
open KidsChores.Services.StateMachine

/-- `GENERATION_HORIZON_DAYS`. -/
def generationHorizonDays : Nat := 14

/-- The exceptions that leave the job. -/
inductive JobError where
  | valueError
  | overflowError
  | unknownTimeZone
  | noResultFound
  deriving DecidableEq, Repr

/-! ## Schedule -/

/-- The `match` on the schedule type, for a date that is not out of range. -/
def onSchedule (defn : TaskDefinition) (start targetDate : Date) : Bool :=
  match defn.scheduleType with
  | .oneTime => targetDate = start
  | .daily => true
  | .weekdays =>
      match defn.weekdayMask with
      | none => false
      | some mask => mask.testBit targetDate.weekday
  | .weekly => targetDate.weekday = start.weekday

def shouldGenerateForDate (defn : TaskDefinition) (targetDate : Date) :
    Except JobError Bool :=
  match strptimeDate? defn.startDate with
  | none => .error .valueError
  | some start =>
      if targetDate < start then .ok false
      else if truthy defn.endDate then
        match strptimeDate? (defn.endDate.getD "") with
        | none => .error .valueError
        | some finish =>
            if finish < targetDate then .ok false
            else .ok (onSchedule defn start targetDate)
      else .ok (onSchedule defn start targetDate)

/-- `map(int, due_time.split(":"))`, unpacked into two numbers that `datetime`
accepts as hour and minute. -/
def parseDueTime? (dueTime : String) : Option (Int × Int) :=
  match dueTime.toList.splitOn ':' with
  | [hourText, minuteText] =>
      match int? hourText, int? minuteText with
      | some hour, some minute =>
          if 0 ≤ hour ∧ hour ≤ 23 ∧ 0 ≤ minute ∧ minute ≤ 59 then
            some (hour, minute)
          else none
      | _, _ => none
  | _ => none

def dueUtc (tz : TzInfo) (targetDate : Date) (dueTime : String) :
    Except JobError Instant :=
  match parseDueTime? dueTime with
  | none => .error .valueError
  | some (hour, minute) =>
      match tz.localize? (naiveAt targetDate hour minute) with
      | none => .error .overflowError
      | some due => .ok due

/-! ## Generation -/

def newInstance (defn : TaskDefinition) (due now : Instant) (id : Uuid) :
    TaskInstance where
  id := id
  definitionId := defn.id
  assigneeId := defn.assigneeId
  dueAt := due
  pointValue := defn.pointValue
  status := if due ≤ now then .overdue else .pending

/-- `ON CONFLICT ON CONSTRAINT uq_instance_def_due DO NOTHING`. -/
def insertOnConflictDoNothing (instances : Table TaskInstance.id)
    (defn : TaskDefinition) (due now : Instant) : Table TaskInstance.id :=
  if ∃ task ∈ instances.rows, task.definitionId = defn.id ∧ task.dueAt = due then
    instances
  else instances.append (newInstance defn due now) fun _ => rfl

def upsertInstanceForDate (tz : TzInfo) (now : Instant)
    (instances : Table TaskInstance.id) (defn : TaskDefinition)
    (targetDate : Date) : Except JobError (Table TaskInstance.id) :=
  match shouldGenerateForDate defn targetDate with
  | .error raised => .error raised
  | .ok false => .ok instances
  | .ok true =>
      match dueUtc tz targetDate defn.dueTime with
      | .error raised => .error raised
      | .ok due => .ok (insertOnConflictDoNothing instances defn due now)

/-- The nested loop over definitions and days, as the list of its bodies. -/
def generationTargets (definitions : List TaskDefinition) (today : Date) :
    List (TaskDefinition × Date) :=
  definitions.flatMap fun defn =>
    (List.range generationHorizonDays).map fun (dayOffset : Nat) =>
      (defn, today.addDays dayOffset)

def upsertAll (tz : TzInfo) (now : Instant) :
    List (TaskDefinition × Date) → Table TaskInstance.id →
      Except JobError (Table TaskInstance.id)
  | [], instances => .ok instances
  | (defn, targetDate) :: rest, instances =>
      match upsertInstanceForDate tz now instances defn targetDate with
      | .error raised => .error raised
      | .ok next => upsertAll tz now rest next

/-! ## Sweeps -/

/-- `UPDATE … SET status = overdue WHERE status = pending AND due_at <= now`. -/
def sweepOverdue (definitionIds : List Uuid) (now : Instant)
    (instances : Table TaskInstance.id) : Table TaskInstance.id :=
  instances.updateWhere
    (fun task => task.status = .pending ∧ task.dueAt ≤ now ∧
      task.definitionId ∈ definitionIds)
    (fun task => { task with status := .overdue }) fun _ => rfl

def sweepMissed (definitionIds : List Uuid) (gracePeriodHours : Int)
    (now : Instant) (instances : Table TaskInstance.id) :
    Table TaskInstance.id :=
  instances.updateWhere
    (fun task => task.status = .overdue ∧ task.definitionId ∈ definitionIds ∧
      graceRemaining task gracePeriodHours now ≤ 0)
    (fun task => { task with status := .missed }) fun _ => rfl

/-! ## The job -/

/-- The clock readings of one household's run, in the order they are taken:
for today's date and the upserts, for the overdue update, for the grace check. -/
structure JobClock where
  generation : Instant
  dueNow : Instant
  now : Instant
  deriving DecidableEq, Repr

def liveDefinitions (db : Database) (householdId : Uuid) : List TaskDefinition :=
  db.definitions.rows.filter fun defn =>
    defn.householdId = householdId ∧ defn.archivedAt = none

def generateForHousehold (pytz : String → Option TzInfo) (clock : JobClock)
    (householdId : Uuid) (db : Database) : Except JobError Database :=
  match db.households.find? householdId with
  | none => .error .noResultFound
  | some household =>
      match pytz household.timezone with
      | none => .error .unknownTimeZone
      | some tz =>
          let todayLocal := tz.localDate clock.generation
          let definitions := liveDefinitions db householdId
          let definitionIds := definitions.map TaskDefinition.id
          match upsertAll tz clock.generation
              (generationTargets definitions todayLocal) db.instances with
          | .error raised => .error raised
          | .ok generated => .ok { db with
              instances :=
                sweepMissed definitionIds household.gracePeriodHours clock.now
                  (sweepOverdue definitionIds clock.dueNow generated) }

/-- The loop of `_generate_all_households`: what is committed, and whether the
job returned. -/
def generateHouseholds (pytz : String → Option TzInfo)
    (clock : Uuid → JobClock) :
    List Uuid → Database → Database × Option JobError
  | [], db => (db, none)
  | householdId :: rest, db =>
      match generateForHousehold pytz (clock householdId) householdId db with
      | .error raised => (db, some raised)
      | .ok next => generateHouseholds pytz clock rest next

/-- `generate_instances`. -/
def generateInstances (pytz : String → Option TzInfo)
    (clock : Uuid → JobClock) (db : Database) : Database × Option JobError :=
  generateHouseholds pytz clock (db.households.rows.map Household.id) db

theorem mem_generationTargets {definitions : List TaskDefinition} {today : Date}
    {target : TaskDefinition × Date} :
    target ∈ generationTargets definitions today ↔ target.1 ∈ definitions ∧
      ∃ dayOffset : Nat, dayOffset < generationHorizonDays ∧
        target.2 = today.addDays dayOffset := by
  simp only [generationTargets, List.mem_flatMap, List.mem_map, List.mem_range]
  constructor
  · rintro ⟨defn, live, dayOffset, inHorizon, rfl⟩
    exact ⟨live, dayOffset, inHorizon, rfl⟩
  · rintro ⟨live, dayOffset, inHorizon, onDate⟩
    exact ⟨target.1, live, dayOffset, inHorizon, by rw [← onDate]⟩

theorem mem_liveDefinitions {db : Database} {householdId : Uuid}
    {defn : TaskDefinition} (live : defn ∈ liveDefinitions db householdId) :
    defn ∈ db.definitions.rows ∧ defn.householdId = householdId := by
  obtain ⟨stored, selected⟩ := List.mem_filter.mp live
  exact ⟨stored, (of_decide_eq_true selected).1⟩

/-! ## What a run leaves -/

theorem upsert_cases {tz : TzInfo} {now : Instant}
    {instances next : Table TaskInstance.id} {defn : TaskDefinition}
    {targetDate : Date}
    (upserted : upsertInstanceForDate tz now instances defn targetDate = .ok next) :
    next = instances ∨
      ∃ due, shouldGenerateForDate defn targetDate = .ok true ∧
        dueUtc tz targetDate defn.dueTime = .ok due ∧
        (∀ task ∈ instances.rows,
          ¬ (task.definitionId = defn.id ∧ task.dueAt = due)) ∧
        next = instances.append (newInstance defn due now) fun _ => rfl := by
  unfold upsertInstanceForDate at upserted
  cases scheduled : shouldGenerateForDate defn targetDate with
  | error raised =>
      rw [scheduled] at upserted
      cases upserted
  | ok wanted =>
      rw [scheduled] at upserted
      cases wanted with
      | false =>
          cases upserted
          exact Or.inl rfl
      | true =>
          cases timed : dueUtc tz targetDate defn.dueTime with
          | error raised =>
              rw [timed] at upserted
              cases upserted
          | ok due =>
              rw [timed] at upserted
              cases upserted
              unfold insertOnConflictDoNothing
              split
              · exact Or.inl rfl
              · rename_i free
                refine Or.inr ⟨due, rfl, rfl, ?_, rfl⟩
                intro task member taken
                exact free ⟨task, member, taken⟩

/-- What every insert of the loop keeps, the loop keeps. -/
theorem upsertAll_invariant {tz : TzInfo} {now : Instant}
    (invariant : Table TaskInstance.id → Prop)
    {targets : List (TaskDefinition × Date)}
    (preserved : ∀ instances next defn targetDate,
      (defn, targetDate) ∈ targets → invariant instances →
      upsertInstanceForDate tz now instances defn targetDate = .ok next →
      invariant next)
    {instances next : Table TaskInstance.id} (initial : invariant instances)
    (generated : upsertAll tz now targets instances = .ok next) :
    invariant next := by
  induction targets generalizing instances with
  | nil =>
      cases generated
      exact initial
  | cons target rest ih =>
      obtain ⟨defn, targetDate⟩ := target
      cases upserted : upsertInstanceForDate tz now instances defn targetDate with
      | error raised =>
          rw [upsertAll, upserted] at generated
          cases generated
      | ok middle =>
          rw [upsertAll, upserted] at generated
          refine ih ?_ (preserved instances middle defn targetDate
            List.mem_cons_self initial upserted) generated
          intro table result other date member
          exact preserved table result other date (List.mem_cons_of_mem _ member)

/-- A household's run that returns. -/
structure GeneratedFor (pytz : String → Option TzInfo) (clock : JobClock)
    (householdId : Uuid) (db next : Database) (household : Household)
    (tz : TzInfo) (generated : Table TaskInstance.id) : Prop where
  found : db.households.find? householdId = some household
  zone : pytz household.timezone = some tz
  upserts : upsertAll tz clock.generation
    (generationTargets (liveDefinitions db householdId)
      (tz.localDate clock.generation)) db.instances = .ok generated
  committed : next = { db with
    instances := sweepMissed
      ((liveDefinitions db householdId).map TaskDefinition.id)
      household.gracePeriodHours clock.now
      (sweepOverdue ((liveDefinitions db householdId).map TaskDefinition.id)
        clock.dueNow generated) }

theorem generateForHousehold_ok {pytz : String → Option TzInfo}
    {clock : JobClock} {householdId : Uuid} {db next : Database}
    (success : generateForHousehold pytz clock householdId db = .ok next) :
    ∃ household tz generated,
      GeneratedFor pytz clock householdId db next household tz generated := by
  unfold generateForHousehold at success
  cases found : db.households.find? householdId with
  | none =>
      rw [found] at success
      cases success
  | some household =>
      rw [found] at success
      cases zone : pytz household.timezone with
      | none =>
          simp only [zone] at success
          cases success
      | some tz =>
          simp only [zone] at success
          split at success
          · cases success
          · rename_i generated upserts
            cases success
            exact ⟨household, tz, generated, found, zone, upserts, rfl⟩

/-! ## When a run returns -/

/-- The strings a target's upsert parses are readable, as far as it reads them. -/
def TargetReads (tz : TzInfo) (defn : TaskDefinition) (targetDate : Date) : Prop :=
  match shouldGenerateForDate defn targetDate with
  | .error _ => False
  | .ok false => True
  | .ok true => (dueUtc tz targetDate defn.dueTime).isOk = true

instance (tz : TzInfo) (defn : TaskDefinition) (targetDate : Date) :
    Decidable (TargetReads tz defn targetDate) := by
  unfold TargetReads
  split <;> infer_instance

theorem upsert_returns_iff {tz : TzInfo} {now : Instant}
    {instances : Table TaskInstance.id} {defn : TaskDefinition} {targetDate : Date} :
    (∃ next, upsertInstanceForDate tz now instances defn targetDate = .ok next) ↔
      TargetReads tz defn targetDate := by
  unfold upsertInstanceForDate TargetReads
  cases shouldGenerateForDate defn targetDate with
  | error raised => simp
  | ok wanted =>
      cases wanted with
      | false => simp
      | true =>
          cases dueUtc tz targetDate defn.dueTime <;>
            simp [Except.isOk, Except.toBool]

theorem upsertAll_returns_iff {tz : TzInfo} {now : Instant}
    {targets : List (TaskDefinition × Date)} {instances : Table TaskInstance.id} :
    (∃ next, upsertAll tz now targets instances = .ok next) ↔
      ∀ target ∈ targets, TargetReads tz target.1 target.2 := by
  induction targets generalizing instances with
  | nil => simp [upsertAll]
  | cons target rest ih =>
      obtain ⟨defn, targetDate⟩ := target
      have head : (∃ next, upsertInstanceForDate tz now instances defn targetDate =
          .ok next) ↔ TargetReads tz defn targetDate := upsert_returns_iff
      rw [List.forall_mem_cons, ← head]
      cases upserted : upsertInstanceForDate tz now instances defn targetDate with
      | error raised => simp [upsertAll, upserted]
      | ok middle =>
          simp only [upsertAll, upserted, ih, Except.ok.injEq, exists_eq', true_and]

/-- A household's run returns exactly when it finds its rows and its zone and
reads every target. -/
theorem generateForHousehold_returns_iff {pytz : String → Option TzInfo}
    {clock : JobClock} {householdId : Uuid} {db : Database} :
    (∃ next, generateForHousehold pytz clock householdId db = .ok next) ↔
      ∃ household tz, db.households.find? householdId = some household ∧
        pytz household.timezone = some tz ∧
        ∀ target ∈ generationTargets (liveDefinitions db householdId)
          (tz.localDate clock.generation), TargetReads tz target.1 target.2 := by
  constructor
  · rintro ⟨next, success⟩
    obtain ⟨household, tz, generated, run⟩ := generateForHousehold_ok success
    exact ⟨household, tz, run.found, run.zone, upsertAll_returns_iff.mp
      ⟨generated, run.upserts⟩⟩
  · rintro ⟨household, tz, found, zone, reads⟩
    have returned : ∃ generated, upsertAll tz clock.generation
        (generationTargets (liveDefinitions db householdId)
          (tz.localDate clock.generation)) db.instances = .ok generated :=
      upsertAll_returns_iff.mpr reads
    obtain ⟨generated, upserts⟩ := returned
    simp only [generateForHousehold, found, zone, upserts]
    exact ⟨_, rfl⟩

/-! ## The rows a run inserts -/

/-- The row that an upsert of one of the targets inserts, none being there. -/
structure Inserts (tz : TzInfo) (now : Instant) (instances : Table TaskInstance.id)
    (targets : List (TaskDefinition × Date)) (task : TaskInstance)
    (defn : TaskDefinition) (targetDate : Date) (due : Instant) : Prop where
  target : (defn, targetDate) ∈ targets
  scheduled : shouldGenerateForDate defn targetDate = .ok true
  timed : dueUtc tz targetDate defn.dueTime = .ok due
  free : ∀ old ∈ instances.rows, ¬ (old.definitionId = defn.id ∧ old.dueAt = due)
  built : task = newInstance defn due now task.id

theorem upsertAll_rows {tz : TzInfo} {now : Instant}
    {targets : List (TaskDefinition × Date)} {instances generated : Table TaskInstance.id}
    (upserts : upsertAll tz now targets instances = .ok generated) :
    (∀ task ∈ instances.rows, task ∈ generated.rows) ∧
      ∀ task ∈ generated.rows, task ∈ instances.rows ∨
        ∃ defn targetDate due,
          Inserts tz now instances targets task defn targetDate due := by
  refine upsertAll_invariant (fun table =>
    (∀ task ∈ instances.rows, task ∈ table.rows) ∧
      ∀ task ∈ table.rows, task ∈ instances.rows ∨
        ∃ defn targetDate due,
          Inserts tz now instances targets task defn targetDate due)
    ?_ ⟨fun _ member => member, fun _ member => Or.inl member⟩ upserts
  rintro before after defn targetDate target ⟨keeps, origin⟩ upserted
  rcases upsert_cases upserted with same | ⟨due, scheduled, timed, free, inserted⟩
  · rw [same]
    exact ⟨keeps, origin⟩
  · rw [inserted]
    constructor
    · intro task member
      exact Table.mem_append.mpr (Or.inl (keeps task member))
    · intro task member
      rcases Table.mem_append.mp member with old | rfl
      · exact origin task old
      · exact Or.inr ⟨defn, targetDate, due, target, scheduled, timed,
          fun old oldMember => free old (keeps old oldMember), rfl⟩

/-- After an upsert the scheduled instance is there, new or not. -/
theorem upsert_covers {tz : TzInfo} {now : Instant}
    {instances next : Table TaskInstance.id} {defn : TaskDefinition}
    {targetDate : Date} {due : Instant}
    (scheduled : shouldGenerateForDate defn targetDate = .ok true)
    (timed : dueUtc tz targetDate defn.dueTime = .ok due)
    (upserted : upsertInstanceForDate tz now instances defn targetDate = .ok next) :
    ∃ task ∈ next.rows, task.definitionId = defn.id ∧ task.dueAt = due := by
  simp only [upsertInstanceForDate, scheduled, timed] at upserted
  cases upserted
  unfold insertOnConflictDoNothing
  split
  · rename_i present
    exact present
  · exact ⟨newInstance defn due now instances.freshKey,
      Table.mem_append.mpr (Or.inr rfl), rfl, rfl⟩

theorem upsertAll_covers {tz : TzInfo} {now : Instant}
    {targets : List (TaskDefinition × Date)} {instances generated : Table TaskInstance.id}
    (upserts : upsertAll tz now targets instances = .ok generated)
    {defn : TaskDefinition} {targetDate : Date} (target : (defn, targetDate) ∈ targets)
    (scheduled : shouldGenerateForDate defn targetDate = .ok true) {due : Instant}
    (timed : dueUtc tz targetDate defn.dueTime = .ok due) :
    ∃ task ∈ generated.rows, task.definitionId = defn.id ∧ task.dueAt = due := by
  induction targets generalizing instances with
  | nil => cases target
  | cons head rest ih =>
      obtain ⟨headDefn, headDate⟩ := head
      cases upserted : upsertInstanceForDate tz now instances headDefn headDate with
      | error raised =>
          rw [upsertAll, upserted] at upserts
          cases upserts
      | ok middle =>
          rw [upsertAll, upserted] at upserts
          rcases List.mem_cons.mp target with same | later
          · cases same
            obtain ⟨task, member, own⟩ := upsert_covers scheduled timed upserted
            exact ⟨task, (upsertAll_rows upserts).1 task member, own⟩
          · exact ih upserts later

end KidsChores.Workers.GenerateInstances
