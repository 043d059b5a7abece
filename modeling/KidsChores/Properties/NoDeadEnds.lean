import Mathlib.Data.Fintype.EquivFin
import KidsChores.Properties.ChoreCards
import KidsChores.Properties.StorableTexts
import KidsChores.Properties.BulkReview
import KidsChores.Properties.LedgerCalls

/-!
# No dead ends

A parent of its household can always close an open task with two requests, whatever has
happened to it: a denial, which is refused where there is nothing to decide, and a
cancellation.  And its household always has a parent.
-/

set_option autoImplicit false

namespace KidsChores.Properties

open KidsChores.Api
open KidsChores.Library
open KidsChores.Library.PyDatetime
open KidsChores.Library.PyText
open KidsChores.Library.Runs
open KidsChores.Models
open KidsChores.Routers
open KidsChores.Routers.Tasks
open KidsChores.Server
open KidsChores.Services.Idempotency
open KidsChores.Services.Ledger
open KidsChores.Services.StateMachine
open KidsChores.Session

/-! ## Families -/

structure TaskParent (db : Database) (task : TaskInstance) (parent : Member) : Prop where
  stored : parent ∈ db.members.rows
  role : parent.role = .parent
  ofHousehold : ∃ definition ∈ db.definitions.rows, definition.id = task.definitionId ∧
    definition.householdId = parent.householdId

structure Families (db : Database) : Prop where
  homes : ∀ member ∈ db.members.rows, ∃ household ∈ db.households.rows,
    household.id = member.householdId
  parents : ∀ definition ∈ db.definitions.rows, ∃ parent ∈ db.members.rows,
    parent.role = .parent ∧ parent.householdId = definition.householdId

section Writes

variable {db next : Database}

theorem parents_stay (stay : MembersStay db next) {householdId : Uuid}
    (had : ∃ parent ∈ db.members.rows, parent.role = .parent ∧
      parent.householdId = householdId) :
    ∃ parent ∈ next.members.rows, parent.role = .parent ∧
      parent.householdId = householdId := by
  obtain ⟨parent, stored, role, home⟩ := had
  obtain ⟨later, laterStored, _, sameHousehold, sameRole⟩ := stay parent stored
  exact ⟨later, laterStored, sameRole.trans role, sameHousehold.trans home⟩

theorem write_homes (families : Families db) (write : Write db next) :
    ∀ member ∈ next.members.rows, ∃ household ∈ next.households.rows,
      household.id = member.householdId := by
  cases write with
  | @householdSaved household edited stored sameId =>
      intro member memberStored
      obtain ⟨home, homeStored, named⟩ := families.homes member memberStored
      by_cases own : home.id = edited.id
      · exact ⟨edited, Table.mem_save.mpr (Or.inl ⟨rfl, home, homeStored, own⟩),
          own.symm.trans named⟩
      · exact ⟨home, Table.mem_save.mpr (Or.inr ⟨homeStored, own⟩), named⟩
  | familyFounded founded =>
      intro member memberStored
      obtain ⟨_, kept, members⟩ := foundFamily_rows founded
      rcases members member memberStored with old | ⟨_, home⟩
      · obtain ⟨household, householdStored, named⟩ := families.homes member old
        exact ⟨household, kept household householdStored, named⟩
      · exact home
  | @teenAdded build household keyed stored home =>
      intro member memberStored
      rcases List.mem_append.mp memberStored with old | new
      · exact families.homes member old
      · rw [List.mem_singleton.mp new]
        exact ⟨household, stored, (home _).symm⟩
  | @memberSaved member edited stored sameId sameHousehold sameRole =>
      intro other otherStored
      rcases Table.mem_save.mp otherStored with ⟨same, _⟩ | ⟨old, _⟩
      · rw [same, sameHousehold]
        exact families.homes member stored
      · exact families.homes other old
  | called | generated | swept | adjusted | claimed | claimResolved | definitionAdded
  | definitionSaved | seriesAdded | seriesSaved => exact families.homes

theorem write_parents (families : Families db) (write : Write db next) :
    ∀ definition ∈ next.definitions.rows, ∃ parent ∈ next.members.rows,
      parent.role = .parent ∧ parent.householdId = definition.householdId := by
  have stay := write.membersStay
  have kept : next.definitions = db.definitions →
      ∀ definition ∈ next.definitions.rows, ∃ parent ∈ next.members.rows,
        parent.role = .parent ∧ parent.householdId = definition.householdId := by
    intro same definition stored
    rw [same] at stored
    exact parents_stay stay (families.parents definition stored)
  cases write with
  | @definitionAdded request parent household loaded assignee =>
      intro definition stored
      rcases List.mem_append.mp stored with old | new
      · exact families.parents definition old
      · obtain ⟨parentFound, householdFound⟩ := loadParent_ok loaded
        rw [List.mem_singleton.mp new]
        exact ⟨parent, Table.mem_of_find? parentFound, loadParent_role loaded,
          (Table.key_of_find? householdFound).symm⟩
  | @definitionSaved definition edited stored same =>
      intro other otherStored
      rcases Table.mem_save.mp otherStored with ⟨saved, _⟩ | ⟨old, _⟩
      · rw [saved, same.householdId]
        exact families.parents definition stored
      · exact families.parents other old
  | familyFounded founded =>
      refine kept ?_
      rw [(foundFamily_rows founded).1]
  | seriesAdded =>
      intro definition stored
      obtain ⟨old, oldStored, rfl⟩ := Series.mem_afterSeries_definitions.mp stored
      have had := families.parents old oldStored
      split
      · exact had
      · exact had
  | called | generated | swept | adjusted | claimed | claimResolved | seriesSaved
  | householdSaved | teenAdded | memberSaved => exact kept rfl

theorem families_empty : Families {} :=
  ⟨List.forall_mem_nil _, List.forall_mem_nil _⟩

/-- Every household with a definition has a parent. -/
theorem families_always (pytz : String → Option TzInfo)
    (verifyPassword : String → String → Bool) (events : List ServerEvent) :
    Always (serverStep pytz verifyPassword) (fun server => Families server.world.db)
      emptyServer events := by
  refine writes_always Families families_empty ?_ events
  intro db next _ families write
  exact ⟨write_homes families write, write_parents families write⟩

end Writes

/-! ## The requests -/

/-- A denial, with the comment it needs, and then a cancellation. -/
def closing (parentId taskId : Uuid) (denied cancelled : Clock) (first second : String) :
    List ServerEvent :=
  [.api (.reviewTask ⟨denied, parentId, taskId, first⟩ false (some "No.")),
    .api (.cancelTask ⟨cancelled, parentId, taskId, second⟩ none)]

section Requests

variable {world : World} {parent : Member} {task : TaskInstance}

theorem parent_loads (families : Families world.db) (byParent : TaskParent world.db task parent)
    (stored : task ∈ world.db.instances.rows) (clock : Clock) (key : String) :
    ∃ household definition,
      loadForRequest ⟨clock, parent.id, task.id, key⟩ requireParent anyTask world.db =
        .ok (parent, household, definition, task) := by
  obtain ⟨parentStored, role, definition, definitionStored, named, own⟩ := byParent
  obtain ⟨household, householdStored, home⟩ := families.homes parent parentStored
  have memberFound : getCurrentMember world.db parent.id = .ok parent := by
    unfold getCurrentMember
    rw [Table.find?_self world.db.members parentStored]
  have householdFound : getCurrentHousehold world.db parent = .ok household := by
    unfold getCurrentHousehold
    rw [← home, Table.find?_self world.db.households householdStored]
  have isParent : requireParent parent = .ok () := by
    unfold requireParent
    rw [if_pos role]
  have taskFound : findInstance? world.db household task.id = some (definition, task) := by
    have definitionFound : world.db.definitions.find? task.definitionId = some definition := by
      rw [← named]
      exact Table.find?_self world.db.definitions definitionStored
    simp only [findInstance?, Table.find?_self world.db.instances stored, definitionFound,
      Option.bind_eq_bind, Option.bind_some]
    rw [if_pos (own.trans home.symm)]
  refine ⟨household, definition, ?_⟩
  simp only [loadForRequest, memberFound, isParent, householdFound, getInstanceOr404,
    taskFound, anyTask, bind, Except.bind, pure, Except.pure]

theorem taskMutation_returns {role : Member → Except RequestError Unit}
    {owns : Member → TaskInstance → Except RequestError Unit} {handler : TaskHandler}
    {request : TaskRequest} {household : Models.Household} {definition : TaskDefinition}
    {result : TaskInstance} {next : Database}
    (loaded : loadForRequest request role owns world.db =
      .ok (parent, household, definition, task))
    (unused : Unused world.cache parent.id request.idempotencyKey)
    (ran : handler household definition parent task ⟨world.db, true⟩ =
      .ok (result, ⟨next, true⟩)) :
    (taskMutation role owns handler request world).1 = ⟨next, world.cache.setNx
      request.clock.now parent.id request.idempotencyKey (.task (.ofTask result))⟩ := by
  unfold taskMutation
  rw [loaded]
  dsimp only
  rw [runHandler_fresh (unused.get request.clock.now), ran]
  rfl

theorem taskMutation_refuses {role : Member → Except RequestError Unit}
    {owns : Member → TaskInstance → Except RequestError Unit} {handler : TaskHandler}
    {request : TaskRequest} {household : Models.Household} {definition : TaskDefinition}
    {raised : RequestError}
    (loaded : loadForRequest request role owns world.db =
      .ok (parent, household, definition, task))
    (unused : Unused world.cache parent.id request.idempotencyKey)
    (refused : handler household definition parent task ⟨world.db, true⟩ = .error raised) :
    (taskMutation role owns handler request world).1 = world := by
  unfold taskMutation
  rw [loaded]
  dsimp only
  rw [runHandler_fresh (unused.get request.clock.now), refused]
  rfl

theorem cancelTask_closes (families : Families world.db) (texts : TextsStored world.db)
    (byParent : TaskParent world.db task parent) (stored : task ∈ world.db.instances.rows)
    (actionable : Actionable task.status) (clock : Clock) {key : String}
    (unused : Unused world.cache parent.id key) :
    ∃ result, result.id = task.id ∧ result.status = .cancelled ∧
      (cancelTask ⟨clock, parent.id, task.id, key⟩ none world).1.db =
        storeCall world.db result world.db.ledger := by
  obtain ⟨household, definition, loaded⟩ := parent_loads families byParent stored clock key
  obtain ⟨result, ledger, ran⟩ :=
    @cancel_isOk clock parent task world.db.ledger none actionable
  cases @cancel_effect clock household definition parent task _ _ _ _ ran
  have storable : storableTask (decisionRow clock parent task none .cancelled) = true := by
    have texts := texts task stored
    simp only [storableTask, Bool.and_eq_true] at texts ⊢
    exact ⟨texts.1, rfl⟩
  have handled : cancelHandler clock none household definition parent task ⟨world.db, true⟩ =
      .ok (decisionRow clock parent task none .cancelled,
        ⟨storeCall world.db (decisionRow clock parent task none .cancelled) world.db.ledger,
          true⟩) := by
    simp only [cancelHandler, ran, catchInvalidTransition, ofService, Except.mapError,
      OpenSession.putCall_storable storable, bind, Except.bind, pure, Except.pure]
  refine ⟨decisionRow clock parent task none .cancelled, rfl, rfl, ?_⟩
  unfold cancelTask
  rw [taskMutation_returns loaded unused handled]

theorem denied_status {clock : Clock} {household : Models.Household}
    {definition : TaskDefinition} {comment : Option String} {call : ServiceCall}
    {result : TaskInstance} {ledger nextLedger : Ledger}
    (decision : IsDecision false comment call)
    (effect : CallEffect clock household definition parent task ledger call result
      nextLedger) :
    (Actionable result.status ∨ result.status = .missed) ∧ nextLedger = ledger := by
  rcases decision with rfl | rfl
  · cases effect with
    | deniedBeforeDue => exact ⟨Or.inl (Or.inl rfl), rfl⟩
    | deniedAfterDue => exact ⟨Or.inl (Or.inr rfl), rfl⟩
  · cases effect with
    | excuseDeniedInGrace => exact ⟨Or.inl (Or.inr rfl), rfl⟩
    | excuseDeniedExpired => exact ⟨Or.inr rfl, rfl⟩

theorem deny_returns {clock : Clock} {household : Models.Household}
    {definition : TaskDefinition} {comment : Option String} {call : ServiceCall}
    {ledger : Ledger} (decided : decisionCall false comment task.status = some call)
    (said : truthy comment = true) :
    ∃ result nextLedger, call.run clock household definition parent task ledger =
      .ok (result, nextLedger) := by
  obtain ⟨decision, accepted⟩ := decisionCall_some decided
  refine run_isOk_iff.mpr ⟨accepted, ?_⟩
  rcases decision with rfl | rfl
  · exact said
  · exact said

/-- What a denial leaves: the task as it was, if there was nothing to decide, or the
task with nothing left to decide. -/
theorem reviewTask_denies (families : Families world.db) (texts : TextsStored world.db)
    (byParent : TaskParent world.db task parent) (stored : task ∈ world.db.instances.rows)
    (clock : Clock) {key : String} (unused : Unused world.cache parent.id key) :
    ((reviewTask ⟨clock, parent.id, task.id, key⟩ false (some "No.") world).1 = world ∧
        task.status ≠ .reviewPending ∧ task.status ≠ .excusePending) ∨
      ∃ result response, result.id = task.id ∧ result.definitionId = task.definitionId ∧
        (Actionable result.status ∨ result.status = .missed) ∧
        (reviewTask ⟨clock, parent.id, task.id, key⟩ false (some "No.") world).1 =
          ⟨storeCall world.db result world.db.ledger,
            world.cache.setNx clock.now parent.id key response⟩ := by
  obtain ⟨household, definition, loaded⟩ := parent_loads families byParent stored clock key
  cases decided : decisionCall false (some "No.") task.status with
  | none =>
      have refused : reviewHandler clock false (some "No.") household definition parent task
          ⟨world.db, true⟩ = .error (.http 422 (notPendingReview task)) := by
        simp only [reviewHandler, reviewCall_decision, decided, Option.map_none]
      refine Or.inl ⟨taskMutation_refuses loaded unused refused, ?_, ?_⟩
      · rintro same
        simp [decisionCall, same] at decided
      · rintro same
        simp [decisionCall, same] at decided
  | some call =>
      obtain ⟨result, ledger, ran⟩ := @deny_returns parent task clock household definition _ _
        world.db.ledger decided (by decide)
      have decision := (decisionCall_some decided).1
      have effect := run_effect ran
      obtain ⟨status, rfl⟩ := denied_status decision effect
      have storable := decided_texts (texts task stored) (by decide) decision effect
      have handled : reviewHandler clock false (some "No.") household definition parent task
          ⟨world.db, true⟩ =
            .ok (result, ⟨storeCall world.db result world.db.ledger, true⟩) := by
        simp only [reviewHandler, reviewCall_decision, decided, Option.map_some, ran,
          catchValueError, catchInvalidTransition, ofService, Except.mapError,
          OpenSession.putCall_storable storable, bind, Except.bind, pure, Except.pure]
      exact Or.inr ⟨result, _, effect.sameTask.id, effect.sameTask.definitionId, status,
        taskMutation_returns loaded unused handled⟩

end Requests

/-! ## From every state -/

/-- The task has been closed, and nobody got points for it. -/
structure ClosedUnpaid (server : ServerState) (task : TaskInstance) (ledger : Ledger) :
    Prop where
  closed : ∃ row ∈ server.world.db.instances.rows, row.id = task.id ∧ Closed row.status
  sameLedger : server.world.db.ledger = ledger

/-- Whatever the times and the keys, the two requests of a parent close the task. -/
structure ClosableBy (pytz : String → Option TzInfo)
    (verifyPassword : String → String → Bool) (server : ServerState) (task : TaskInstance)
    (parent : Member) : Prop where
  keys : ∃ first second, first ≠ second ∧ Unused server.world.cache parent.id first ∧
    Unused server.world.cache parent.id second
  closes : ∀ denied cancelled first second, first ≠ second →
    Unused server.world.cache parent.id first → Unused server.world.cache parent.id second →
      ClosedUnpaid (runFrom (serverStep pytz verifyPassword) server
        (closing parent.id task.id denied cancelled first second)) task server.world.db.ledger

structure WayOut (pytz : String → Option TzInfo) (verifyPassword : String → String → Bool)
    (server : ServerState) (task : TaskInstance) : Prop where
  parent : ∃ parent, TaskParent server.world.db task parent
  closable : ∀ parent, TaskParent server.world.db task parent →
    ClosableBy pytz verifyPassword server task parent

theorem unused_keys (cache : Cache Response) (memberId : Uuid) :
    ∃ first second, first ≠ second ∧ Unused cache memberId first ∧
      Unused cache memberId second := by
  obtain ⟨first, firstNew⟩ := Infinite.exists_notMem_finset
    (cache.map CacheEntry.idempotencyKey).toFinset
  obtain ⟨second, secondNew⟩ := Infinite.exists_notMem_finset
    (first :: cache.map CacheEntry.idempotencyKey).toFinset
  simp only [List.mem_toFinset, List.mem_cons, List.mem_map, not_or, not_exists,
    not_and] at firstNew secondNew
  exact ⟨first, second, Ne.symm secondNew.1, fun entry member _ => firstNew entry member,
    fun entry member _ => secondNew.2 entry member⟩

section Server

variable {pytz : String → Option TzInfo} {verifyPassword : String → String → Bool}
variable {server : ServerState} {task : TaskInstance} {parent : Member}

theorem cancel_closes (families : Families server.world.db)
    (texts : TextsStored server.world.db) (byParent : TaskParent server.world.db task parent)
    (stored : task ∈ server.world.db.instances.rows)
    (settles : Actionable task.status ∨ task.status = .missed) (clock : Clock) {key : String}
    (unused : Unused server.world.cache parent.id key) :
    ClosedUnpaid (serverStep pytz verifyPassword server
      (.api (.cancelTask ⟨clock, parent.id, task.id, key⟩ none))) task
        server.world.db.ledger := by
  rcases settles with actionable | missed
  · obtain ⟨result, sameId, cancelled, left⟩ :=
      cancelTask_closes families texts byParent stored actionable clock unused
    simp only [serverStep, apiStep]
    refine ⟨⟨result, ?_, sameId, ?_⟩, ?_⟩
    · rw [left]
      exact Table.mem_save.mpr (Or.inl ⟨rfl, task, stored, sameId.symm⟩)
    · exact Or.inr (Or.inr (Or.inr cancelled))
    · rw [left]
      rfl
  · have same : (cancelTask ⟨clock, parent.id, task.id, key⟩ none server.world).1.db =
        server.world.db := by
      rcases cancelTask_db ⟨clock, parent.id, task.id, key⟩ none server.world with
        same | ⟨_, _, _, loadedTask, _, _, loaded, effect, _⟩
      · exact same
      · obtain ⟨found, _⟩ := findInstance?_ok (loadForRequest_ok loaded).taskFound
        have own : loadedTask = task := server.world.db.instances.row_unique
          (Table.mem_of_find? found) stored (Table.key_of_find? found)
        have accepted : Actionable loadedTask.status := effect.accepts
        rw [own, missed] at accepted
        simp [Actionable] at accepted
    simp only [serverStep, apiStep]
    refine ⟨⟨task, ?_, rfl, Or.inr (Or.inr (Or.inl missed))⟩, ?_⟩
    · rw [same]
      exact stored
    · rw [same]

theorem actionable_of_open {status : TaskStatus} (open_ : ¬ Closed status)
    (notReview : status ≠ .reviewPending) (notExcuse : status ≠ .excusePending) :
    Actionable status := by
  cases status <;> simp_all [Closed, Actionable]

theorem closing_closes (families : Families server.world.db)
    (texts : TextsStored server.world.db) (byParent : TaskParent server.world.db task parent)
    (stored : task ∈ server.world.db.instances.rows) (open_ : ¬ Closed task.status) :
    ClosableBy pytz verifyPassword server task parent := by
  refine ⟨unused_keys server.world.cache parent.id, ?_⟩
  intro denied cancelled first second different freshFirst freshSecond
  have denial := serverStep_texts pytz verifyPassword server
    (.api (.reviewTask ⟨denied, parent.id, task.id, first⟩ false (some "No."))) texts
  simp only [closing, runFrom]
  rcases reviewTask_denies families texts byParent stored denied freshFirst with
    ⟨same, notReview, notExcuse⟩ | ⟨result, response, sameId, sameDefinition, status, left⟩
  · have unmoved : serverStep pytz verifyPassword server
        (.api (.reviewTask ⟨denied, parent.id, task.id, first⟩ false (some "No."))) =
          server := by
      simp only [serverStep, apiStep, same]
    rw [unmoved]
    exact cancel_closes families texts byParent stored
      (Or.inl (actionable_of_open open_ notReview notExcuse)) cancelled freshSecond
  · simp only [serverStep, apiStep, left] at denial ⊢
    have decided := @cancel_closes pytz verifyPassword
      { server with world := ⟨storeCall server.world.db result server.world.db.ledger,
        server.world.cache.setNx denied.now parent.id first response⟩ } result parent
      ⟨families.homes, families.parents⟩ denial
      ⟨byParent.stored, byParent.role, sameDefinition ▸ byParent.ofHousehold⟩
      (Table.mem_save.mpr (Or.inl ⟨rfl, task, stored, sameId.symm⟩)) status cancelled second
      (freshSecond.setNx different)
    rw [sameId] at decided
    obtain ⟨⟨row, rowStored, rowId, closed⟩, sameLedger⟩ := decided
    exact ⟨⟨row, rowStored, rowId.trans sameId, closed⟩, sameLedger⟩

theorem task_parent (settled : SettledRows server.world.db)
    (families : Families server.world.db) (stored : task ∈ server.world.db.instances.rows) :
    ∃ parent, TaskParent server.world.db task parent := by
  obtain ⟨owner, owned, _⟩ := settled.instances task stored
  obtain ⟨definition, found, rfl⟩ := Option.map_eq_some_iff.mp owned
  obtain ⟨parent, parentStored, role, home⟩ :=
    families.parents definition (Table.mem_of_find? found)
  exact ⟨parent, parentStored, role, definition, Table.mem_of_find? found,
    Table.key_of_find? found, home.symm⟩

end Server

/-- In every state of a run, an open task is of a household with a parent, and each of
its parents can close it, without points, with two requests. -/
theorem no_dead_ends (pytz : String → Option TzInfo)
    (verifyPassword : String → String → Bool) (events : List ServerEvent) :
    Always (serverStep pytz verifyPassword)
      (fun server => ∀ task ∈ server.world.db.instances.rows, ¬ Closed task.status →
        WayOut pytz verifyPassword server task) emptyServer events := by
  have always := (settled_always events).and
    ((families_always pytz verifyPassword events).and (texts_always pytz verifyPassword events))
  refine always.imp ?_
  rintro server ⟨settled, families, texts⟩ task stored open_
  exact ⟨task_parent settled families stored,
    fun parent byParent => closing_closes families texts byParent stored open_⟩

end KidsChores.Properties
