import KidsChores.Properties.ApprovalInbox
import KidsChores.Properties.NoDeadEnds

/-!
# Deciding the whole inbox

A batch that decides every item of the inbox, each once and each denial with a reason,
decides them all and leaves an empty inbox, or it is taken back as a whole.  Denials alone
are never taken back.
-/

set_option autoImplicit false

namespace KidsChores.Properties

open KidsChores.Library
open KidsChores.Library.OrderBy
open KidsChores.Library.PyDatetime
open KidsChores.Library.PyText
open KidsChores.Library.Runs
open KidsChores.Models
open KidsChores.Routers
open KidsChores.Routers.Approvals
open KidsChores.Routers.Listings
open KidsChores.Routers.Tasks
open KidsChores.Server
open KidsChores.Services.StateMachine
open KidsChores.Session

structure AwaitsExactly (db : Database) (household : Household) (ids : List Uuid) :
    Prop where
  distinct : ids.Nodup
  all : ∀ task ∈ db.instances.rows, Awaits db household task → task.id ∈ ids
  each : ∀ id ∈ ids, ∃ task ∈ db.instances.rows, task.id = id ∧ Awaits db household task

/-! ## One item -/

section Item

variable {transaction : Instant} {household : Household} {parent : Member}
  {item : BulkApproveItem} {db : Database} {definition : TaskDefinition}
  {task result : TaskInstance} {ledger : Ledger}

theorem decided_settled {clock : Clock} {approve : Bool} {comment : Option String}
    {call : ServiceCall} {nextLedger : Ledger} (decision : IsDecision approve comment call)
    (effect : CallEffect clock household definition parent task ledger call result
      nextLedger) : result.status ≠ .reviewPending ∧ result.status ≠ .excusePending := by
  rcases decision with rfl | rfl
  · cases effect <;> exact ⟨nofun, nofun⟩
  · cases effect <;> exact ⟨nofun, nofun⟩

theorem findInstance?_awaits (stored : task ∈ db.instances.rows)
    (awaits : Awaits db household task) :
    ∃ definition, findInstance? db household task.id = some (definition, task) := by
  obtain ⟨⟨definition, definitionStored, named, own⟩, _⟩ := awaits
  refine ⟨definition, ?_⟩
  have definitionFound : db.definitions.find? task.definitionId = some definition := by
    rw [← named]
    exact Table.find?_self db.definitions definitionStored
  simp only [findInstance?, Table.find?_self db.instances stored, definitionFound,
    Option.bind_eq_bind, Option.bind_some]
  rw [if_pos own]

theorem singleReview_decides (settles : ItemSettles household parent db item)
    (reason : item.approve = false → truthy item.comment = true)
    (found : findInstance? db household item.taskInstanceId = some (definition, task))
    (awaits : task.status = .reviewPending ∨ task.status = .excusePending) :
    ∃ result nextLedger, result.id = task.id ∧ result.definitionId = task.definitionId ∧
      (result.status ≠ .reviewPending ∧ result.status ≠ .excusePending) ∧
      (item.approve = false → nextLedger = db.ledger) ∧
      singleReview transaction household parent item db =
        some (storeCall db result nextLedger) := by
  have asked : ∃ call, decisionCall item.approve item.comment task.status = some call := by
    unfold decisionCall
    rcases awaits with inReview | submitted
    · exact ⟨_, if_pos inReview⟩
    · exact ⟨_, by rw [if_neg (by rw [submitted]; nofun), if_pos submitted]⟩
  obtain ⟨call, decided⟩ := asked
  obtain ⟨decision, accepted⟩ := decisionCall_some decided
  obtain ⟨approved, stores⟩ := settles definition task found call decided
  have passes : call.PassesChecks household definition parent task db.ledger := by
    cases approve : item.approve with
    | true => exact approved approve
    | false =>
        rw [approve] at decision
        rcases decision with rfl | rfl
        · exact reason approve
        · exact reason approve
  obtain ⟨result, nextLedger, ran⟩ := (@run_isOk_iff ⟨transaction, item.now⟩ _ _ _ _ _ _).mpr
    ⟨accepted, passes⟩
  have effect := run_effect ran
  have storable : storableTask result = true :=
    (decision_texts decision effect).trans (stores passes)
  refine ⟨result, nextLedger, effect.sameTask.id, effect.sameTask.definitionId,
    decided_settled decision effect, ?_, ?_⟩
  · intro denial
    rw [denial] at decision
    exact (denied_status decision effect).2
  · simp only [singleReview, found, reviewHandler, reviewCall_decision, decided,
      Option.map_some, ran, catchValueError, catchInvalidTransition, ofService,
      Except.mapError, OpenSession.putCall_storable storable, bind, Except.bind, pure,
      Except.pure, if_true]

theorem AwaitsExactly.next {nextLedger : Ledger} {ids : List Uuid}
    (exactly : AwaitsExactly db household (task.id :: ids))
    (sameId : result.id = task.id)
    (settled : result.status ≠ .reviewPending ∧ result.status ≠ .excusePending) :
    AwaitsExactly (storeCall db result nextLedger) household ids := by
  obtain ⟨distinct, all, each⟩ := exactly
  obtain ⟨fresh, rest⟩ := List.nodup_cons.mp distinct
  refine ⟨rest, ?_, ?_⟩
  · intro row saved awaits
    rcases Table.mem_save.mp saved with ⟨rfl, _⟩ | ⟨old, other⟩
    · exact (awaits.2.elim settled.1 settled.2).elim
    · rcases List.mem_cons.mp (all row old awaits) with same | listed
      · exact absurd (same.trans sameId.symm) other
      · exact listed
  · intro id listed
    obtain ⟨row, stored, named, awaits⟩ := each id (List.mem_cons_of_mem _ listed)
    refine ⟨row, Table.mem_save.mpr (Or.inr ⟨stored, ?_⟩), named, awaits⟩
    rintro same
    rw [← named, same, sameId] at listed
    exact fresh listed

end Item

/-! ## The batch -/

def OthersStay (db next : Database) (ids : List Uuid) : Prop :=
  ∀ task ∈ db.instances.rows, task.id ∉ ids → task ∈ next.instances.rows

section Batch

variable {transaction : Instant} {household : Household} {parent : Member}
  {items : List BulkApproveItem} {db : Database}

theorem othersStay_cons {result : TaskInstance} {nextLedger : Ledger} {next : Database}
    {ids : List Uuid} (rest : OthersStay (storeCall db result nextLedger) next ids) :
    OthersStay db next (result.id :: ids) := by
  intro task stored unlisted
  have other : task.id ≠ result.id := fun same => unlisted (same ▸ List.mem_cons_self)
  refine rest task (Table.mem_save.mpr (Or.inr ⟨stored, other⟩)) fun listed => ?_
  exact unlisted (List.mem_cons_of_mem _ listed)

theorem batch_clears
    (settled : EachMeets (singleStep transaction household parent)
      (ItemSettles household parent) db items)
    (reasons : ∀ item ∈ items, item.approve = false → truthy item.comment = true)
    (exactly : AwaitsExactly db household (items.map (·.taskInstanceId))) :
    AwaitsExactly (runFrom (singleStep transaction household parent) db items) household [] ∧
      OthersStay db (runFrom (singleStep transaction household parent) db items)
        (items.map (·.taskInstanceId)) ∧
      (∀ flag ∈ singleFlags transaction household parent db items, flag = true) ∧
      ((∀ item ∈ items, item.approve = false) →
        (runFrom (singleStep transaction household parent) db items).ledger = db.ledger) := by
  induction items generalizing db with
  | nil => exact ⟨exactly, fun _ stored _ => stored, nofun, fun _ => rfl⟩
  | cons item rest ih =>
      obtain ⟨task, stored, named, awaits⟩ := exactly.each item.taskInstanceId List.mem_cons_self
      obtain ⟨definition, found⟩ := findInstance?_awaits stored awaits
      rw [named] at found
      obtain ⟨result, nextLedger, sameId, _, decided, unpaid, single⟩ :=
        @singleReview_decides transaction household parent item db definition task settled.1
          (reasons item List.mem_cons_self) found awaits.2
      have stepped : singleStep transaction household parent db item =
          storeCall db result nextLedger := by
        unfold singleStep
        rw [single]
        rfl
      rw [List.map_cons, ← named] at exactly
      have remaining := @AwaitsExactly.next household db task result nextLedger _ exactly sameId
        decided
      have settledRest := settled.2
      rw [stepped] at settledRest
      obtain ⟨cleared, kept, flags, ledger⟩ := ih settledRest
        (fun item listed => reasons item (List.mem_cons_of_mem _ listed)) remaining
      unfold runFrom singleFlags
      rw [stepped]
      refine ⟨cleared, ?_, ?_, ?_⟩
      · rw [List.map_cons, ← named, ← sameId]
        exact othersStay_cons kept
      · intro flag listed
        rcases List.mem_cons.mp listed with rfl | later
        · rw [single]
          rfl
        · exact flags flag later
      · intro denials
        rw [ledger fun item listed => denials item (List.mem_cons_of_mem _ listed)]
        exact unpaid (denials item List.mem_cons_self)

theorem denials_settle (texts : TextsStored db)
    (denials : ∀ item ∈ items, item.approve = false ∧ storableText item.comment = true) :
    EachMeets (singleStep transaction household parent) (ItemSettles household parent) db
      items := by
  induction items generalizing db with
  | nil => trivial
  | cons item rest ih =>
      obtain ⟨denial, sent⟩ := denials item List.mem_cons_self
      have stores : ∀ task ∈ db.instances.rows,
          storableTask { task with reviewComment := item.comment } = true := by
        intro task stored
        have old := texts task stored
        simp only [storableTask, Bool.and_eq_true] at old ⊢
        exact ⟨old.1, sent⟩
      have settles : ItemSettles household parent db item := by
        intro definition task found call _
        refine ⟨fun approved => ?_, fun _ => ?_⟩
        · rw [denial] at approved
          cases approved
        · exact stores task (Table.mem_of_find? (findInstance?_ok found).1)
      have later : TextsStored (singleStep transaction household parent db item) := by
        cases approveItem_turn transaction household parent item db with
        | settles _ turn => exact approveItem_holds (fun _ => texts) turn rfl
        | raises unsettled => exact absurd settles unsettled
        | spoils unsettled => exact absurd settles unsettled
      exact ⟨settles, ih later fun item listed => denials item (List.mem_cons_of_mem _ listed)⟩

end Batch

/-! ## The request -/

/-- A batch of a parent, under a key not used before, that decides each item of the inbox
once, in any order and each denial with a reason. -/
structure DecidesInbox (world : World) (request : BulkApproveRequest) : Prop where
  parent : ∃ parent household, loadParent world.db request.memberId = .ok (parent, household)
  unused : Unused world.cache request.memberId request.idempotencyKey
  shown : ∃ shown, getApprovalInbox request.memberId world.db = .ok (some shown) ∧
    (request.items.map (·.taskInstanceId)).Perm (shown.map (·.taskInstanceId))
  reasons : ∀ item ∈ request.items, item.approve = false → truthy item.comment = true

structure Cleared (world : World) (request : BulkApproveRequest) : Prop where
  decided : ∃ results, (bulkApprove request world).2 = .ok (.bulk results) ∧
    ∀ result ∈ results, result.success = true
  empty : getApprovalInbox request.memberId (bulkApprove request world).1.db = .ok (some [])
  others : OthersStay world.db (bulkApprove request world).1.db
    (request.items.map (·.taskInstanceId))

structure TakenBack (world : World) (request : BulkApproveRequest) : Prop where
  raised : ∃ raised, (bulkApprove request world).2 = .error raised
  sameRows : (bulkApprove request world).1.db = world.db

/-- A batch of denials whose reasons can be stored. -/
def DeniesAll (request : BulkApproveRequest) : Prop :=
  ∀ item ∈ request.items, item.approve = false ∧ storableText item.comment = true

section Request

variable {world : World} {request : BulkApproveRequest} {parent : Member}
  {household : Household}

theorem mapM_ids {rows : List Awaited} {items : List ApprovalItem}
    (listed : rows.mapM approvalItem? = some items) :
    items.map (·.taskInstanceId) = rows.map (·.1.id) := by
  induction rows generalizing items with
  | nil =>
      cases listed
      rfl
  | cons awaited rest ih =>
      rw [List.mapM_cons] at listed
      simp only [Option.bind_eq_bind, Option.bind_eq_some_iff, Option.pure_def,
        Option.some.injEq] at listed
      obtain ⟨item, made, others, remaining, rfl⟩ := listed
      rw [List.map_cons, List.map_cons, ih remaining]
      refine congrArg (· :: _) ?_
      unfold approvalItem? at made
      obtain ⟨submitted, _, rfl⟩ := Option.map_eq_some_iff.mp made
      rfl

theorem DecidesInbox.exactly (decides : DecidesInbox world request)
    (settled : SettledRows world.db)
    (loaded : loadParent world.db request.memberId = .ok (parent, household)) :
    AwaitsExactly world.db household (request.items.map (·.taskInstanceId)) := by
  obtain ⟨shown, answered, perm⟩ := decides.shown
  obtain ⟨rows, arranged, returned⟩ := getApprovalInbox_ok loaded
  rw [returned] at answered
  have same := perm.trans (List.Perm.of_eq (mapM_ids (Except.ok.inj answered)))
  have awaited : (request.items.map (·.taskInstanceId)).Perm
      ((awaitingRows world.db household).map (·.1.id)) := same.trans (arranged.perm.map _)
  refine ⟨awaited.nodup_iff.mpr awaitingRows_ids, ?_, ?_⟩
  · intro task stored awaits
    obtain ⟨row, listed, rfl⟩ := exists_awaitingRow settled stored awaits
    exact awaited.mem_iff.mpr (List.mem_map_of_mem listed)
  · intro id listed
    obtain ⟨row, waiting, rfl⟩ := List.mem_map.mp (awaited.mem_iff.mp listed)
    obtain ⟨stored, awaits⟩ := awaits_of_mem waiting
    exact ⟨row.1, stored, rfl, awaits⟩

theorem inbox_empty {db : Database} (exactly : AwaitsExactly db household [])
    (loaded : loadParent db request.memberId = .ok (parent, household)) :
    getApprovalInbox request.memberId db = .ok (some []) := by
  obtain ⟨rows, arranged, returned⟩ := getApprovalInbox_ok loaded
  have nothing : awaitingRows db household = [] := by
    refine List.eq_nil_iff_forall_not_mem.mpr fun row waiting => ?_
    obtain ⟨stored, awaits⟩ := awaits_of_mem waiting
    cases exactly.all row.1 stored awaits
  rw [nothing] at arranged
  rw [returned, arranged.perm.eq_nil]
  rfl

theorem DecidesInbox.cleared (decides : DecidesInbox world request)
    (settled : SettledRows world.db)
    (loaded : loadParent world.db request.memberId = .ok (parent, household))
    (settles : EachMeets (singleStep request.clock.transaction household parent)
      (ItemSettles household parent) world.db request.items) :
    Cleared world request ∧ ((∀ item ∈ request.items, item.approve = false) →
      (bulkApprove request world).1.db.ledger = world.db.ledger) := by
  obtain ⟨committed, results, returned, flags⟩ :=
    bulkApprove_settled loaded decides.unused settles
  obtain ⟨nothing, others, succeeded, unpaid⟩ :=
    batch_clears settles decides.reasons (decides.exactly settled loaded)
  have sameParent : ∀ db, loadParent db request.memberId = .ok (parent, household) →
      ∀ item, loadParent (singleStep request.clock.transaction household parent db item)
        request.memberId = .ok (parent, household) :=
    fun db held item => (loadParent_singleStep _ _ _ _ _ _).trans held
  have stillLoaded := (invariant_always
    (fun db => loadParent db request.memberId = .ok (parent, household))
    (fun db item held => sameParent db held item) loaded request.items).at_end
  refine ⟨⟨⟨results, returned, ?_⟩, ?_, ?_⟩, ?_⟩
  · intro result listed
    have flagged := List.mem_map_of_mem (f := BulkApproveResultItem.success) listed
    rw [flags] at flagged
    exact succeeded _ flagged
  · rw [committed]
    exact inbox_empty nothing stillLoaded
  · rw [committed]
    exact others
  · intro denials
    rw [committed]
    exact unpaid denials

theorem runHandler_refused {clock : Clock} {member : Member} {key : String}
    {deserialize : Response → Except RequestError Response} {handler : Handler}
    {raised : RequestError}
    (refused : (runHandler clock member key deserialize handler world).2 = .error raised) :
    (runHandler clock member key deserialize handler world).1.db = world.db := by
  unfold runHandler at refused ⊢
  split at refused
  · rfl
  · split at refused
    · cases refused
    · rename_i unflushable
      rw [if_neg unflushable]

theorem DecidesInbox.takenBack (decides : DecidesInbox world request)
    (loaded : loadParent world.db request.memberId = .ok (parent, household))
    (unsettled : ¬ EachMeets (singleStep request.clock.transaction household parent)
      (ItemSettles household parent) world.db request.items) : TakenBack world request := by
  obtain ⟨raised, refused⟩ := bulkApprove_unsettled loaded decides.unused unsettled
  refine ⟨⟨raised, refused⟩, ?_⟩
  simp only [bulkApprove, loaded] at refused ⊢
  exact runHandler_refused refused

end Request

/-! ## Every state -/

/-- A batch over the whole inbox clears it or is taken back; a batch of denials clears it
and pays nothing. -/
structure InboxClears (world : World) : Prop where
  allOrNothing : ∀ request, DecidesInbox world request →
    Cleared world request ∨ TakenBack world request
  denials : ∀ request, DecidesInbox world request → DeniesAll request →
    Cleared world request ∧ (bulkApprove request world).1.db.ledger = world.db.ledger

theorem inbox_cleared (pytz : String → Option TzInfo)
    (verifyPassword : String → String → Bool) (events : List ServerEvent) :
    Always (serverStep pytz verifyPassword) (fun server => InboxClears server.world)
      emptyServer events := by
  have settled := @settled_always pytz verifyPassword events
  refine (settled.and (texts_always pytz verifyPassword events)).imp ?_
  rintro server ⟨settled, texts⟩
  constructor
  · intro request decides
    obtain ⟨parent, household, loaded⟩ := decides.parent
    by_cases settles : EachMeets (singleStep request.clock.transaction household parent)
        (ItemSettles household parent) server.world.db request.items
    · exact Or.inl (decides.cleared settled loaded settles).1
    · exact Or.inr (decides.takenBack loaded settles)
  · intro request decides denials
    obtain ⟨parent, household, loaded⟩ := decides.parent
    obtain ⟨cleared, unpaid⟩ := decides.cleared settled loaded (denials_settle texts denials)
    exact ⟨cleared, unpaid fun item listed => (denials item listed).1⟩

end KidsChores.Properties
