import KidsChores.Properties.ServerWrites

/-!
# Texts the columns take

The database refuses a text it cannot store, at the flush or at the commit.  So a row
that a request commits has texts that the next request can write back.
-/

set_option autoImplicit false

namespace KidsChores.Properties

open KidsChores.Api
open KidsChores.Library
open KidsChores.Library.PyDatetime
open KidsChores.Library.Runs
open KidsChores.Lifecycle
open KidsChores.Models
open KidsChores.Routers
open KidsChores.Routers.Approvals
open KidsChores.Routers.Tasks
open KidsChores.Server
open KidsChores.Services.Ledger
open KidsChores.Services.SeriesCompletion
open KidsChores.Services.StateMachine
open KidsChores.Session
open KidsChores.Workers.GenerateInstances

def TextsStored (db : Database) : Prop :=
  ∀ task ∈ db.instances.rows, storableTask task = true

instance (db : Database) : Decidable (TextsStored db) :=
  inferInstanceAs (Decidable (∀ _ ∈ _, _))

/-- What a session holds can be stored, unless its commit will be refused. -/
def HoldsStorable (session : OpenSession) : Prop :=
  session.flushable = true → TextsStored session.db

/-! ## The handlers -/

section Handlers

variable {session next : OpenSession} {clock : Clock} {household : Household}
variable {definition : TaskDefinition} {member : Member} {task result : TaskInstance}

theorem texts_stored_save {db : Database} (stored : TextsStored db) {ledger : Ledger}
    (storable : storableTask result = true) : TextsStored (storeCall db result ledger) := by
  intro row saved
  rcases Table.mem_save.mp saved with ⟨same, _⟩ | ⟨old, _⟩
  · rw [same]
    exact storable
  · exact stored row old

theorem putCall_holds {ledger : Ledger} (holds : HoldsStorable session)
    (put : session.putCall result ledger = .ok next) : HoldsStorable next := by
  have pending : HoldsStorable
      ⟨storeCall session.db result ledger, session.flushable && storableTask result⟩ := by
    intro accepted
    obtain ⟨flushable, storable⟩ := (Bool.and_eq_true _ _).mp accepted
    exact texts_stored_save (holds flushable) storable
  unfold OpenSession.putCall at put
  dsimp only at put
  split at put
  · cases put
    exact pending
  · rw [OpenSession.flush_ok put]
    exact pending

theorem evaluateWindow_holds (holds : HoldsStorable session)
    (returned : evaluateWindow clock member task session = .ok (result, next)) :
    HoldsStorable next := by
  unfold evaluateWindow at returned
  split at returned
  · cases returned
    exact holds
  · obtain ⟨after, flushed, returned⟩ := bind_ok returned
    cases OpenSession.flush_ok (ofService_ok flushed)
    split at returned
    · cases returned
      exact holds
    · obtain ⟨⟨completed, db⟩, evaluated, returned⟩ := bind_ok returned
      cases returned
      intro flushable
      cases evaluate_ok (ofService_ok evaluated) with
      | closed => exact holds flushable
      | outstanding => exact holds flushable
      | paid => exact holds flushable

/-- What a handler keeps of the sessions it gets. -/
def KeepsStorable (handler : TaskHandler) : Prop :=
  ∀ household definition member task session result next, HoldsStorable session →
    handler household definition member task session = .ok (result, next) →
      HoldsStorable next

theorem completeHandler_keeps (clock : Clock) (note : Option String) :
    KeepsStorable (completeHandler clock note) := by
  intro household definition member task session result next holds returned
  obtain ⟨⟨completed, ledger⟩, _, returned⟩ := bind_ok returned
  obtain ⟨after, put, returned⟩ := bind_ok returned
  exact evaluateWindow_holds (putCall_holds holds (ofService_ok put)) returned

theorem excuseHandler_keeps (clock : Clock) (excuseText : String) :
    KeepsStorable (excuseHandler clock excuseText) := by
  intro household definition member task session result next holds returned
  obtain ⟨⟨submitted, ledger⟩, _, returned⟩ := bind_ok returned
  obtain ⟨after, put, returned⟩ := bind_ok returned
  obtain ⟨last, flushed, returned⟩ := bind_ok returned
  cases returned
  rw [OpenSession.flush_ok (ofService_ok flushed)]
  exact putCall_holds holds (ofService_ok put)

theorem reviewHandler_keeps (clock : Clock) (approve : Bool) (comment : Option String) :
    KeepsStorable (reviewHandler clock approve comment) := by
  intro household definition parent task session result next holds returned
  unfold reviewHandler at returned
  split at returned
  · cases returned
  · obtain ⟨⟨row, ledger⟩, _, returned⟩ := bind_ok returned
    obtain ⟨after, put, returned⟩ := bind_ok returned
    cases returned
    exact putCall_holds holds (ofService_ok put)

theorem cancelHandler_keeps (clock : Clock) (reason : Option String) :
    KeepsStorable (cancelHandler clock reason) := by
  intro household definition parent task session result next holds returned
  obtain ⟨⟨cancelled, ledger⟩, _, returned⟩ := bind_ok returned
  obtain ⟨after, put, returned⟩ := bind_ok returned
  cases returned
  exact putCall_holds holds (ofService_ok put)

theorem approveItem_holds {transaction : Instant} {item : BulkApproveItem}
    {outcome : BulkApproveResultItem} (holds : HoldsStorable session)
    (returned : approveItem transaction household member item session =
      .ok (outcome, next)) : HoldsStorable next := by
  unfold approveItem at returned
  obtain ⟨after, flushed, returned⟩ := bind_ok returned
  cases OpenSession.flush_ok (ofService_ok flushed)
  split at returned
  · cases returned
    exact holds
  · split at returned
    · cases returned
      exact holds
    · split at returned
      · cases returned
        exact holds
      · cases returned
    · obtain ⟨stored, put, returned⟩ := bind_ok returned
      cases returned
      exact putCall_holds holds (ofService_ok put)

theorem runBatch_holds {transaction : Instant} {items : List BulkApproveItem}
    {results : List BulkApproveResultItem} (holds : HoldsStorable session)
    (ran : runBatch transaction household member items session = .ok (results, next)) :
    HoldsStorable next := by
  induction items generalizing session results with
  | nil =>
      cases ran
      exact holds
  | cons item rest ih =>
      obtain ⟨⟨outcome, after⟩, returned, ran⟩ := bind_ok ran
      obtain ⟨⟨others, later⟩, remaining, ran⟩ := bind_ok ran
      cases ran
      exact ih (approveItem_holds holds returned) remaining

end Handlers

/-! ## The requests -/

section Requests

variable {world : World}

/-- A request commits what its handler holds only where the commit is accepted. -/
theorem runHandler_texts {clock : Clock} {member : Member} {key : String}
    {deserialize : Response → Except RequestError Response} {handler : Handler}
    (stored : TextsStored world.db)
    (keeps : ∀ response session, handler ⟨world.db, true⟩ = .ok (response, session) →
      HoldsStorable session) :
    TextsStored (runHandler clock member key deserialize handler world).1.db := by
  unfold runHandler
  split
  · exact stored
  · rename_i response session cache run
    split
    · rename_i flushable
      rcases Services.Idempotency.runIdempotent_ok (congrArg Prod.fst run) with
        replayed | ⟨_, returned⟩
      · rw [replayed]
        exact stored
      · exact keeps response session returned flushable
    · exact stored

theorem taskMutation_texts {role : Member → Except RequestError Unit}
    {owns : Member → TaskInstance → Except RequestError Unit} {handler : TaskHandler}
    (keeps : KeepsStorable handler) (request : TaskRequest) (stored : TextsStored world.db) :
    TextsStored (taskMutation role owns handler request world).1.db := by
  unfold taskMutation
  split
  · exact stored
  · rename_i member household definition task _
    refine runHandler_texts stored fun response session returned => ?_
    cases ran : handler household definition member task ⟨world.db, true⟩ with
    | error raised =>
        rw [ran] at returned
        cases returned
    | ok outcome =>
        rw [ran] at returned
        cases returned
        exact keeps _ _ _ _ _ _ _ (fun _ => stored) ran

theorem bulkApprove_texts (request : BulkApproveRequest) (stored : TextsStored world.db) :
    TextsStored (bulkApprove request world).1.db := by
  unfold bulkApprove
  split
  · exact stored
  · rename_i parent household _
    refine runHandler_texts stored fun response session returned => ?_
    cases ran : runBatch request.clock.transaction household parent request.items
        ⟨world.db, true⟩ with
    | error raised =>
        rw [ran] at returned
        cases returned
    | ok outcome =>
        rw [ran] at returned
        cases returned
        exact runBatch_holds (fun _ => stored) ran

/-! ## The other writes of instances -/

theorem upsert_texts {tz : TzInfo} {now : Instant} {definition : TaskDefinition}
    {targetDate : Date} {before after : Table TaskInstance.id}
    (stored : ∀ task ∈ before.rows, storableTask task = true)
    (upserted : upsertInstanceForDate tz now before definition targetDate = .ok after) :
    ∀ task ∈ after.rows, storableTask task = true := by
  rcases upsert_cases upserted with same | ⟨due, _, _, _, inserted⟩
  · rw [same]
    exact stored
  · intro task member
    rw [inserted] at member
    rcases Table.mem_append.mp member with old | rfl
    · exact stored task old
    · rfl

theorem generateForHousehold_texts {pytz : String → Option TzInfo} {clock : JobClock}
    {householdId : Uuid} {db next : Database} (stored : TextsStored db)
    (success : generateForHousehold pytz clock householdId db = .ok next) :
    TextsStored next := by
  obtain ⟨household, tz, generated, run⟩ := generateForHousehold_ok success
  have grown : ∀ task ∈ generated.rows, storableTask task = true :=
    upsertAll_invariant (fun table => ∀ task ∈ table.rows, storableTask task = true)
      (fun _ _ _ _ _ kept upserted => upsert_texts kept upserted) stored run.upserts
  intro task member
  rw [run.committed] at member
  obtain ⟨old, oldMember, effect⟩ := of_mem_sweeps member
  have kept := grown old oldMember
  cases effect with
  | unchanged => exact kept
  | overdue => exact kept
  | missed => exact kept

theorem commit_texts {Error : Type} {result : Except Error Database}
    (stored : TextsStored world.db)
    (kept : ∀ next, result = .ok next → TextsStored next) :
    TextsStored (commit world result).db := by
  cases result with
  | error raised => exact stored
  | ok next => exact kept next rfl

theorem apiStep_texts (pytz : String → Option TzInfo) (stored : TextsStored world.db)
    (event : ApiEvent) : TextsStored (apiStep pytz world event).db := by
  cases event with
  | completeTask request note => exact taskMutation_texts (completeHandler_keeps _ _) _ stored
  | excuseTask request text => exact taskMutation_texts (excuseHandler_keeps _ _) _ stored
  | reviewTask request approve comment =>
      exact taskMutation_texts (reviewHandler_keeps _ _ _) _ stored
  | cancelTask request reason => exact taskMutation_texts (cancelHandler_keeps _ _) _ stored
  | bulkApprove request => exact bulkApprove_texts request stored
  | createDefinition request =>
      refine commit_texts stored fun next returned => ?_
      obtain ⟨parent, household, tz, targetDate, instances, created⟩ :=
        Definitions.createDefinition_ok returned
      rw [created.committed]
      exact upsert_texts stored created.upserted
  | nightly clock householdId =>
      exact commit_texts stored fun next returned => generateForHousehold_texts stored returned
  | updateDefinition request =>
      refine commit_texts stored fun next returned => ?_
      obtain ⟨_, _, _, _, rfl⟩ := Definitions.updateDefinition_ok returned
      exact stored
  | archiveDefinition request =>
      refine commit_texts stored fun next returned => ?_
      obtain ⟨_, _, rfl⟩ := Definitions.archiveDefinition_ok returned
      exact stored
  | createSeries request =>
      refine commit_texts stored fun next returned => ?_
      obtain ⟨_, _, _, _, rfl⟩ := Series.createSeries_ok returned
      exact stored
  | updateSeries request =>
      refine commit_texts stored fun next returned => ?_
      obtain ⟨_, _, _, _, rfl⟩ := Series.updateSeries_ok returned
      exact stored
  | archiveSeries request =>
      refine commit_texts stored fun next returned => ?_
      obtain ⟨_, _, _, _, rfl⟩ := Series.archiveSeries_ok returned
      exact stored
  | manualAdjust request =>
      refine commit_texts stored fun next returned => ?_
      obtain ⟨_, _, _, _, _, _, _, _, rfl⟩ := Wallet.manualAdjust_ok returned
      exact stored
  | submitClaim request =>
      refine commit_texts stored fun next returned => ?_
      obtain ⟨_, _, rfl⟩ := Wallet.submitClaim_ok returned
      exact stored
  | resolveClaim request =>
      refine commit_texts stored fun next returned => ?_
      obtain ⟨_, _, _, _, _, _, _, _, rfl⟩ := Wallet.resolveStoredClaim_ok returned
      exact stored
  | updateHousehold request =>
      refine commit_texts stored fun next returned => ?_
      obtain ⟨_, _, _, _, rfl⟩ := updateHousehold_saved returned
      exact stored
  | createTeenProfile request =>
      refine commit_texts stored fun next returned => ?_
      obtain ⟨_, _, _, rfl⟩ := createTeenProfile_added returned
      exact stored
  | removeMember request =>
      refine commit_texts stored fun next returned => ?_
      obtain ⟨_, _, rfl⟩ := Household.removeMember_ok returned
      exact stored

end Requests

/-! ## Every run -/

theorem serverStep_texts (pytz : String → Option TzInfo)
    (verifyPassword : String → String → Bool) (server : ServerState) (event : ServerEvent)
    (stored : TextsStored server.world.db) :
    TextsStored (serverStep pytz verifyPassword server event).world.db := by
  cases event with
  | api event => exact apiStep_texts pytz stored event
  | _ =>
      cases serverStep_effect pytz verifyPassword server _ with
      | auth effect =>
          rw [effect.rest]
          exact stored

/-- In every state of a run the texts of every row can be written back. -/
theorem texts_always (pytz : String → Option TzInfo)
    (verifyPassword : String → String → Bool) (events : List ServerEvent) :
    Always (serverStep pytz verifyPassword) (fun server => TextsStored server.world.db)
      emptyServer events := by
  refine invariant_always (fun server : ServerState => TextsStored server.world.db)
    (serverStep_texts pytz verifyPassword) ?_ events
  intro task member
  cases member

end KidsChores.Properties
