import KidsChores.Api
import KidsChores.Properties.LedgerCalls

/-!
# What the requests ask of the ledger

The requests that write to the ledger, with the calls of their handlers and the answers
they get.
-/

set_option autoImplicit false

namespace KidsChores.Properties

open KidsChores.Api
open KidsChores.Library
open KidsChores.Library.PyDatetime
open KidsChores.Library.PyText
open KidsChores.Library.Runs
open KidsChores.Lifecycle
open KidsChores.Models
open KidsChores.Routers
open KidsChores.Routers.Approvals
open KidsChores.Routers.Tasks
open KidsChores.Routers.Wallet
open KidsChores.Services.Ledger
open KidsChores.Services.SeriesCompletion
open KidsChores.Services.StateMachine
open KidsChores.Session

/-- What a request on one task asks, if its handler gets to run. -/
def taskCalls (request : TaskRequest) (role : Member → Except RequestError Unit)
    (owns : Member → TaskInstance → Except RequestError Unit)
    (calls : Loaded → Member → List LedgerCall) (world : World) : List LedgerCall :=
  match loadForRequest request role owns world.db with
  | .error _ => []
  | .ok (member, household, definition, task) =>
      match world.cache.get request.clock.now member.id request.idempotencyKey with
      | some _ => []
      | none => calls ⟨household, definition, task⟩ member

def ledgerCalls (world : World) : ApiEvent → List LedgerCall
  | .completeTask request note =>
      taskCalls request anyMember (ownTask "You can only complete your own tasks.")
        (completeCalls request.clock note world.db) world
  | .reviewTask request approve comment =>
      taskCalls request requireParent anyTask
        (fun loaded _ => decisionCalls approve comment world.db loaded) world
  | .bulkApprove request =>
      match loadParent world.db request.memberId with
      | .error _ => []
      | .ok (parent, household) =>
          match world.cache.get request.clock.now parent.id request.idempotencyKey with
          | some _ => []
          | none =>
              batchCalls request.clock.transaction household parent world.db request.items
  | .manualAdjust request =>
      match loadParent world.db request.memberId with
      | .error _ => []
      | .ok (_, household) =>
          match assertSameHousehold world.db household request.targetId with
          | .error _ => []
          | .ok _ =>
              if strip request.body.reason = [] then []
              else [⟨world.db.ledger, request.targetId, request.body.delta⟩]
  | .resolveClaim request =>
      match loadParent world.db request.memberId with
      | .error _ => []
      | .ok (_, household) =>
          match findClaim? world.db household request.claimId with
          | none => []
          | some claim =>
              if request.body.approve then
                [⟨world.db.ledger, claim.memberId, -claim.points⟩]
              else []
  | _ => []

/-! ## What it is answered -/

def ledgerAnswer (world : World) : ApiEvent → Except RequestError Unit
  | .completeTask request note => (completeTask request note world).2.map fun _ => ()
  | .reviewTask request approve comment =>
      (reviewTask request approve comment world).2.map fun _ => ()
  | .bulkApprove request => (bulkApprove request world).2.map fun _ => ()
  | .manualAdjust request => (manualAdjust request world.db).map fun _ => ()
  | .resolveClaim request => (resolveStoredClaim request world.db).map fun _ => ()
  | _ => .ok ()

def sentTexts : ApiEvent → List (Option String)
  | .completeTask _ note => [note]
  | .reviewTask _ _ comment => [comment]
  | .bulkApprove request => request.items.map BulkApproveItem.comment
  | .manualAdjust request => [some request.body.reason]
  | .resolveClaim request => [request.body.parentNote]
  | _ => []

/-- The other thing the database refuses a request for. -/
def TextsStorable (world : World) (event : ApiEvent) : Prop :=
  (∀ task ∈ world.db.instances.rows, storableTask task = true) ∧
    ∀ text ∈ sentTexts event, storableText text = true

instance (world : World) (event : ApiEvent) : Decidable (TextsStorable world event) :=
  inferInstanceAs (Decidable (_ ∧ _))

/-! ## The requests on a task -/

section Requests

variable {request : TaskRequest} {role : Member → Except RequestError Unit}
variable {owns : Member → TaskInstance → Except RequestError Unit} {world : World}

theorem getCurrentMember_error {db : Database} {memberId : Uuid} {raised : RequestError}
    (refused : getCurrentMember db memberId = .error raised) :
    raised ≠ .raised .dataError := by
  unfold getCurrentMember at refused
  split at refused <;> cases refused
  simp

theorem getCurrentHousehold_error {db : Database} {member : Member} {raised : RequestError}
    (refused : getCurrentHousehold db member = .error raised) :
    raised ≠ .raised .dataError := by
  unfold getCurrentHousehold at refused
  split at refused <;> cases refused
  simp

theorem requireParent_error {member : Member} {raised : RequestError}
    (refused : requireParent member = .error raised) : raised ≠ .raised .dataError := by
  unfold requireParent at refused
  split at refused <;> cases refused
  simp

theorem anyMember_error {member : Member} {raised : RequestError}
    (refused : anyMember member = .error raised) : raised ≠ .raised .dataError := by
  cases refused

theorem anyTask_error {member : Member} {task : TaskInstance} {raised : RequestError}
    (refused : anyTask member task = .error raised) : raised ≠ .raised .dataError := by
  cases refused

theorem ownTask_error {detail : String} {member : Member} {task : TaskInstance}
    {raised : RequestError} (refused : ownTask detail member task = .error raised) :
    raised ≠ .raised .dataError := by
  unfold ownTask at refused
  split at refused <;> cases refused
  simp

theorem getInstanceOr404_error {db : Database} {household : Household} {instanceId : Uuid}
    {raised : RequestError} (refused : getInstanceOr404 db household instanceId =
      .error raised) : raised ≠ .raised .dataError := by
  unfold getInstanceOr404 at refused
  split at refused <;> cases refused
  simp

theorem loadForRequest_error {db : Database} {raised : RequestError}
    (roles : ∀ member error, role member = .error error → error ≠ .raised .dataError)
    (owners : ∀ member task error, owns member task = .error error →
      error ≠ .raised .dataError)
    (refused : loadForRequest request role owns db = .error raised) :
    raised ≠ .raised .dataError := by
  unfold loadForRequest at refused
  rcases bind_error_iff.mp refused with failed | ⟨member, _, refused⟩
  · exact getCurrentMember_error failed
  rcases bind_error_iff.mp refused with failed | ⟨_, _, refused⟩
  · exact roles _ _ failed
  rcases bind_error_iff.mp refused with failed | ⟨household, _, refused⟩
  · exact getCurrentHousehold_error failed
  rcases bind_error_iff.mp refused with failed | ⟨⟨definition, task⟩, _, refused⟩
  · exact getInstanceOr404_error failed
  rcases bind_error_iff.mp refused with failed | ⟨_, _, returned⟩
  · exact owners _ _ _ failed
  · cases returned

theorem loadParent_error {db : Database} {memberId : Uuid} {raised : RequestError}
    (refused : loadParent db memberId = .error raised) : raised ≠ .raised .dataError := by
  unfold loadParent at refused
  rcases bind_error_iff.mp refused with failed | ⟨parent, _, refused⟩
  · exact getCurrentMember_error failed
  rcases bind_error_iff.mp refused with failed | ⟨_, _, refused⟩
  · exact requireParent_error failed
  rcases bind_error_iff.mp refused with failed | ⟨household, _, returned⟩
  · exact getCurrentHousehold_error failed
  · cases returned

theorem runHandler_dataError_iff {clock : Clock} {member : Member} {key : String}
    {deserialize : Response → Except RequestError Response} {handler : Handler}
    (readable : ∀ response error, deserialize response = .error error →
      error ≠ .raised .dataError)
    (flushed : ∀ response session, handler ⟨world.db, true⟩ = .ok (response, session) →
      session.flushable = true) :
    (runHandler clock member key deserialize handler world).2 =
        .error (.raised .dataError) ↔
      world.cache.get clock.now member.id key = none ∧
        handler ⟨world.db, true⟩ = .error (.raised .dataError) := by
  cases cached : world.cache.get clock.now member.id key with
  | none =>
      rw [runHandler_fresh cached]
      cases ran : handler ⟨world.db, true⟩ with
      | error raised => simp
      | ok outcome =>
          obtain ⟨response, session⟩ := outcome
          simp [flushed response session ran]
  | some response =>
      unfold runHandler
      simp only [Services.Idempotency.runIdempotent, cached]
      cases read : deserialize response with
      | error raised => simpa [Except.map] using readable response raised read
      | ok known => simp [Except.map]

theorem asTask_error {response : Response} {raised : RequestError}
    (refused : asTask response = .error raised) : raised ≠ .raised .dataError := by
  cases response <;> cases refused
  simp

theorem asBulk_error {response : Response} {raised : RequestError}
    (refused : asBulk response = .error raised) : raised ≠ .raised .dataError := by
  cases response <;> cases refused
  simp

theorem taskMutation_dataError_iff {handler : TaskHandler}
    {calls : Loaded → Member → List LedgerCall}
    (roles : ∀ member error, role member = .error error → error ≠ .raised .dataError)
    (owners : ∀ member task error, owns member task = .error error →
      error ≠ .raised .dataError)
    (stored : ∀ task ∈ world.db.instances.rows, storableTask task = true)
    (asks : ∀ household definition member task, storableTask task = true →
      (handler household definition member task ⟨world.db, true⟩ =
          .error (.raised .dataError) ↔
        ∃ asked ∈ calls ⟨household, definition, task⟩ member, ¬ asked.HasRoom))
    (flushed : ∀ household definition member task result session,
      storableTask task = true →
      handler household definition member task ⟨world.db, true⟩ = .ok (result, session) →
        session.flushable = true) :
    (taskMutation role owns handler request world).2 = .error (.raised .dataError) ↔
      ∃ asked ∈ taskCalls request role owns calls world, ¬ asked.HasRoom := by
  unfold taskMutation taskCalls
  cases loaded : loadForRequest request role owns world.db with
  | error raised => simpa using loadForRequest_error roles owners loaded
  | ok rows =>
      obtain ⟨member, household, definition, task⟩ := rows
      have storable := stored task (Table.mem_of_find? (findInstance?_ok
        (loadForRequest_ok loaded).taskFound).1)
      dsimp only
      rw [runHandler_dataError_iff (fun _ _ => asTask_error)]
      · cases cached : world.cache.get request.clock.now member.id request.idempotencyKey with
        | some response => simp
        | none =>
            rw [map_error_iff, asks household definition member task storable]
            simp
      · intro response session returned
        cases ran : handler household definition member task ⟨world.db, true⟩ with
        | error raised =>
            rw [ran] at returned
            cases returned
        | ok outcome =>
            rw [ran] at returned
            cases returned
            exact flushed household definition member task _ _ storable ran

end Requests

/-! ## Every request -/

section Answers

variable {world : World}

theorem unitAnswer_iff {Value : Type} {result : Except RequestError Value} :
    (result.map fun _ => ()) = .error (.raised .dataError) ↔
      result = .error (.raised .dataError) :=
  map_error_iff

theorem manualAdjust_dataError_iff {request : ManualAdjust}
    (sent : storableText (some request.body.reason) = true) :
    manualAdjust request world.db = .error (.raised .dataError) ↔
      ∃ asked ∈ ledgerCalls world (.manualAdjust request), ¬ asked.HasRoom := by
  unfold ledgerCalls
  simp only [manualAdjust, bind]
  cases loaded : loadParent world.db request.memberId with
  | error raised => simpa [Except.bind] using loadParent_error loaded
  | ok found =>
      obtain ⟨parent, household⟩ := found
      dsimp only [Except.bind]
      cases checked : assertSameHousehold world.db household request.targetId with
      | error raised =>
          unfold assertSameHousehold at checked
          split at checked
          · split at checked
            · cases checked
            · cases checked
              simp
          · cases checked
            simp
      | ok _ =>
          dsimp only
          unfold manualAdjustment
          by_cases blank : strip request.body.reason = []
          · rw [if_pos blank, if_pos blank]
            simp [ofService, Except.mapError]
          · rw [if_neg blank, if_neg blank]
            have recorded : record world.db.ledger request.clock (manualAdjustmentPosting
                request.targetId request.body.delta request.body.reason parent) =
                  .error .dataError ↔ ¬ LedgerCall.HasRoom
                    ⟨world.db.ledger, request.targetId, request.body.delta⟩ :=
              record_dataError_iff
            cases ran : record world.db.ledger request.clock (manualAdjustmentPosting
                request.targetId request.body.delta request.body.reason parent) with
            | error raised =>
                rw [ran] at recorded
                simpa [ofService, Except.mapError] using recorded
            | ok ledger =>
                rw [ran] at recorded
                simpa [ofService, Except.mapError, sent, pure, Except.pure] using recorded

theorem resolveStoredClaim_dataError_iff {request : ResolveClaim}
    (sent : storableText request.body.parentNote = true) :
    resolveStoredClaim request world.db = .error (.raised .dataError) ↔
      ∃ asked ∈ ledgerCalls world (.resolveClaim request), ¬ asked.HasRoom := by
  unfold ledgerCalls
  simp only [resolveStoredClaim, bind]
  cases loaded : loadParent world.db request.memberId with
  | error raised => simpa [Except.bind] using loadParent_error loaded
  | ok rows =>
      obtain ⟨parent, household⟩ := rows
      dsimp only [Except.bind]
      cases found : findClaim? world.db household request.claimId with
      | none => simp
      | some claim =>
          dsimp only
          cases approve : request.body.approve with
          | false =>
              simp [resolveClaim, approve, ofService, Except.mapError, sent, bind,
                Except.bind, pure, Except.pure]
          | true =>
              have recorded : record world.db.ledger request.clock
                  (fulfilClaimPosting claim parent) = .error .dataError ↔
                    ¬ LedgerCall.HasRoom ⟨world.db.ledger, claim.memberId, -claim.points⟩ :=
                record_dataError_iff
              cases ran : record world.db.ledger request.clock
                  (fulfilClaimPosting claim parent) with
              | error raised =>
                  rw [ran] at recorded
                  simpa [resolveClaim, approve, fulfilClaim, ran, ofService,
                    Except.mapError, bind, Except.bind, pure, Except.pure] using recorded
              | ok ledger =>
                  rw [ran] at recorded
                  simpa [resolveClaim, approve, fulfilClaim, ran, ofService,
                    Except.mapError, sent, bind, Except.bind, pure, Except.pure]
                    using recorded

theorem bulkApprove_dataError_iff {request : BulkApproveRequest}
    (stored : ∀ task ∈ world.db.instances.rows, storableTask task = true)
    (sent : ∀ item ∈ request.items, storableText item.comment = true) :
    (bulkApprove request world).2 = .error (.raised .dataError) ↔
      ∃ asked ∈ ledgerCalls world (.bulkApprove request), ¬ asked.HasRoom := by
  unfold ledgerCalls
  simp only [bulkApprove]
  cases loaded : loadParent world.db request.memberId with
  | error raised => simpa using loadParent_error loaded
  | ok rows =>
      obtain ⟨parent, household⟩ := rows
      dsimp only
      rw [runHandler_dataError_iff (fun _ _ => asBulk_error)]
      · cases cached : world.cache.get request.clock.now parent.id
            request.idempotencyKey with
        | some response => simp
        | none =>
            rw [map_error_iff, runBatch_dataError_iff stored sent]
            simp
      · intro response session returned
        cases ran : runBatch request.clock.transaction household parent request.items
            ⟨world.db, true⟩ with
        | error raised =>
            rw [ran] at returned
            cases returned
        | ok outcome =>
            rw [ran] at returned
            cases returned
            exact runBatch_flushable stored sent ran

/-- With texts that can be stored a request is refused by the database for a number
alone. -/
theorem ledgerAnswer_dataError_iff {event : ApiEvent} (texts : TextsStorable world event) :
    ledgerAnswer world event = .error (.raised .dataError) ↔
      ∃ asked ∈ ledgerCalls world event, ¬ asked.HasRoom := by
  obtain ⟨stored, sent⟩ := texts
  cases event with
  | completeTask request note =>
      have storable : storableText note = true := sent note List.mem_cons_self
      simp only [ledgerAnswer, unitAnswer_iff]
      refine taskMutation_dataError_iff (fun _ _ => anyMember_error)
        (fun _ _ _ => ownTask_error) stored ?_ ?_
      · intro household definition member task written
        exact completeHandler_dataError_iff written storable
      · intro household definition member task result session written returned
        exact completeHandler_flushable written storable returned
  | reviewTask request approve comment =>
      have storable : storableText comment = true := sent comment List.mem_cons_self
      simp only [ledgerAnswer, unitAnswer_iff]
      refine @taskMutation_dataError_iff request requireParent anyTask world _
        (fun loaded _ => decisionCalls approve comment world.db loaded)
        (fun _ _ => requireParent_error) (fun _ _ _ => anyTask_error) stored ?_ ?_
      · intro household definition member task written
        exact reviewHandler_dataError_iff written storable
      · intro household definition member task result session written returned
        exact reviewHandler_flushable written storable returned
  | bulkApprove request =>
      simp only [ledgerAnswer, unitAnswer_iff]
      exact bulkApprove_dataError_iff stored
        (fun item member => sent item.comment (List.mem_map_of_mem member))
  | manualAdjust request =>
      simp only [ledgerAnswer, unitAnswer_iff]
      exact manualAdjust_dataError_iff (sent _ List.mem_cons_self)
  | resolveClaim request =>
      simp only [ledgerAnswer, unitAnswer_iff]
      exact resolveStoredClaim_dataError_iff (sent _ List.mem_cons_self)
  | _ => simp [ledgerAnswer, ledgerCalls]

end Answers

end KidsChores.Properties
