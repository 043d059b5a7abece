import KidsChores.Properties.BatchItems
import KidsChores.Properties.OfferedTransitions

/-!
# What the handlers ask of the ledger

The points a handler comes to post, each with the member and the ledger it finds.  When
the texts of a request can be stored, its handler fails with the database's refusal of a
value exactly if some of these points do not fit, alone or beside what the member has.
-/

set_option autoImplicit false

namespace KidsChores.Properties

open KidsChores.Library
open KidsChores.Library.PyDatetime
open KidsChores.Library.PyText
open KidsChores.Library.Runs
open KidsChores.Lifecycle
open KidsChores.Models
open KidsChores.Routers
open KidsChores.Routers.Approvals
open KidsChores.Routers.Tasks
open KidsChores.Services.Ledger
open KidsChores.Services.SeriesCompletion
open KidsChores.Services.StateMachine
open KidsChores.Session

/-! ## The calls -/

/-- Points for a member, on a ledger. -/
structure LedgerCall where
  ledger : Ledger
  memberId : Uuid
  points : Int

/-- The points are within 32 bits, and so are they and the deltas stored for the member
together. -/
def LedgerCall.HasRoom (call : LedgerCall) : Prop :=
  FitsInteger call.points ∧
    FitsInteger (((call.ledger.entries.filter fun entry =>
      entry.memberId = call.memberId).map LedgerEntry.delta).sum + call.points)

instance (call : LedgerCall) : Decidable call.HasRoom :=
  inferInstanceAs (Decidable (_ ∧ _))

/-- The pay of a service call that passes its check of the status. -/
def serviceCalls (loaded : Loaded) (ledger : Ledger) (call : ServiceCall) :
    List LedgerCall :=
  if call.Accepts loaded.task.status then
    (callPay loaded call).toList.map fun pay => ⟨ledger, loaded.task.assigneeId, pay.2⟩
  else []

/-- The bonus of a window that is earned, with the points of its complete instances if all
is paid at once. -/
def windowCalls (completed : TaskInstance) (db : Database) : List LedgerCall :=
  match completed.seriesInstanceId.bind db.seriesInstances.find? with
  | none => []
  | some seriesInstance =>
      match db.series.find? seriesInstance.seriesId with
      | none => []
      | some series =>
          if seriesInstance.status = .active ∧
              Earned (linkedInstances db seriesInstance.id) then
            [⟨db.ledger, series.assigneeId,
              payout series (completedInstances (linkedInstances db seriesInstance.id))⟩]
          else []

def completeCalls (clock : Clock) (note : Option String) (db : Database) (loaded : Loaded)
    (member : Member) : List LedgerCall :=
  serviceCalls loaded db.ledger (.complete note) ++
    match complete clock loaded.definition member note loaded.task db.ledger with
    | .error _ => []
    | .ok (completed, ledger) => windowCalls completed (storeCall db completed ledger)

def decisionCalls (approve : Bool) (comment : Option String) (db : Database)
    (loaded : Loaded) : List LedgerCall :=
  match decisionCall approve comment loaded.task.status with
  | none => []
  | some call => serviceCalls loaded db.ledger call

def itemCalls (household : Household) (db : Database) (item : BulkApproveItem) :
    List LedgerCall :=
  match findInstance? db household item.taskInstanceId with
  | none => []
  | some (definition, task) =>
      decisionCalls item.approve item.comment db ⟨household, definition, task⟩

/-- An item that is refused by the ledger is the last one. -/
def batchCalls (transaction : Instant) (household : Household) (parent : Member) :
    Database → List BulkApproveItem → List LedgerCall
  | _, [] => []
  | db, item :: rest => itemCalls household db item ++
      match approveItem transaction household parent item ⟨db, true⟩ with
      | .error _ => []
      | .ok (_, session) => batchCalls transaction household parent session.db rest

/-! ## One posting -/

theorem record_dataError_iff {ledger : Ledger} {clock : Clock} {posting : Posting} :
    record ledger clock posting = .error .dataError ↔
      ¬ LedgerCall.HasRoom ⟨ledger, posting.memberId, posting.delta⟩ := by
  unfold record write
  by_cases room : LedgerCall.HasRoom ⟨ledger, posting.memberId, posting.delta⟩
  · have fits : FitsInteger (posting.entry (currentBalance ledger posting.memberId)
        clock.transaction).delta ∧ FitsInteger (posting.entry
          (currentBalance ledger posting.memberId) clock.transaction).balanceAfter := room
    rw [if_pos fits]
    cases ledger.insert? (posting.entry (currentBalance ledger posting.memberId)
        clock.transaction) with
    | none => simp [room]
    | some next => simp [room]
  · have misfit : ¬ (FitsInteger (posting.entry (currentBalance ledger posting.memberId)
        clock.transaction).delta ∧ FitsInteger (posting.entry
          (currentBalance ledger posting.memberId) clock.transaction).balanceAfter) := room
    rw [if_neg misfit]
    exact iff_of_true rfl room

/-! ## A service call -/

section Calls

variable {clock : Clock} {household : Household} {definition : TaskDefinition}
variable {actor : Member} {task : TaskInstance} {ledger : Ledger}

theorem mem_serviceCalls {loaded : Loaded} {call : ServiceCall} {asked : LedgerCall} :
    asked ∈ serviceCalls loaded ledger call ↔
      call.Accepts loaded.task.status ∧
        ∃ pay ∈ callPay loaded call, asked = ⟨ledger, loaded.task.assigneeId, pay.2⟩ := by
  unfold serviceCalls
  split
  · rename_i accepted
    simp [accepted, eq_comm]
  · rename_i refused
    simp [refused]

theorem serviceCalls_none {loaded : Loaded} {call : ServiceCall}
    (unpaid : callPay loaded call = none) : serviceCalls loaded ledger call = [] := by
  unfold serviceCalls
  rw [unpaid]
  split <;> rfl

theorem dataError_iff_of_record {Value : Type} {loaded : Loaded} {call : ServiceCall}
    {posting : Posting} {change : Ledger → Value} {result : Except ServiceError Value}
    (accepted : call.Accepts loaded.task.status)
    (posts : callPosting loaded actor call = some posting)
    (recorded : result = (record ledger clock posting).map change) :
    result = .error .dataError ↔
      ∃ asked ∈ serviceCalls loaded ledger call, ¬ asked.HasRoom := by
  have paid := callPay_of_posting posts
  rw [recorded, map_error_iff, record_dataError_iff, callPosting_member posts]
  constructor
  · intro full
    exact ⟨_, mem_serviceCalls.mpr ⟨accepted, _, paid, rfl⟩, full⟩
  · rintro ⟨asked, member, full⟩
    obtain ⟨_, pay, otherPaid, rfl⟩ := mem_serviceCalls.mp member
    cases Option.some.inj (paid.symm.trans otherPaid)
    exact full

theorem complete_recorded {note : Option String} (actionable : Actionable task.status)
    (auto : definition.requiresReview = false) :
    complete clock definition actor note task ledger =
      (record ledger clock (taskCompletedPosting definition actor task)).map
        fun next => (completionRow clock task note .complete, next) := by
  unfold completionRow
  rcases actionable with status | status
  · simp only [complete, status, auto, transition, transitions, bind, Except.bind, pure,
      Except.pure, ne_eq, not_true, false_and, if_false, Bool.false_eq_true, if_true,
      awardTaskCompletion, taskCompletedPosting]
    rfl
  · simp only [complete, status, auto, transition, transitions, bind, Except.bind, pure,
      Except.pure, ne_eq, not_true, and_false, if_false, Bool.false_eq_true, if_true,
      awardTaskCompletion, taskCompletedPosting]
    rfl

theorem complete_dataError_iff {note : Option String} :
    complete clock definition actor note task ledger = .error .dataError ↔
      ∃ asked ∈ serviceCalls ⟨household, definition, task⟩ ledger (.complete note),
        ¬ asked.HasRoom := by
  by_cases actionable : Actionable task.status
  · cases reviewed : definition.requiresReview with
    | true =>
        obtain ⟨next, nextLedger, ran⟩ := @complete_isOk clock household definition actor
          task ledger note actionable (Or.inl reviewed)
        have unpaid : callPay ⟨household, definition, task⟩ (.complete note) = none :=
          if_pos reviewed
        rw [ran, serviceCalls_none unpaid]
        simp
    | false =>
        have posts : callPosting ⟨household, definition, task⟩ actor (.complete note) =
            some (taskCompletedPosting definition actor task) := by
          simp [callPosting, reviewed]
        exact dataError_iff_of_record actionable posts (complete_recorded actionable reviewed)
  · have notOpen : task.status ≠ .pending ∧ task.status ≠ .overdue := not_or.mp actionable
    refine iff_of_false ?_ ?_
    · intro refused
      simp only [complete, notOpen, ne_eq, not_false_eq_true, and_self, if_true, bind,
        Except.bind, throw, throwThe, MonadExceptOf.throw] at refused
      cases refused
    · rintro ⟨asked, member, _⟩
      exact actionable (mem_serviceCalls.mp member).1

theorem review_recorded {comment : Option String} (inReview : task.status = .reviewPending) :
    review clock definition actor true comment task ledger =
      (record ledger clock (taskCompletedPosting definition actor task)).map
        fun next => (decisionRow clock actor task comment .complete, next) := by
  simp only [review, inReview, transition, transitions, bind, Except.bind, pure, Except.pure,
    ne_eq, not_true, false_and, if_false, if_true, awardTaskCompletion, taskCompletedPosting,
    decisionRow]
  rfl

theorem resolveExcuse_awarded {comment : Option String}
    (submitted : task.status = .excusePending) :
    resolveExcuse clock definition actor household true comment task ledger =
      (awardExcuseIfPolicy ledger clock definition actor household
        (decisionRow clock actor task comment .excused)).map
          fun next => (decisionRow clock actor task comment .excused, next) := by
  simp only [resolveExcuse, submitted, transition, transitions, bind, Except.bind, pure,
    Except.pure, ne_eq, not_true, false_and, if_false, if_true, decisionRow]
  rfl

theorem decision_dataError_iff {approve : Bool} {comment : Option String}
    {call : ServiceCall} (decided : decisionCall approve comment task.status = some call) :
    call.run clock household definition actor task ledger = .error .dataError ↔
      ∃ asked ∈ serviceCalls ⟨household, definition, task⟩ ledger call,
        ¬ asked.HasRoom := by
  have accepted := (decisionCall_some decided).2
  cases approve with
  | false =>
      have unpaid : callPay ⟨household, definition, task⟩ call = none := by
        rcases (decisionCall_some decided).1 with rfl | rfl <;> rfl
      rw [serviceCalls_none unpaid]
      refine iff_of_false ?_ (by simp)
      intro refused
      exact denial_error decided refused rfl
  | true =>
      rcases (decisionCall_some decided).1 with rfl | rfl
      · exact dataError_iff_of_record accepted rfl (review_recorded accepted)
      · cases posts : excusePosting definition actor household.excusedPayoutPolicy task with
        | none =>
            have unpaid : callPay ⟨household, definition, task⟩
                (.resolveExcuse true comment) = none := by
              rw [callPay_eq _ actor]
              exact Option.map_eq_none_iff.mpr posts
            rw [serviceCalls_none unpaid]
            have ran : ∃ next nextLedger, (ServiceCall.resolveExcuse true comment).run clock
                household definition actor task ledger = .ok (next, nextLedger) := by
              refine run_isOk_iff.mpr ⟨accepted, ?_⟩
              simp [ServiceCall.PassesChecks, posts]
            obtain ⟨next, nextLedger, returned⟩ := ran
            rw [returned]
            simp
        | some posting =>
            have same : excusePosting definition actor household.excusedPayoutPolicy
                (decisionRow clock actor task comment .excused) = some posting := posts
            have recorded : resolveExcuse clock definition actor household true comment task
                ledger = (record ledger clock posting).map
                  fun next => (decisionRow clock actor task comment .excused, next) := by
              rw [resolveExcuse_awarded accepted]
              unfold awardExcuseIfPolicy
              rw [same]
            exact dataError_iff_of_record accepted posts recorded

end Calls

/-! ## The handlers -/

theorem ofService_dataError_iff {Value : Type} {result : Except ServiceError Value} :
    ofService result = .error (.raised .dataError) ↔ result = .error .dataError := by
  cases result with
  | error raised => simp [ofService, Except.mapError]
  | ok value => simp [ofService, Except.mapError]

theorem catchInvalidTransition_dataError_iff {Value : Type}
    {result : Except ServiceError Value} :
    catchInvalidTransition result = .error (.raised .dataError) ↔
      result = .error .dataError := by
  cases result with
  | error raised => cases raised <;> simp [catchInvalidTransition, ofService, Except.mapError]
  | ok value => simp [catchInvalidTransition, ofService, Except.mapError]

theorem catchValueError_dataError_iff {Value : Type} {result : Except ServiceError Value} :
    catchValueError result = .error (.raised .dataError) ↔ result = .error .dataError := by
  cases result with
  | error raised =>
      cases raised <;>
        simp [catchValueError, catchInvalidTransition, ofService, Except.mapError]
  | ok value =>
      simp [catchValueError, catchInvalidTransition, ofService, Except.mapError]

section Handlers

variable {clock : Clock} {household : Household} {definition : TaskDefinition}
variable {member : Member} {task completed : TaskInstance} {db : Database}

theorem evaluate_dataError_iff {seriesInstance : SeriesInstance}
    (linked : completed.seriesInstanceId.bind db.seriesInstances.find? =
      some seriesInstance) :
    evaluate clock seriesInstance member db = .error .dataError ↔
      ∃ asked ∈ windowCalls completed db, ¬ asked.HasRoom := by
  unfold windowCalls
  rw [linked]
  dsimp only
  cases found : db.series.find? seriesInstance.seriesId with
  | none =>
      refine iff_of_false ?_ (by simp)
      intro refused
      unfold evaluate at refused
      simp only [found] at refused
      repeat' split at refused
      all_goals cases refused
  | some series =>
      rw [evaluate_eq found]
      dsimp only
      by_cases earned : seriesInstance.status = .active ∧
          Earned (linkedInstances db seriesInstance.id)
      · rw [if_pos earned, if_pos earned, map_error_iff, record_dataError_iff]
        simp [payoutPosting, seriesPosting]
      · rw [if_neg earned, if_neg earned]
        simp

theorem evaluateWindow_dataError_iff :
    evaluateWindow clock member completed ⟨db, true⟩ = .error (.raised .dataError) ↔
      ∃ asked ∈ windowCalls completed db, ¬ asked.HasRoom := by
  unfold evaluateWindow
  cases linked : completed.seriesInstanceId with
  | none => simp [windowCalls, linked]
  | some seriesInstanceId =>
      cases found : db.seriesInstances.find? seriesInstanceId with
      | none =>
          simp [windowCalls, linked, found, OpenSession.flush, ofService, Except.mapError,
            bind, Except.bind, pure, Except.pure]
      | some seriesInstance =>
          have window : completed.seriesInstanceId.bind db.seriesInstances.find? =
              some seriesInstance := by
            rw [linked]
            exact found
          rw [← evaluate_dataError_iff window, ← ofService_dataError_iff]
          simp only [OpenSession.flush, ofService, Except.mapError, found, bind, Except.bind,
            pure, Except.pure, if_true]
          cases evaluate clock seriesInstance member db <;> simp

theorem complete_texts (household : Household) {note : Option String} {ledger next : Ledger}
    (stored : storableTask task = true) (sent : storableText note = true)
    (returned : complete clock definition member note task ledger = .ok (completed, next)) :
    storableTask completed = true := by
  have effect : CallEffect clock household definition member task ledger (.complete note)
      completed next := complete_effect returned
  have written : storableTask { task with completionNote := note } = true := by
    simp only [storableTask, Bool.and_eq_true] at stored ⊢
    exact ⟨⟨sent, stored.1.2⟩, stored.2⟩
  cases effect with
  | completed => exact written
  | sentToReview => exact written

theorem completeHandler_dataError_iff {note : Option String}
    (stored : storableTask task = true) (sent : storableText note = true) :
    completeHandler clock note household definition member task ⟨db, true⟩ =
        .error (.raised .dataError) ↔
      ∃ asked ∈ completeCalls clock note db ⟨household, definition, task⟩ member,
        ¬ asked.HasRoom := by
  have first := @complete_dataError_iff clock household definition member task db.ledger note
  unfold completeHandler completeCalls
  simp only [bind]
  rw [bind_error_iff, catchInvalidTransition_dataError_iff, first]
  cases ran : complete clock definition member note task db.ledger with
  | error raised =>
      have caught : ∀ value, catchInvalidTransition
          (.error raised : Except ServiceError (TaskInstance × Ledger)) ≠ .ok value :=
        fun value returned => by cases catchInvalidTransition_ok returned
      simp [caught]
  | ok outcome =>
      obtain ⟨completed, ledger⟩ := outcome
      have storable := complete_texts household stored sent ran
      have answered := @evaluateWindow_dataError_iff clock member completed
        (storeCall db completed ledger)
      have put := @OpenSession.putCall_storable db completed ledger storable
      simp only [catchInvalidTransition, ofService, Except.mapError, Except.bind,
        Except.ok.injEq, List.mem_append, or_and_right, exists_or]
      simp only [exists_eq_left', put, answered]

theorem evaluateWindow_flushable {session next : OpenSession} {result : TaskInstance}
    (returned : evaluateWindow clock member completed session = .ok (result, next)) :
    next.flushable = session.flushable := by
  unfold evaluateWindow at returned
  split at returned
  · cases returned
    rfl
  · obtain ⟨after, flushed, returned⟩ := bind_ok returned
    cases OpenSession.flush_ok (ofService_ok flushed)
    split at returned
    · cases returned
      rfl
    · obtain ⟨outcome, _, returned⟩ := bind_ok returned
      cases returned
      rfl

theorem completeHandler_flushable {note : Option String} {result : TaskInstance}
    {session : OpenSession} (stored : storableTask task = true)
    (sent : storableText note = true)
    (returned : completeHandler clock note household definition member task ⟨db, true⟩ =
      .ok (result, session)) : session.flushable = true := by
  unfold completeHandler at returned
  obtain ⟨⟨completed, ledger⟩, called, returned⟩ := bind_ok returned
  obtain ⟨after, put, returned⟩ := bind_ok returned
  have storable := complete_texts household stored sent (catchInvalidTransition_ok called)
  rw [OpenSession.putCall_storable storable] at put
  cases put
  exact evaluateWindow_flushable returned

variable {approve : Bool} {comment : Option String}

theorem decided_texts {call : ServiceCall} {ledger : Ledger}
    (stored : storableTask task = true) (sent : storableText comment = true)
    (decision : IsDecision approve comment call)
    (effect : CallEffect clock household definition member task db.ledger call completed
      ledger) : storableTask completed = true := by
  rw [decision_texts decision effect]
  simp only [storableTask, Bool.and_eq_true] at stored ⊢
  exact ⟨stored.1, sent⟩

theorem reviewHandler_dataError_iff (stored : storableTask task = true)
    (sent : storableText comment = true) :
    reviewHandler clock approve comment household definition member task ⟨db, true⟩ =
        .error (.raised .dataError) ↔
      ∃ asked ∈ decisionCalls approve comment db ⟨household, definition, task⟩,
        ¬ asked.HasRoom := by
  unfold reviewHandler decisionCalls
  rw [reviewCall_decision]
  cases decided : decisionCall approve comment task.status with
  | none => simp
  | some call =>
      rw [← @decision_dataError_iff clock household definition member task db.ledger _ _ _
        decided]
      cases ran : call.run clock household definition member task db.ledger with
      | error raised =>
          have caught := @catchValueError_dataError_iff _
            (.error raised : Except ServiceError (TaskInstance × Ledger))
          simp only [Option.map_some, ran, bind]
          rw [bind_error_iff, caught]
          refine or_iff_left ?_
          rintro ⟨value, returned, _⟩
          cases catchValueError_ok returned
      | ok outcome =>
          obtain ⟨result, ledger⟩ := outcome
          have storable := decided_texts stored sent (decisionCall_some decided).1
            (run_effect ran)
          simp [ran, catchValueError, catchInvalidTransition, ofService, Except.mapError,
            OpenSession.putCall_storable storable, bind, Except.bind, pure, Except.pure]

theorem reviewHandler_flushable {result : TaskInstance} {session : OpenSession}
    (stored : storableTask task = true) (sent : storableText comment = true)
    (returned : reviewHandler clock approve comment household definition member task
      ⟨db, true⟩ = .ok (result, session)) : session.flushable = true := by
  unfold reviewHandler at returned
  split at returned
  · cases returned
  · rename_i outcome called
    obtain ⟨⟨row, ledger⟩, handled, returned⟩ := bind_ok returned
    obtain ⟨after, put, returned⟩ := bind_ok returned
    rw [catchValueError_ok handled] at called
    obtain ⟨call, decision, effect⟩ := reviewCall_effect called
    have storable := decided_texts stored sent decision effect
    rw [OpenSession.putCall_storable storable] at put
    cases put
    cases returned
    rfl

end Handlers

/-! ## A batch -/

section Batch

variable {transaction : Instant} {household : Household} {parent : Member}
variable {item : BulkApproveItem} {db : Database}

/-- An item reviews its instance and is refused with that, or fails alone. -/
theorem approveItem_dataError_iff
    (stored : ∀ task ∈ db.instances.rows, storableTask task = true)
    (sent : storableText item.comment = true) :
    approveItem transaction household parent item ⟨db, true⟩ =
        .error (.raised .dataError) ↔
      ∃ asked ∈ itemCalls household db item, ¬ asked.HasRoom := by
  unfold approveItem itemCalls
  cases found : findInstance? db household item.taskInstanceId with
  | none =>
      simp [OpenSession.flush, ofService, Except.mapError, found, bind, Except.bind, pure,
        Except.pure]
  | some rows =>
      obtain ⟨definition, task⟩ := rows
      have storable := stored task (Table.mem_of_find? (findInstance?_ok found).1)
      dsimp only
      cases decided : decisionCall item.approve item.comment task.status with
      | none =>
          simp [OpenSession.flush, ofService, Except.mapError, found, reviewCall_decision,
            decisionCalls, decided, bind, Except.bind, pure, Except.pure]
      | some call =>
          have asks : decisionCalls item.approve item.comment db
              ⟨household, definition, task⟩ =
                serviceCalls ⟨household, definition, task⟩ db.ledger call := by
            simp only [decisionCalls, decided]
          rw [asks, ← @decision_dataError_iff ⟨transaction, item.now⟩ household definition parent
            task db.ledger _ _ _ decided]
          cases ran : call.run ⟨transaction, item.now⟩ household definition parent task
              db.ledger with
          | error raised =>
              simp only [OpenSession.flush, ofService, Except.mapError, found,
                reviewCall_decision, decided, ran, Option.map_some, bind, Except.bind, pure,
                Except.pure, if_true]
              cases message : itemError? raised with
              | none => simp
              | some text =>
                  have other : raised ≠ .dataError := by
                    rintro rfl
                    cases message
                  simp [other]
          | ok outcome =>
              obtain ⟨result, ledger⟩ := outcome
              have written := decided_texts storable sent (decisionCall_some decided).1
                (run_effect ran)
              simp [OpenSession.flush, ofService, Except.mapError, found,
                reviewCall_decision, decided, ran, OpenSession.putCall_storable written, bind,
                Except.bind, pure, Except.pure]

theorem approveItem_storable {result : BulkApproveResultItem} {session : OpenSession}
    (stored : ∀ task ∈ db.instances.rows, storableTask task = true)
    (sent : storableText item.comment = true)
    (returned : approveItem transaction household parent item ⟨db, true⟩ =
      .ok (result, session)) :
    session.flushable = true ∧
      ∀ task ∈ session.db.instances.rows, storableTask task = true := by
  unfold approveItem at returned
  simp only [OpenSession.flush, ofService, Except.mapError, if_true, bind, Except.bind, pure,
    Except.pure] at returned
  split at returned
  · cases returned
    exact ⟨rfl, stored⟩
  · rename_i definition task found
    have storable := stored task (Table.mem_of_find? (findInstance?_ok found).1)
    split at returned
    · cases returned
      exact ⟨rfl, stored⟩
    · split at returned
      · cases returned
        exact ⟨rfl, stored⟩
      · cases returned
    · rename_i row ledger called
      obtain ⟨call, decision, effect⟩ := reviewCall_effect called
      have written := decided_texts storable sent decision effect
      rw [OpenSession.putCall_storable written] at returned
      cases returned
      refine ⟨rfl, fun other member => ?_⟩
      rcases Table.mem_save.mp member with ⟨rfl, _⟩ | ⟨old, _⟩
      · exact written
      · exact stored other old

theorem runBatch_dataError_iff {items : List BulkApproveItem}
    (stored : ∀ task ∈ db.instances.rows, storableTask task = true)
    (sent : ∀ item ∈ items, storableText item.comment = true) :
    runBatch transaction household parent items ⟨db, true⟩ =
        .error (.raised .dataError) ↔
      ∃ asked ∈ batchCalls transaction household parent db items, ¬ asked.HasRoom := by
  induction items generalizing db with
  | nil => simp [runBatch, batchCalls]
  | cons item rest ih =>
      have sentItem := sent item List.mem_cons_self
      have sentRest := fun other member => sent other (List.mem_cons_of_mem item member)
      have turn := @approveItem_dataError_iff transaction household parent item db stored
        sentItem
      simp only [batchCalls, runBatch, bind]
      rw [bind_error_iff, turn]
      cases ran : approveItem transaction household parent item ⟨db, true⟩ with
      | error raised => simp
      | ok outcome =>
          obtain ⟨result, session⟩ := outcome
          obtain ⟨flushable, later⟩ := approveItem_storable stored sentItem ran
          have same : session = ⟨session.db, true⟩ := by
            rw [← flushable]
          have remaining := ih later sentRest
          simp only [Except.ok.injEq, List.mem_append, or_and_right, exists_or,
            exists_eq_left', ← remaining]
          rw [bind_error_iff, ← same]
          simp [pure, Except.pure]

theorem runBatch_flushable {items : List BulkApproveItem}
    {results : List BulkApproveResultItem} {session : OpenSession}
    (stored : ∀ task ∈ db.instances.rows, storableTask task = true)
    (sent : ∀ item ∈ items, storableText item.comment = true)
    (returned : runBatch transaction household parent items ⟨db, true⟩ =
      .ok (results, session)) : session.flushable = true := by
  induction items generalizing db results with
  | nil =>
      cases returned
      rfl
  | cons item rest ih =>
      obtain ⟨⟨result, after⟩, ran, returned⟩ := bind_ok returned
      obtain ⟨flushable, later⟩ :=
        approveItem_storable stored (sent item List.mem_cons_self) ran
      obtain ⟨⟨results, last⟩, remaining, returned⟩ := bind_ok returned
      cases returned
      have same : after = ⟨after.db, true⟩ := by
        rw [← flushable]
      rw [same] at remaining
      exact ih later (fun other member => sent other (List.mem_cons_of_mem item member))
        remaining

end Batch

end KidsChores.Properties
