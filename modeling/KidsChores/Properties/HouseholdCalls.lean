import KidsChores.Properties.HouseholdWrites

/-!
# Service calls of a household

A call on a household's instance does the same to two databases that hold the same rows
of the household: it raises the same error, or leaves the same row and adds the same
entries.
-/

set_option autoImplicit false

namespace KidsChores.Properties

open KidsChores.Library
open KidsChores.Library.PyDatetime
open KidsChores.Library.Slices
open KidsChores.Models
open KidsChores.Routers
open KidsChores.Routers.Approvals
open KidsChores.Routers.Tasks
open KidsChores.Services.Ledger
open KidsChores.Services.StateMachine
open KidsChores.Session

/-! ## One entry -/

/-- The posting is to a member of the household, about no instance or about one of the
member's. -/
structure OwnPosting (home : Uuid) (db : Database) (posting : Posting) : Prop where
  owned : owner? db (.member posting.memberId) = some home
  unwindowed : posting.seriesInstanceId = none
  about : ∀ taskId ∈ posting.taskInstanceId, ∃ task ∈ db.instances.rows,
    task.id = taskId ∧ task.assigneeId = posting.memberId

section Entries

variable {home : Uuid} {db other : Database} {posting : Posting}

theorem OwnPosting.clash (own : OwnPosting home db posting) (settled : SettledRows db)
    {earlier : LedgerEntry} {balance : Int} {createdAt : Instant}
    (stored : earlier ∈ db.ledger.entries)
    (clash : earlier.Clashes (posting.entry balance createdAt)) :
    entryOwner? db earlier = some home := by
  obtain ⟨_, ⟨named, sameTask⟩ | ⟨named, sameWindow⟩⟩ := clash
  · obtain ⟨taskId, ofTask⟩ := Option.isSome_iff_exists.mp named
    have about : posting.taskInstanceId = some taskId := sameTask.symm.trans ofTask
    obtain ⟨task, taskStored, sameId, sameAssignee⟩ := own.about taskId about
    obtain ⟨other, otherStored, otherId, otherAssignee⟩ :=
      settled.posted earlier stored taskId ofTask
    have one : other = task :=
      db.instances.row_unique otherStored taskStored (otherId.trans sameId.symm)
    unfold entryOwner?
    rw [← otherAssignee, one, sameAssignee]
    exact own.owned
  · have unnamed : earlier.seriesInstanceId = none := sameWindow.trans own.unwindowed
    rw [unnamed] at named
    cases named

theorem OwnPosting.free (same : holdings home db = holdings home other)
    (own : OwnPosting home db posting) (settled : SettledRows db) {balance : Int}
    {createdAt : Instant}
    (free : ∀ earlier ∈ other.ledger.entries,
      ¬ earlier.Clashes (posting.entry balance createdAt)) :
    ∀ earlier ∈ db.ledger.entries,
      ¬ earlier.Clashes (posting.entry balance createdAt) := by
  intro earlier stored clash
  have mine : earlier ∈ (holdings home db).entries :=
    mem_slice.mpr ⟨stored, own.clash settled stored clash⟩
  rw [same] at mine
  exact free earlier (mem_slice.mp mine).1 clash

theorem SamePosts.refl (memberId : Uuid) (ledger otherLedger : Ledger) :
    SamePosts memberId ledger otherLedger ledger otherLedger :=
  ⟨[], by simp, by simp, by simp⟩

theorem record_alike (same : holdings home db = holdings home other)
    (settled : SettledRows db) (otherSettled : SettledRows other) {clock : Clock}
    (own : OwnPosting home db posting) (otherOwn : OwnPosting home other posting) :
    Alike (SamePosts posting.memberId db.ledger other.ledger)
      (record db.ledger clock posting) (record other.ledger clock posting) := by
  unfold record write
  rw [← currentBalance_same same own.owned]
  split
  · generalize entered : posting.entry (currentBalance db.ledger posting.memberId)
      clock.transaction = entry
    have free : (∀ earlier ∈ db.ledger.entries, ¬ earlier.Clashes entry) ↔
        ∀ earlier ∈ other.ledger.entries, ¬ earlier.Clashes entry := by
      rw [← entered]
      exact ⟨otherOwn.free same.symm otherSettled, own.free same settled⟩
    unfold Ledger.insert?
    by_cases hit : ∀ earlier ∈ db.ledger.entries, ¬ earlier.Clashes entry
    · rw [dif_pos hit, dif_pos (free.mp hit)]
      refine .returned ⟨[entry], rfl, rfl, List.forall_mem_singleton.mpr ?_⟩
      rw [← entered]
      rfl
    · rw [dif_neg hit, dif_neg (mt free.mpr hit)]
      exact .raised _
  · exact .raised _

end Entries

/-! ## One call -/

/-- The two calls left the same row and added the same entries of its assignee. -/
def SameCall (assigneeId : Uuid) (ledger otherLedger : Ledger)
    (first second : TaskInstance × Ledger) : Prop :=
  first.1 = second.1 ∧ SamePosts assigneeId ledger otherLedger first.2 second.2

section Calls

variable {clock : Clock} {household : Household} {definition : TaskDefinition}
variable {actor : Member} {task : TaskInstance} {ledger otherLedger : Ledger}

/-- Postings about the instance to its assignee do the same to both ledgers. -/
def SameRecords (clock : Clock) (task : TaskInstance) (ledger otherLedger : Ledger) :
    Prop :=
  ∀ posting : Posting, posting.memberId = task.assigneeId →
    posting.taskInstanceId = some task.id → posting.seriesInstanceId = none →
      Alike (SamePosts task.assigneeId ledger otherLedger)
        (record ledger clock posting) (record otherLedger clock posting)

/-- A row and the posting that goes with it. -/
theorem SameRecords.paid (records : SameRecords clock task ledger otherLedger)
    {posting : Posting} (ofAssignee : posting.memberId = task.assigneeId)
    (ofTask : posting.taskInstanceId = some task.id)
    (unwindowed : posting.seriesInstanceId = none) (row : TaskInstance) :
    Alike (SameCall task.assigneeId ledger otherLedger)
      ((record ledger clock posting).bind fun ledger => .ok (row, ledger))
      ((record otherLedger clock posting).bind fun ledger => .ok (row, ledger)) :=
  (records posting ofAssignee ofTask unwindowed).bind fun _ _ _ _ posts =>
    .returned ⟨rfl, posts⟩

theorem SameCall.unpaid (assigneeId : Uuid) (row : TaskInstance) :
    Alike (SameCall assigneeId ledger otherLedger)
      (.ok (row, ledger) : Except ServiceError (TaskInstance × Ledger))
      (.ok (row, otherLedger)) :=
  .returned ⟨rfl, .refl _ _ _⟩

variable (records : SameRecords clock task ledger otherLedger)
include records

theorem complete_alike (note : Option String) :
    Alike (SameCall task.assigneeId ledger otherLedger)
      (complete clock definition actor note task ledger)
      (complete clock definition actor note task otherLedger) := by
  simp only [complete, bind, pure, Except.pure, throw, throwThe, MonadExceptOf.throw]
  refine .guard fun _ => .bind_same fun newStatus _ => ?_
  split
  · exact records.paid rfl rfl rfl _
  · exact SameCall.unpaid _ _

omit records in
theorem submitExcuse_alike (excuseText : String) :
    Alike (SameCall task.assigneeId ledger otherLedger)
      (submitExcuse clock excuseText task ledger)
      (submitExcuse clock excuseText task otherLedger) := by
  simp only [submitExcuse, bind, pure, Except.pure, throw, throwThe, MonadExceptOf.throw]
  exact .guard fun _ => .guard fun _ => .bind_same fun newStatus _ => SameCall.unpaid _ _

theorem review_alike (approve : Bool) (comment : Option String) :
    Alike (SameCall task.assigneeId ledger otherLedger)
      (review clock definition actor approve comment task ledger)
      (review clock definition actor approve comment task otherLedger) := by
  simp only [review, bind, pure, Except.pure, throw, throwThe, MonadExceptOf.throw]
  refine .guard fun _ => .guard fun _ => ?_
  split
  · exact .bind_same fun newStatus _ => records.paid rfl rfl rfl _
  · exact .bind_same fun newStatus _ => SameCall.unpaid _ _

theorem resolveExcuse_alike (approve : Bool) (comment : Option String) :
    Alike (SameCall task.assigneeId ledger otherLedger)
      (resolveExcuse clock definition actor household approve comment task ledger)
      (resolveExcuse clock definition actor household approve comment task otherLedger) := by
  simp only [resolveExcuse, bind, pure, Except.pure, throw, throwThe, MonadExceptOf.throw]
  refine .guard fun _ => .guard fun _ => ?_
  split
  · refine .bind_same fun newStatus _ => ?_
    unfold awardExcuseIfPolicy
    cases household.excusedPayoutPolicy with
    | excusedPaysNothing => exact SameCall.unpaid _ _
    | excusedPaysPartial => exact records.paid rfl rfl rfl _
    | excusedPaysFull => exact records.paid rfl rfl rfl _
  · exact .bind_same fun newStatus _ => SameCall.unpaid _ _

omit records in
theorem cancel_alike (reason : Option String) :
    Alike (SameCall task.assigneeId ledger otherLedger)
      (cancel clock actor reason task ledger) (cancel clock actor reason task otherLedger) := by
  simp only [cancel, bind, pure, Except.pure, throw, throwThe, MonadExceptOf.throw]
  exact .guard fun _ => .bind_same fun newStatus _ => SameCall.unpaid _ _

end Calls

/-! ## Sessions -/

/-- The household's instance, in both databases. -/
structure OwnTask (home : Uuid) (db other : Database) (task : TaskInstance) : Prop where
  stored : task ∈ db.instances.rows
  otherStored : task ∈ other.instances.rows
  owned : taskOwner? db task = some home
  assigned : owner? db (.member task.assigneeId) = some home

theorem Confined.refl {home : Uuid} {db other : Database}
    (same : holdings home db = holdings home other) : Confined home db db other :=
  ⟨same, fun _ _ => rfl⟩

structure SameSession (home : Uuid) (db : Database) (first second : OpenSession) : Prop where
  confined : Confined home db first.db second.db
  flushable : first.flushable = second.flushable

def SameResult {Result : Type} (home : Uuid) (db : Database)
    (first second : Result × OpenSession) : Prop :=
  first.1 = second.1 ∧ SameSession home db first.2 second.2

section Sessions

variable {home : Uuid} {session other : OpenSession}

theorem found_owner {db : Database} {household : Household} {id : Uuid}
    {definition : TaskDefinition} {task : TaskInstance} (own : household.id = home)
    (found : findInstance? db household id = some (definition, task)) :
    taskOwner? db task = some home := by
  obtain ⟨_, definitionFound, ofHousehold⟩ := findInstance?_ok found
  unfold taskOwner?
  rw [← Table.key_of_find? definitionFound,
    owner?_definition (Table.mem_of_find? definitionFound), ofHousehold, own]

theorem ownTask_of_found {db otherDb : Database}
    (same : holdings home db = holdings home otherDb) (settled : SettledRows db)
    {household : Household} (own : household.id = home) {id : Uuid}
    {definition : TaskDefinition} {task : TaskInstance}
    (found : findInstance? db household id = some (definition, task)) :
    OwnTask home db otherDb task := by
  have stored := Table.mem_of_find? (findInstance?_ok found).1
  have otherFound := findInstance?_imp same own found
  have owned := found_owner own found
  exact ⟨stored, Table.mem_of_find? (findInstance?_ok otherFound).1, owned,
    settled.assignee stored owned⟩

theorem OwnTask.records {db otherDb : Database} {task : TaskInstance}
    (mine : OwnTask home db otherDb task) (same : holdings home db = holdings home otherDb)
    (settled : SettledRows db) (otherSettled : SettledRows otherDb) (clock : Clock) :
    SameRecords clock task db.ledger otherDb.ledger := by
  intro posting ofAssignee ofTask unwindowed
  have about : ∀ {db : Database}, task ∈ db.instances.rows →
      ∀ taskId ∈ posting.taskInstanceId, ∃ stored ∈ db.instances.rows,
        stored.id = taskId ∧ stored.assigneeId = posting.memberId := by
    intro db stored taskId named
    rw [ofTask] at named
    cases named
    exact ⟨task, stored, rfl, ofAssignee.symm⟩
  have owned := mine.assigned
  rw [← ofAssignee] at owned ⊢
  exact record_alike same settled otherSettled ⟨owned, unwindowed, about mine.stored⟩
    ⟨(memberOwner_same same).mp owned, unwindowed, about mine.otherStored⟩

theorem SameSession.flush {db : Database} (sessions : SameSession home db session other) :
    Alike (SameSession home db) (ofService session.flush) (ofService other.flush) := by
  refine Alike.mapError ?_ _
  unfold OpenSession.flush
  rw [← sessions.flushable]
  split
  · exact .returned sessions
  · exact .raised _

theorem SamePosts.length_iff {memberId : Uuid}
    {ledger otherLedger next otherNext : Ledger}
    (posts : SamePosts memberId ledger otherLedger next otherNext) :
    next.entries.length = ledger.entries.length ↔
      otherNext.entries.length = otherLedger.entries.length := by
  obtain ⟨added, grown, otherGrown, _⟩ := posts
  simp [grown, otherGrown]

theorem OwnTask.put {task result : TaskInstance} {ledger otherLedger : Ledger}
    (mine : OwnTask home session.db other.db task)
    (same : holdings home session.db = holdings home other.db)
    (flushable : session.flushable = other.flushable) (sameTask : SameTask task result)
    (posts : SamePosts task.assigneeId session.db.ledger other.db.ledger ledger
      otherLedger) :
    Alike (SameSession home session.db) (ofService (session.putCall result ledger))
      (ofService (other.putCall result otherLedger)) := by
  have paid := Confined.posted same mine.assigned posts
  have saved := paid.trans (Confined.instanceSaved paid.same mine.stored mine.otherStored
    sameTask mine.owned)
  have sessions : SameSession home session.db
      { db := storeCall session.db result ledger
        flushable := session.flushable && storableTask result }
      { db := storeCall other.db result otherLedger
        flushable := other.flushable && storableTask result } :=
    ⟨saved, congrArg (· && storableTask result) flushable⟩
  unfold OpenSession.putCall
  by_cases unposted : ledger.entries.length = session.db.ledger.entries.length
  · rw [if_pos unposted, if_pos (posts.length_iff.mp unposted)]
    exact .returned sessions
  · rw [if_neg unposted, if_neg (mt posts.length_iff.mpr unposted)]
    exact sessions.flush

end Sessions

/-! ## The requests on one instance -/

theorem Alike.catchInvalidTransition {Result : Type} {related : Result → Result → Prop}
    {first second : Except ServiceError Result} (results : Alike related first second) :
    Alike related (Tasks.catchInvalidTransition first)
      (Tasks.catchInvalidTransition second) := by
  cases results with
  | returned agree => exact .returned agree
  | raised error => cases error <;> exact .raised _

theorem Alike.catchValueError {Result : Type} {related : Result → Result → Prop}
    {first second : Except ServiceError Result} (results : Alike related first second) :
    Alike related (Tasks.catchValueError first) (Tasks.catchValueError second) := by
  cases results with
  | returned agree => exact .returned agree
  | raised error => cases error <;> exact .raised _

section Handlers

variable {home : Uuid} {session other : OpenSession} {clock : Clock}
variable {household : Household} {definition : TaskDefinition} {member : Member}
variable {task : TaskInstance} (same : holdings home session.db = holdings home other.db)
  (flushable : session.flushable = other.flushable) (settled : SettledRows session.db)
  (otherSettled : SettledRows other.db) (mine : OwnTask home session.db other.db task)
include same flushable mine

include settled otherSettled in
theorem completeHandler_alike (note : Option String) :
    Alike (SameResult home session.db)
      (completeHandler clock note household definition member task session)
      (completeHandler clock note household definition member task other) := by
  unfold completeHandler
  refine Alike.bind (Alike.catchInvalidTransition
    (complete_alike (mine.records same settled otherSettled clock) note)) ?_
  rintro ⟨completed, ledger⟩ ⟨_, otherLedger⟩ called _ ⟨rfl, posts⟩
  have sameTask := (@complete_effect _ household _ _ _ _ _ _ _
    (catchInvalidTransition_ok called)).sameTask
  refine Alike.bind (mine.put same flushable sameTask posts)
    fun after otherAfter _ _ sessions => ?_
  have unwindowed : completed.seriesInstanceId = none :=
    sameTask.seriesInstanceId.trans (settled.unlinked task mine.stored)
  dsimp only
  simp only [evaluateWindow, unwindowed]
  exact .returned ⟨rfl, sessions⟩

theorem excuseHandler_alike (excuseText : String) :
    Alike (SameResult home session.db)
      (excuseHandler clock excuseText household definition member task session)
      (excuseHandler clock excuseText household definition member task other) := by
  unfold excuseHandler
  refine Alike.bind (Alike.catchValueError (submitExcuse_alike excuseText)) ?_
  rintro ⟨submitted, ledger⟩ ⟨_, otherLedger⟩ called _ ⟨rfl, posts⟩
  have sameTask := (@submitExcuse_effect _ household definition member _ _ _ _ _
    (catchValueError_ok called)).sameTask
  refine (mine.put same flushable sameTask posts).bind fun after otherAfter _ _ sessions => ?_
  exact sessions.flush.bind fun _ _ _ _ flushed => .returned ⟨rfl, flushed⟩

theorem cancelHandler_alike (reason : Option String) :
    Alike (SameResult home session.db)
      (cancelHandler clock reason household definition member task session)
      (cancelHandler clock reason household definition member task other) := by
  unfold cancelHandler
  refine Alike.bind (Alike.catchInvalidTransition (cancel_alike reason)) ?_
  rintro ⟨cancelled, ledger⟩ ⟨_, otherLedger⟩ called _ ⟨rfl, posts⟩
  have sameTask := (@cancel_effect _ household definition member _ _ _ _ _
    (catchInvalidTransition_ok called)).sameTask
  exact (mine.put same flushable sameTask posts).bind fun after otherAfter _ _ sessions =>
    .returned ⟨rfl, sessions⟩

end Handlers

/-! ## Decisions -/

section Decisions

variable {home : Uuid} {session other : OpenSession} {clock : Clock}
variable {household : Household} {definition : TaskDefinition} {parent : Member}
variable {task : TaskInstance}

/-- Both statuses of a review call the service, and no other does. -/
theorem reviewCall_alike {ledger otherLedger : Ledger}
    (records : SameRecords clock task ledger otherLedger) (approve : Bool)
    (comment : Option String) :
    (reviewCall clock approve comment household definition parent task ledger = none ∧
        reviewCall clock approve comment household definition parent task otherLedger =
          none) ∨
      ∃ called otherCalled,
        reviewCall clock approve comment household definition parent task ledger =
          some called ∧
        reviewCall clock approve comment household definition parent task otherLedger =
          some otherCalled ∧
        Alike (SameCall task.assigneeId ledger otherLedger) called otherCalled := by
  unfold reviewCall
  split
  · exact Or.inr ⟨_, _, rfl, rfl, review_alike records approve comment⟩
  · split
    · exact Or.inr ⟨_, _, rfl, rfl, resolveExcuse_alike records approve comment⟩
    · exact Or.inl ⟨rfl, rfl⟩

theorem decided_sameTask {ledger next : Ledger} {approve : Bool} {comment : Option String}
    {result : TaskInstance}
    (called : reviewCall clock approve comment household definition parent task ledger =
      some (.ok (result, next))) : SameTask task result := by
  obtain ⟨_, _, effect⟩ := reviewCall_effect called
  exact effect.sameTask

variable (same : holdings home session.db = holdings home other.db)
  (flushable : session.flushable = other.flushable) (settled : SettledRows session.db)
  (otherSettled : SettledRows other.db)
include same flushable settled otherSettled

theorem reviewHandler_alike (mine : OwnTask home session.db other.db task) (approve : Bool)
    (comment : Option String) :
    Alike (SameResult home session.db)
      (reviewHandler clock approve comment household definition parent task session)
      (reviewHandler clock approve comment household definition parent task other) := by
  unfold reviewHandler
  obtain ⟨uncalled, otherUncalled⟩ | ⟨called, otherCalled, run, otherRun, calls⟩ :=
    @reviewCall_alike _ household definition parent _ _ _
      (mine.records same settled otherSettled clock) approve comment
  · rw [uncalled, otherUncalled]
    exact .raised _
  · rw [run, otherRun]
    refine Alike.bind (Alike.catchValueError calls) ?_
    rintro ⟨result, ledger⟩ ⟨_, otherLedger⟩ caught _ ⟨rfl, posts⟩
    rw [catchValueError_ok caught] at run
    exact Alike.bind (mine.put same flushable (decided_sameTask run) posts)
      fun after otherAfter _ _ sessions => .returned ⟨rfl, sessions⟩

theorem approveItem_alike (own : household.id = home) (transaction : Instant)
    (item : BulkApproveItem) :
    Alike (SameResult home session.db)
      (approveItem transaction household parent item session)
      (approveItem transaction household parent item other) := by
  have sessions : SameSession home session.db session other := ⟨.refl same, flushable⟩
  unfold approveItem
  refine Alike.bind sessions.flush fun after otherAfter flushed otherFlushed _ => ?_
  cases OpenSession.flush_ok (ofService_ok flushed)
  cases OpenSession.flush_ok (ofService_ok otherFlushed)
  rw [← findInstance?_same same own]
  cases found : findInstance? session.db household item.taskInstanceId with
  | none => exact .returned ⟨rfl, sessions⟩
  | some row =>
      obtain ⟨definition, task⟩ := row
      have mine : OwnTask home session.db other.db task :=
        ownTask_of_found same settled own found
      obtain ⟨uncalled, otherUncalled⟩ | ⟨called, otherCalled, run, otherRun, calls⟩ :=
        @reviewCall_alike ⟨transaction, item.now⟩ household definition parent _ _ _
          (mine.records same settled otherSettled _) item.approve item.comment
      · simp only [uncalled, otherUncalled]
        exact .returned ⟨rfl, sessions⟩
      · simp only [run, otherRun]
        cases calls with
        | raised error =>
            cases item : itemError? error with
            | some message =>
                simp only [item]
                exact .returned ⟨rfl, sessions⟩
            | none =>
                simp only [item]
                exact .raised _
        | returned outcome =>
            rename_i first second
            obtain ⟨result, ledger⟩ := first
            obtain ⟨_, otherLedger⟩ := second
            obtain ⟨rfl, posts⟩ := outcome
            exact Alike.bind (mine.put same flushable (decided_sameTask run) posts)
              fun after otherAfter _ _ stored => .returned ⟨rfl, stored⟩

omit same flushable otherSettled in
theorem approveItem_settled {transaction : Instant} {item : BulkApproveItem}
    {result : BulkApproveResultItem} {next : OpenSession}
    (returned : approveItem transaction household parent item session = .ok (result, next)) :
    SettledRows next.db := by
  rcases approveItem_ok returned with unchanged |
    ⟨definition, task, call, decided, ledger, found, _, effect, stored⟩
  · rw [unchanged]
    exact settled
  · rw [stored]
    exact settled.callStored (Table.mem_of_find? (findInstance?_ok found).1)
      (found_owner rfl found) effect

end Decisions

/-- By induction on the items: each keeps the two sessions in step. -/
theorem runBatch_alike {home : Uuid} {household : Household} {parent : Member}
    (own : household.id = home) (transaction : Instant) (items : List BulkApproveItem)
    {session other : OpenSession} (same : holdings home session.db = holdings home other.db)
    (flushable : session.flushable = other.flushable) (settled : SettledRows session.db)
    (otherSettled : SettledRows other.db) :
    Alike (SameResult home session.db) (runBatch transaction household parent items session)
      (runBatch transaction household parent items other) := by
  induction items generalizing session other with
  | nil => exact .returned ⟨rfl, .refl same, flushable⟩
  | cons item rest ih =>
      unfold runBatch
      refine Alike.bind (approveItem_alike same flushable settled otherSettled own
        transaction item) ?_
      rintro ⟨result, after⟩ ⟨_, otherAfter⟩ turn otherTurn ⟨rfl, sessions⟩
      refine Alike.bind (ih sessions.confined.same sessions.flushable
        (approveItem_settled settled turn) (approveItem_settled otherSettled otherTurn)) ?_
      rintro ⟨results, last⟩ ⟨_, otherLast⟩ _ _ ⟨rfl, later⟩
      exact .returned ⟨rfl, sessions.confined.trans later.confined, later.flushable⟩

end KidsChores.Properties
