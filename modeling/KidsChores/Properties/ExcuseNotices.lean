import KidsChores.Properties.NoDeadEnds

/-!
# Notices about excuses

An excuse that is stored is told to the parents of its household, and its decision to the
assignee; an excuse or a decision that is refused, replayed or rolled back is told to
nobody.  One comment is the exception: the decision is told before the commit finds out
that its text cannot be stored.
-/

set_option autoImplicit false

namespace KidsChores.Properties

open KidsChores.Api
open KidsChores.Library
open KidsChores.Library.PyDatetime
open KidsChores.Library.Runs
open KidsChores.Library.Tenancy
open KidsChores.Models
open KidsChores.Routers
open KidsChores.Routers.Tasks
open KidsChores.Server
open KidsChores.Services.Idempotency
open KidsChores.Services.Ledger
open KidsChores.Services.Notifications
open KidsChores.Services.StateMachine
open KidsChores.Session

/-! ## What fits -/

/-- A request to excuse a task changes nothing and tells nobody, or it is stored and told
to the parents. -/
inductive ExcuseTold (db : Database) : Database → List Push → Prop where
  | silent : ExcuseTold db db []
  | submitted {clock : Clock} {member : Member} {household : Models.Household}
      {definition : TaskDefinition} {task result : TaskInstance} {ledger : Ledger}
      {text : String} (acts : ActsOn db member household definition task)
      (effect : CallEffect clock household definition member task db.ledger
        (.submitExcuse text) result ledger) :
      ExcuseTold db (storeCall db result ledger)
        (notifyNewExcuse db household.id member.displayName definition.title)

/-- A decision changes nothing and tells nobody; or it is on a completion, which is stored
and told to nobody, or on an excuse, which is stored and told to the assignee. -/
inductive DecisionTold (db : Database) (approve : Bool) (comment : Option String) :
    Database → List Push → Prop where
  | silent : DecisionTold db approve comment db []
  | reviewed {clock : Clock} {parent : Member} {household : Models.Household}
      {definition : TaskDefinition} {task result : TaskInstance} {ledger : Ledger}
      (acts : ActsOn db parent household definition task)
      (effect : CallEffect clock household definition parent task db.ledger
        (.review approve comment) result ledger) :
      DecisionTold db approve comment (storeCall db result ledger) []
  | resolved {clock : Clock} {parent assignee : Member} {household : Models.Household}
      {definition : TaskDefinition} {task result : TaskInstance} {ledger : Ledger}
      (acts : ActsOn db parent household definition task)
      (effect : CallEffect clock household definition parent task db.ledger
        (.resolveExcuse approve comment) result ledger)
      (found : db.members.find? task.assigneeId = some assignee)
      (own : assignee.householdId = household.id) :
      DecisionTold db approve comment (storeCall db result ledger)
        (notifyExcuseResolved assignee definition approve)
  | rolledBack {parent assignee : Member} {household : Models.Household}
      {definition : TaskDefinition} {task : TaskInstance}
      (unstorable : storableText comment = false)
      (acts : ActsOn db parent household definition task)
      (submitted : task.status = .excusePending)
      (found : db.members.find? task.assigneeId = some assignee)
      (own : assignee.householdId = household.id) :
      DecisionTold db approve comment db (notifyExcuseResolved assignee definition approve)

/-! ## Whom a notice reaches -/

def Addressed (db : Database) (householdId : Uuid) (pushes : List Push) : Prop :=
  ∀ push ∈ pushes, ∃ member ∈ db.members.rows,
    member.householdId = householdId ∧ member.pushToken = some push.token

section Recipients

variable {db : Database}

theorem newExcuse_addressed (householdId : Uuid) (teenName title : String) :
    Addressed db householdId (notifyNewExcuse db householdId teenName title) := by
  intro push sent
  obtain ⟨parent, selected, told⟩ := List.mem_filterMap.mp sent
  obtain ⟨stored, chosen⟩ := List.mem_filter.mp selected
  obtain ⟨token, known, rfl⟩ := Option.map_eq_some_iff.mp told
  exact ⟨parent, stored, (of_decide_eq_true chosen).1, known⟩

theorem excuseResolved_addressed {assignee : Member} {definition : TaskDefinition}
    {householdId : Uuid} (stored : assignee ∈ db.members.rows)
    (own : assignee.householdId = householdId) (approve : Bool) :
    Addressed db householdId (notifyExcuseResolved assignee definition approve) := by
  intro push sent
  unfold notifyExcuseResolved at sent
  split at sent
  · cases sent
  · rename_i token known
    rw [List.mem_singleton.mp sent]
    exact ⟨assignee, stored, own, known⟩

def StaysHome (db : Database) (pushes : List Push) : Prop :=
  ∃ householdId, Addressed db householdId pushes

theorem staysHome_nil : StaysHome db [] := by
  refine ⟨0, fun push sent => ?_⟩
  cases sent

theorem ExcuseTold.staysHome {next : Database} {pushes : List Push}
    (told : ExcuseTold db next pushes) : StaysHome db pushes := by
  cases told with
  | silent => exact staysHome_nil
  | submitted acts effect => exact ⟨_, newExcuse_addressed _ _ _⟩

theorem DecisionTold.staysHome {approve : Bool} {comment : Option String} {next : Database}
    {pushes : List Push} (told : DecisionTold db approve comment next pushes) :
    StaysHome db pushes := by
  cases told with
  | silent => exact staysHome_nil
  | reviewed => exact staysHome_nil
  | resolved _ _ found own =>
      exact ⟨_, excuseResolved_addressed (Table.mem_of_find? found) own _⟩
  | rolledBack _ _ _ found own =>
      exact ⟨_, excuseResolved_addressed (Table.mem_of_find? found) own _⟩

end Recipients

/-! ## The requests -/

section Requests

variable {world : World} {request : TaskRequest} {role : Member → Except RequestError Unit}
variable {owns : Member → TaskInstance → Except RequestError Unit} {handler : TaskHandler}
variable {member : Member} {household : Models.Household} {definition : TaskDefinition}
variable {task : TaskInstance}

theorem taskMutation_unloaded {raised : RequestError}
    (refused : loadForRequest request role owns world.db = .error raised) :
    (taskMutation role owns handler request world).1.db = world.db := by
  unfold taskMutation
  rw [refused]

theorem taskMutation_replayed {response : Response}
    (loaded : loadForRequest request role owns world.db =
      .ok (member, household, definition, task))
    (cached : world.cache.get request.clock.now member.id request.idempotencyKey =
      some response) :
    (taskMutation role owns handler request world).1.db = world.db := by
  unfold taskMutation
  rw [loaded]
  dsimp only
  rcases runHandler_db request.clock member request.idempotencyKey asTask _ world with
    same | ⟨_, _, fresh, _⟩
  · exact same
  · rw [cached] at fresh
    cases fresh

theorem taskMutation_ran
    (loaded : loadForRequest request role owns world.db =
      .ok (member, household, definition, task))
    (fresh : world.cache.get request.clock.now member.id request.idempotencyKey = none) :
    (taskMutation role owns handler request world).1.db =
      match handler household definition member task ⟨world.db, true⟩ with
      | .error _ => world.db
      | .ok (_, session) => if session.flushable then session.db else world.db := by
  unfold taskMutation
  rw [loaded]
  dsimp only
  rw [runHandler_fresh fresh]
  cases handler household definition member task ⟨world.db, true⟩ with
  | error raised => rfl
  | ok outcome =>
      dsimp only [Except.map]
      split <;> rfl

/-- The query for the parents flushes the excuse before anybody is told. -/
theorem excuseHandler_flushed {clock : Clock} {text : String} {result : TaskInstance}
    {session next : OpenSession}
    (returned : excuseHandler clock text household definition member task session =
      .ok (result, next)) : next.flushable = true := by
  unfold excuseHandler at returned
  obtain ⟨⟨submitted, ledger⟩, _, returned⟩ := bind_ok returned
  obtain ⟨after, _, returned⟩ := bind_ok returned
  obtain ⟨last, flushed, returned⟩ := bind_ok returned
  cases returned
  have accepted := ofService_ok flushed
  unfold OpenSession.flush at accepted
  split at accepted
  · rename_i flushable
    cases accepted
    exact flushable
  · cases accepted

theorem excuse_told (world : World) (request : TaskRequest) (text : String) :
    ExcuseTold world.db (excuseTask request text world).1.db
      (excusePushes request text world) := by
  unfold excuseTask excusePushes
  cases loaded : loadForRequest request anyMember
      (ownTask "You can only excuse your own tasks.") world.db with
  | error raised =>
      rw [taskMutation_unloaded loaded]
      exact .silent
  | ok rows =>
      obtain ⟨member, household, definition, task⟩ := rows
      dsimp only
      cases cached : world.cache.get request.clock.now member.id request.idempotencyKey with
      | some response =>
          rw [taskMutation_replayed loaded cached]
          exact .silent
      | none =>
          rw [taskMutation_ran loaded cached]
          cases ran : excuseHandler request.clock text household definition member task
              ⟨world.db, true⟩ with
          | error raised => exact .silent
          | ok outcome =>
              obtain ⟨result, session⟩ := outcome
              obtain ⟨ledger, effect, stored⟩ := excuseHandler_ok ran
              dsimp only
              rw [if_pos (excuseHandler_flushed ran), stored]
              exact .submitted (.of_loads (loadForRequest_ok loaded)) effect

/-- A decision that returns can be committed unless its comment cannot be stored. -/
theorem reviewHandler_commits {clock : Clock} {approve : Bool} {comment : Option String}
    {result : TaskInstance} {session : OpenSession} {db : Database}
    (storable : storableTask task = true) (sent : storableText comment = true)
    (returned : reviewHandler clock approve comment household definition member task
      ⟨db, true⟩ = .ok (result, session)) : session.flushable = true := by
  unfold reviewHandler at returned
  split at returned
  · cases returned
  · rename_i outcome called
    obtain ⟨⟨row, ledger⟩, handled, returned⟩ := bind_ok returned
    obtain ⟨after, put, returned⟩ := bind_ok returned
    cases returned
    rw [catchValueError_ok handled] at called
    obtain ⟨call, decision, effect⟩ := reviewCall_effect called
    have written := decided_texts storable sent decision effect
    have stored := ofService_ok put
    rw [OpenSession.putCall_storable written] at stored
    cases stored
    rfl

theorem assignee_found {db : Database} (settled : SettledRows db)
    (acts : ActsOn db member household definition task) :
    ∃ assignee, db.members.find? task.assigneeId = some assignee ∧
      assignee.householdId = household.id := by
  obtain ⟨owner, owned, refs⟩ := settled.instances task acts.taskStored
  have ofDefinition : owner? db (taskReferences.anchor task) = some household.id := by
    have owned := owner?_definition acts.definitionStored
    rw [acts.definitionOfTask, acts.own] at owned
    exact owned
  have same : owner = household.id := Option.some.inj (owned.symm.trans ofDefinition)
  have assigned := refs (.member task.assigneeId) List.mem_cons_self
  obtain ⟨assignee, found, home⟩ := Option.map_eq_some_iff.mp assigned
  exact ⟨assignee, found, home.trans same⟩

theorem decision_told (settled : SettledRows world.db) (texts : TextsStored world.db)
    (request : TaskRequest) (approve : Bool) (comment : Option String) :
    DecisionTold world.db approve comment (reviewTask request approve comment world).1.db
      (reviewPushes request approve comment world) := by
  unfold reviewTask reviewPushes
  cases loaded : loadForRequest request requireParent anyTask world.db with
  | error raised =>
      rw [taskMutation_unloaded loaded]
      exact .silent
  | ok rows =>
      obtain ⟨parent, household, definition, task⟩ := rows
      have acts : ActsOn world.db parent household definition task :=
        .of_loads (loadForRequest_ok loaded)
      dsimp only
      cases cached : world.cache.get request.clock.now parent.id request.idempotencyKey with
      | some response =>
          rw [taskMutation_replayed loaded cached]
          exact .silent
      | none =>
          rw [taskMutation_ran loaded cached]
          cases ran : reviewHandler request.clock approve comment household definition parent
              task ⟨world.db, true⟩ with
          | error raised => exact .silent
          | ok outcome =>
              obtain ⟨result, session⟩ := outcome
              dsimp only
              obtain ⟨call, ledger, decision, effect, stored⟩ := reviewHandler_ok ran
              have sent : session.flushable = false → storableText comment = false := by
                rw [← Bool.not_eq_true, ← Bool.not_eq_true]
                exact mt fun sent =>
                  reviewHandler_commits (texts task acts.taskStored) sent ran
              rcases decision with rfl | rfl
              · have inReview : task.status = .reviewPending := effect.accepts
                have untold : resolvedPushes world.db definition task approve = [] := by
                  unfold resolvedPushes
                  rw [inReview]
                  rfl
                rw [untold]
                cases flushable : session.flushable with
                | true =>
                    rw [if_pos rfl, stored]
                    exact .reviewed acts effect
                | false => exact .silent
              · have submitted : task.status = .excusePending := effect.accepts
                obtain ⟨assignee, found, own⟩ := assignee_found settled acts
                have told : resolvedPushes world.db definition task approve =
                    notifyExcuseResolved assignee definition approve := by
                  unfold resolvedPushes
                  rw [if_pos submitted, found]
                rw [told]
                cases flushable : session.flushable with
                | true =>
                    rw [if_pos rfl, stored]
                    exact .resolved acts effect found own
                | false => exact .rolledBack (sent flushable) acts submitted found own

end Requests

/-! ## Every state -/

/-- The notices of both requests fit what they leave, and stay in one household. -/
structure NoticesFit (world : World) : Prop where
  excuses : ∀ request text,
    ExcuseTold world.db (excuseTask request text world).1.db
        (excusePushes request text world) ∧
      StaysHome world.db (excusePushes request text world)
  decisions : ∀ request approve comment,
    DecisionTold world.db approve comment (reviewTask request approve comment world).1.db
        (reviewPushes request approve comment world) ∧
      StaysHome world.db (reviewPushes request approve comment world)

/-- In every state of a run, whoever submits an excuse or decides one: what is told is what
is stored, to the parents or the assignee. -/
theorem notices_fit (pytz : String → Option TzInfo)
    (verifyPassword : String → String → Bool) (events : List ServerEvent) :
    Always (serverStep pytz verifyPassword) (fun server => NoticesFit server.world)
      emptyServer events := by
  have always := (settled_always events).and (texts_always pytz verifyPassword events)
  refine always.imp ?_
  rintro server ⟨settled, texts⟩
  constructor
  · intro request text
    have told := excuse_told server.world request text
    exact ⟨told, told.staysHome⟩
  · intro request approve comment
    have told := decision_told settled texts request approve comment
    exact ⟨told, told.staysHome⟩

end KidsChores.Properties
