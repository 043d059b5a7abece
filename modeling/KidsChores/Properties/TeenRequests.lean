import KidsChores.Properties.LedgerAgreement
import KidsChores.Properties.SeriesPayout
import KidsChores.Server

/-!
# What teens can do

Runs of requests none of which a parent makes.  A teen completes and excuses tasks of
their own and submits claims; every other request that writes to these tables asks
for a parent first.
-/

set_option autoImplicit false

namespace KidsChores.Properties

open KidsChores.Api
open KidsChores.Library
open KidsChores.Library.PyDatetime
open KidsChores.Library.Runs
open KidsChores.Models
open KidsChores.Routers
open KidsChores.Routers.Approvals
open KidsChores.Routers.Definitions
open KidsChores.Routers.Household
open KidsChores.Routers.Series
open KidsChores.Routers.Tasks
open KidsChores.Routers.Wallet
open KidsChores.Server
open KidsChores.Services.Ledger
open KidsChores.Services.SeriesCompletion
open KidsChores.Services.StateMachine
open KidsChores.Session

def isRequest : ServerEvent → Bool
  | .api (.nightly _ _) => false
  | _ => true

/-- A request of a teen, or one on a path that needs no token. -/
def ByTeen (server : ServerState) (event : ServerEvent) : Prop :=
  isRequest event = true ∧ ∀ member ∈ authenticated? server event, member.role = .teen

instance (server : ServerState) (event : ServerEvent) : Decidable (ByTeen server event) :=
  inferInstanceAs (Decidable (_ ∧ ∀ member ∈ authenticated? server event, _))

/-- The frozen points of an instance of the caller that needs no review. -/
structure TaskEntry (start : Database) (caller : Uuid) (entry : LedgerEntry) : Prop where
  entryType : entry.entryType = .taskCompleted
  earner : entry.memberId = caller
  own : ∃ task ∈ start.instances.rows, entry.taskInstanceId = some task.id ∧
    task.assigneeId = caller ∧ entry.delta = task.pointValue ∧
    ∃ definition, start.definitions.find? task.definitionId = some definition ∧
      definition.requiresReview = false

/-- The bonus of a window that was active at the start. -/
structure BonusEntry (start : Database) (entry : LedgerEntry) : Prop where
  entryType : entry.entryType = .seriesBonus
  window : ∃ seriesInstance ∈ start.seriesInstances.rows,
    entry.seriesInstanceId = some seriesInstance.id ∧ seriesInstance.status = .active

/-- No parent's decision is taken: nothing becomes excused or cancelled, and what waits
for a parent waits on. -/
structure Undecided (db next : Database) (taskId : Uuid) : Prop where
  excused : statusOf next taskId = some .excused → statusOf db taskId = some .excused
  cancelled : statusOf next taskId = some .cancelled →
    statusOf db taskId = some .cancelled
  inReview : statusOf db taskId = some .reviewPending →
    statusOf next taskId = some .reviewPending
  submitted : statusOf db taskId = some .excusePending →
    statusOf next taskId = some .excusePending

structure OnlyEarns (start db : Database) (caller : Option Uuid) (next : Database) :
    Prop where
  entries : ∃ created, next.ledger.entries = db.ledger.entries ++ created ∧
    ∀ entry ∈ created,
      (∃ teen ∈ caller, TaskEntry start teen entry) ∨ BonusEntry start entry
  tasks : ∀ taskId, Undecided db next taskId
  claims : ∀ claim ∈ db.claims.rows, claim ∈ next.claims.rows
  newClaims : ∀ claim ∈ next.claims.rows, claim ∈ db.claims.rows ∨ claim.status = .pending

/-! ## Parents only -/

section Refused

variable {db : Database} {memberId : Uuid}

theorem loadParent_teen
    (teen : ∀ member, getCurrentMember db memberId = .ok member → member.role = .teen) :
    ∃ raised, loadParent db memberId = .error raised := by
  cases found : getCurrentMember db memberId with
  | error raised => exact ⟨raised, by simp [loadParent, found, bind, Except.bind]⟩
  | ok member =>
      refine ⟨.http 403 "This action requires a parent account.", ?_⟩
      simp [loadParent, found, requireParent, teen member found, bind, Except.bind]

theorem loadForRequest_teen {request : TaskRequest}
    (teen : ∀ member, getCurrentMember db request.memberId = .ok member →
      member.role = .teen) :
    ∃ raised, loadForRequest request requireParent anyTask db = .error raised := by
  cases found : getCurrentMember db request.memberId with
  | error raised => exact ⟨raised, by simp [loadForRequest, found, bind, Except.bind]⟩
  | ok member =>
      refine ⟨.http 403 "This action requires a parent account.", ?_⟩
      simp [loadForRequest, found, requireParent, teen member found, bind, Except.bind]

theorem ownTask_teen {detail : String} {member : Member} {task : TaskInstance}
    (teen : member.role = .teen) (owns : ownTask detail member task = .ok ()) :
    task.assigneeId = member.id := by
  unfold ownTask at owns
  split at owns
  · cases owns
  · rename_i open_
    by_contra other
    exact open_ ⟨teen, other⟩

end Refused

/-! ## One request -/

/-- What a request of a teen does to the database: the columns of members and
households apart, one task of their own, or a new claim. -/
inductive TeenEffect (db : Database) : ServerEvent → Database → Prop where
  | auth {event : ServerEvent} {next : Database} (effect : AuthEffect db next) :
      TeenEffect db event next
  | completed {request : TaskRequest} {note : Option String} {next : Database}
      {teen : Member} {household : Household} {definition : TaskDefinition}
      {task result : TaskInstance} {ledger : Ledger}
      (acts : ActsOn db teen household definition task)
      (caller : teen.id = request.memberId) (own : task.assigneeId = teen.id)
      (effect : CallEffect request.clock household definition teen task db.ledger
        (.complete note) result ledger)
      (check : WindowCheck request.clock result (storeCall db result ledger) next) :
      TeenEffect db (.api (.completeTask request note)) next
  | excused {request : TaskRequest} {excuseText : String} {teen : Member}
      {household : Household} {definition : TaskDefinition} {task result : TaskInstance}
      {ledger : Ledger} (acts : ActsOn db teen household definition task)
      (effect : CallEffect request.clock household definition teen task db.ledger
        (.submitExcuse excuseText) result ledger) :
      TeenEffect db (.api (.excuseTask request excuseText)) (storeCall db result ledger)
  | claimed {request : SubmitClaim} {member : Member} :
      TeenEffect db (.api (.submitClaim request))
        { db with claims := db.claims.append (request.body.claim member) fun _ => rfl }

theorem commit_refused {Error : Type} {world : World} {event : ServerEvent}
    {result : Except Error Database} (refused : ∃ raised, result = .error raised) :
    TeenEffect world.db event (commit world result).db := by
  obtain ⟨raised, rfl⟩ := refused
  exact .auth (.refl world.db)

theorem apiStep_teen {pytz : String → Option TzInfo} {world : World} {event : ApiEvent}
    (isRequest : ∀ clock householdId, event ≠ .nightly clock householdId)
    (teen : ∀ memberId ∈ apiCaller event, ∀ member,
      getCurrentMember world.db memberId = .ok member → member.role = .teen) :
    TeenEffect world.db (.api event) (apiStep pytz world event).db := by
  cases event with
  | nightly clock householdId => exact absurd rfl (isRequest clock householdId)
  | completeTask request note =>
      simp only [apiStep]
      rcases completeTask_db request note world with
        same | ⟨member, household, definition, task, result, ledger, loaded, _, effect, check⟩
      · rw [same]
        exact .auth (.refl world.db)
      · have loads := loadForRequest_ok loaded
        have isTeen := teen request.memberId rfl member (by
          simp [getCurrentMember, loads.memberFound])
        exact .completed (.of_loads loads) (Table.key_of_find? loads.memberFound)
          (ownTask_teen isTeen loads.ownsOk) effect check
  | excuseTask request excuseText =>
      simp only [apiStep]
      rcases excuseTask_db request excuseText world with
        same | ⟨member, household, definition, task, result, ledger, loaded, effect, stored⟩
      · rw [same]
        exact .auth (.refl world.db)
      · rw [stored]
        exact .excused (.of_loads (loadForRequest_ok loaded)) effect
  | submitClaim request =>
      simp only [apiStep]
      cases submitted : submitClaim request world.db with
      | error raised => exact .auth (.refl world.db)
      | ok next =>
          obtain ⟨member, found, rfl⟩ := submitClaim_ok submitted
          exact .claimed
  | reviewTask request approve comment =>
      obtain ⟨raised, refused⟩ := loadForRequest_teen (teen request.memberId rfl)
      simp only [apiStep, reviewTask, taskMutation, refused]
      exact .auth (.refl world.db)
  | cancelTask request reason =>
      obtain ⟨raised, refused⟩ := loadForRequest_teen (teen request.memberId rfl)
      simp only [apiStep, cancelTask, taskMutation, refused]
      exact .auth (.refl world.db)
  | bulkApprove request =>
      obtain ⟨raised, refused⟩ := loadParent_teen (teen request.memberId rfl)
      simp only [apiStep, bulkApprove, refused]
      exact .auth (.refl world.db)
  | createDefinition request =>
      obtain ⟨raised, refused⟩ := loadParent_teen (teen request.memberId rfl)
      exact commit_refused ⟨raised, by simp only [createDefinition, refused, bind, Except.bind]⟩
  | updateDefinition request =>
      obtain ⟨raised, refused⟩ := loadParent_teen (teen request.memberId rfl)
      exact commit_refused ⟨raised, by simp only [updateDefinition, refused, bind, Except.bind]⟩
  | archiveDefinition request =>
      obtain ⟨raised, refused⟩ := loadParent_teen (teen request.memberId rfl)
      exact commit_refused ⟨raised, by simp only [archiveDefinition, refused, bind, Except.bind]⟩
  | createSeries request =>
      obtain ⟨raised, refused⟩ := loadParent_teen (teen request.memberId rfl)
      exact commit_refused ⟨raised, by simp only [createSeries, refused, bind, Except.bind]⟩
  | updateSeries request =>
      obtain ⟨raised, refused⟩ := loadParent_teen (teen request.memberId rfl)
      exact commit_refused ⟨raised, by simp only [updateSeries, refused, bind, Except.bind]⟩
  | archiveSeries request =>
      obtain ⟨raised, refused⟩ := loadParent_teen (teen request.memberId rfl)
      exact commit_refused ⟨raised, by simp only [archiveSeries, refused, bind, Except.bind]⟩
  | manualAdjust request =>
      obtain ⟨raised, refused⟩ := loadParent_teen (teen request.memberId rfl)
      exact commit_refused ⟨raised, by simp only [manualAdjust, refused, bind, Except.bind]⟩
  | resolveClaim request =>
      obtain ⟨raised, refused⟩ := loadParent_teen (teen request.memberId rfl)
      exact commit_refused ⟨raised, by simp only [resolveStoredClaim, refused, bind, Except.bind]⟩
  | updateHousehold request =>
      obtain ⟨raised, refused⟩ := loadParent_teen (teen request.memberId rfl)
      exact commit_refused ⟨raised, by simp only [updateHousehold, refused, bind, Except.bind]⟩
  | createTeenProfile request =>
      obtain ⟨raised, refused⟩ := loadParent_teen (teen request.memberId rfl)
      exact commit_refused ⟨raised, by simp only [createTeenProfile, refused, bind, Except.bind]⟩
  | removeMember request =>
      obtain ⟨raised, refused⟩ := loadParent_teen (teen request.memberId rfl)
      exact commit_refused ⟨raised, by simp only [removeMember, refused, bind, Except.bind]⟩

theorem serverStep_teen (pytz : String → Option TzInfo)
    (verifyPassword : String → String → Bool) {server : ServerState} {event : ServerEvent}
    (byTeen : ByTeen server event) :
    TeenEffect server.world.db event
      (serverStep pytz verifyPassword server event).world.db := by
  obtain ⟨isRequest, teen⟩ := byTeen
  cases serverStep_effect pytz verifyPassword server event with
  | auth effect => exact .auth effect
  | @api event _ =>
      refine apiStep_teen ?_ fun memberId caller member found => teen member ?_
      · rintro clock householdId rfl
        cases isRequest
      · have named : ServerEvent.caller (.api event) = some memberId := caller
        simp [authenticated?, named, found, Except.toOption]

/-! ## What it leaves -/

section Leaves

variable {start db next : Database}

theorem Undecided.of_same {taskId : Uuid} (same : next.instances = db.instances) :
    Undecided db next taskId := by
  have status : statusOf next taskId = statusOf db taskId := by
    simp only [statusOf, same]
  constructor <;> rw [status] <;> exact id

/-- A call on an instance that is pending or overdue, and that is no parent's. -/
theorem Undecided.of_call {task result : TaskInstance} {ledger : Ledger}
    (stored : task ∈ db.instances.rows) (sameId : result.id = task.id)
    (actionable : Actionable task.status)
    (left : result.status ≠ .excused ∧ result.status ≠ .cancelled) (taskId : Uuid) :
    Undecided db (storeCall db result ledger) taskId := by
  have found := db.instances.find?_self stored
  by_cases hit : task.id = taskId
  · have before : statusOf db taskId = some task.status := by
      rw [statusOf, ← hit, found]
      rfl
    have after : statusOf (storeCall db result ledger) taskId = some result.status := by
      rw [statusOf, ← hit, storeCall, Table.find?_save_same found sameId]
      rfl
    constructor
    · rw [after]
      exact fun excused => absurd (Option.some.inj excused) left.1
    · rw [after]
      exact fun cancelled => absurd (Option.some.inj cancelled) left.2
    · rw [before]
      exact fun waiting => absurd (Option.some.inj waiting) (actionable.ne (by decide))
    · rw [before]
      exact fun waiting => absurd (Option.some.inj waiting) (actionable.ne (by decide))
  · have status : statusOf (storeCall db result ledger) taskId =
        statusOf db taskId := by
      rw [statusOf, storeCall, Table.find?_save_other (by rw [sameId]; exact hit)]
      rfl
    constructor <;> rw [status] <;> exact id

theorem Undecided.trans_same {middle : Database} {taskId : Uuid}
    (undecided : Undecided db middle taskId) (same : next.instances = middle.instances) :
    Undecided db next taskId := by
  have status : statusOf next taskId = statusOf middle taskId := by
    simp only [statusOf, same]
  constructor <;> rw [status]
  · exact undecided.excused
  · exact undecided.cancelled
  · exact undecided.inReview
  · exact undecided.submitted

/-- Since the start, only statuses changed, and no window was opened. -/
structure TeenSince (start db : Database) : Prop where
  definitions : db.definitions = start.definitions
  tasks : ∀ task ∈ db.instances.rows, ∃ old ∈ start.instances.rows, SameTask old task
  windows : ∀ seriesInstance ∈ db.seriesInstances.rows, seriesInstance.status = .active →
    seriesInstance ∈ start.seriesInstances.rows

theorem TeenSince.refl (start : Database) : TeenSince start start :=
  ⟨rfl, fun task stored => ⟨task, stored, .refl task⟩, fun _ stored _ => stored⟩

theorem TeenSince.called (since : TeenSince start db) {task result : TaskInstance}
    {ledger : Ledger} (stored : task ∈ db.instances.rows) (same : SameTask task result) :
    TeenSince start (storeCall db result ledger) := by
  refine ⟨since.definitions, fun changed member => ?_, since.windows⟩
  rcases Table.mem_save.mp member with ⟨rfl, _⟩ | ⟨old, _⟩
  · obtain ⟨first, firstStored, frozen⟩ := since.tasks task stored
    exact ⟨first, firstStored, frozen.trans same⟩
  · exact since.tasks changed old

theorem TeenSince.checked (since : TeenSince start db) {clock : Clock}
    {completed : TaskInstance} (check : WindowCheck clock completed db next) :
    TeenSince start next := by
  cases check with
  | unlinked | gone => exact since
  | evaluated linked found evaluation =>
      cases evaluation with
      | closed | outstanding => exact since
      | paid =>
          refine ⟨since.definitions, since.tasks, fun window member active => ?_⟩
          rcases Table.mem_save.mp member with ⟨rfl, _⟩ | ⟨old, _⟩
          · cases active
          · exact since.windows window old active

theorem TeenEffect.since {event : ServerEvent} (effect : TeenEffect db event next)
    (since : TeenSince start db) : TeenSince start next := by
  cases effect with
  | auth effect =>
      rw [effect.rest]
      exact ⟨since.definitions, since.tasks, since.windows⟩
  | completed acts caller own effect check =>
      exact (since.called acts.taskStored effect.sameTask).checked check
  | excused acts effect => exact since.called acts.taskStored effect.sameTask
  | claimed => exact ⟨since.definitions, since.tasks, since.windows⟩

theorem completion_entries {clock : Clock} {household : Household}
    {definition : TaskDefinition} {teen : Member} {task result : TaskInstance}
    {note : Option String} {ledger : Ledger} (since : TeenSince start db)
    (acts : ActsOn db teen household definition task) (own : task.assigneeId = teen.id)
    (effect : CallEffect clock household definition teen task db.ledger (.complete note)
      result ledger) :
    ∃ created, ledger.entries = db.ledger.entries ++ created ∧
      ∀ entry ∈ created, TaskEntry start teen.id entry := by
  cases effect with
  | sentToReview => exact ⟨[], (List.append_nil _).symm, by simp⟩
  | completed actionable auto paid =>
      refine ⟨_, (record_ok paid).1, fun entry member => ?_⟩
      rw [List.mem_singleton] at member
      subst member
      obtain ⟨first, firstStored, frozen⟩ := since.tasks task acts.taskStored
      refine ⟨rfl, own, first, firstStored, ?_, ?_, ?_, definition, ?_, auto⟩
      · exact congrArg some frozen.id
      · exact frozen.assigneeId.symm.trans own
      · exact frozen.pointValue
      · rw [← frozen.definitionId, ← acts.definitionOfTask, ← since.definitions]
        exact db.definitions.find?_self acts.definitionStored

theorem check_entries {clock : Clock} {completed : TaskInstance}
    (since : TeenSince start db) (check : WindowCheck clock completed db next) :
    ∃ created, next.ledger.entries = db.ledger.entries ++ created ∧
      ∀ entry ∈ created, BonusEntry start entry := by
  cases check with
  | unlinked | gone => exact ⟨[], (List.append_nil _).symm, by simp⟩
  | evaluated linked found evaluation =>
      cases evaluation with
      | closed | outstanding => exact ⟨[], (List.append_nil _).symm, by simp⟩
      | paid active earned seriesFound recorded delta entryType noTask window =>
          refine ⟨_, (record_ok recorded).1, fun entry member => ?_⟩
          rw [List.mem_singleton] at member
          subst member
          exact ⟨entryType, _, since.windows _ (Table.mem_of_find? found) active, window,
            active⟩

theorem windowCheck_claims {clock : Clock} {completed : TaskInstance}
    (check : WindowCheck clock completed db next) : next.claims = db.claims := by
  cases check with
  | unlinked | gone => rfl
  | evaluated linked found evaluation => cases evaluation <;> rfl

section Calls

variable {clock : Clock} {household : Household} {definition : TaskDefinition}
variable {teen : Member} {task result : TaskInstance} {ledger posted : Ledger}

theorem excuse_waits {excuseText : String}
    (effect : CallEffect clock household definition teen task ledger
      (.submitExcuse excuseText) result posted) :
    posted = ledger ∧ result.status = .excusePending := by
  cases effect <;> exact ⟨rfl, rfl⟩

theorem completion_status {note : Option String}
    (effect : CallEffect clock household definition teen task ledger (.complete note)
      result posted) : result.status ≠ .excused ∧ result.status ≠ .cancelled := by
  cases effect <;> exact ⟨nofun, nofun⟩

end Calls

theorem TeenEffect.onlyEarns {event : ServerEvent} (effect : TeenEffect db event next)
    (since : TeenSince start db) : OnlyEarns start db event.caller next := by
  cases effect with
  | auth effect =>
      rw [effect.rest]
      exact ⟨⟨[], (List.append_nil _).symm, by simp⟩, fun _ => .of_same rfl,
        fun _ stored => stored, fun _ stored => Or.inl stored⟩
  | claimed =>
      refine ⟨⟨[], (List.append_nil _).symm, by simp⟩, fun _ => .of_same rfl,
        fun claim stored => List.mem_append_left _ stored, fun claim stored => ?_⟩
      rcases List.mem_append.mp stored with old | new
      · exact Or.inl old
      · rw [List.mem_singleton] at new
        rw [new]
        exact Or.inr rfl
  | excused acts effect =>
      obtain ⟨unposted, waiting⟩ := excuse_waits effect
      rw [unposted]
      refine ⟨⟨[], (List.append_nil _).symm, by simp⟩, fun taskId => ?_,
        fun _ stored => stored, fun _ stored => Or.inl stored⟩
      refine .of_call acts.taskStored effect.sameTask.id effect.accepts ?_ taskId
      rw [waiting]
      decide
  | completed acts caller own effect check =>
      obtain ⟨taskEntries, posted, earned⟩ := completion_entries since acts own effect
      obtain ⟨bonusEntries, paid, bonus⟩ :=
        check_entries (since.called acts.taskStored effect.sameTask) check
      have sameClaims := windowCheck_claims check
      refine ⟨⟨taskEntries ++ bonusEntries, ?_, fun entry member => ?_⟩, fun taskId => ?_,
        ?_, ?_⟩
      · rw [paid, storeCall, posted, List.append_assoc]
      · rcases List.mem_append.mp member with ofTask | ofWindow
        · exact Or.inl ⟨_, congrArg some caller.symm, earned entry ofTask⟩
        · exact Or.inr (bonus entry ofWindow)
      · exact Undecided.trans_same (.of_call acts.taskStored effect.sameTask.id
          effect.accepts (completion_status effect) taskId) (windowCheck_frame check).1
      · rw [sameClaims]
        exact fun _ stored => stored
      · rw [sameClaims]
        exact fun _ stored => Or.inl stored

end Leaves

/-! ## Runs of requests -/

section Runs

variable (pytz : String → Option TzInfo) (verifyPassword : String → String → Bool)

/-- Of entries that would clash, a run creates one at most. -/
theorem created_le_one {ledger grown : Ledger} {created : List LedgerEntry}
    (appended : grown.entries = ledger.entries ++ created) {chosen : LedgerEntry → Bool}
    (clash : ∀ first second, chosen first → chosen second → first.Clashes second) :
    created.countP chosen ≤ 1 := by
  have atMost := grown.countP_le_one clash
  rw [appended, List.countP_append] at atMost
  exact le_trans (Nat.le_add_left _ _) atMost

/-- Requests no parent makes create entries for the callers' own tasks, at most one for
each, and for windows that were active, at most one for each; no decision of a parent
is taken and no claim is resolved. -/
theorem teen_cannot_mint {server : ServerState} {requests : List ServerEvent}
    (byTeens : EachMeets (serverStep pytz verifyPassword) ByTeen server requests) :
    EachMeets (serverStep pytz verifyPassword)
        (fun current request => OnlyEarns server.world.db current.world.db request.caller
          (serverStep pytz verifyPassword current request).world.db) server requests ∧
      ∀ created, (runFrom (serverStep pytz verifyPassword) server
          requests).world.db.ledger.entries = server.world.db.ledger.entries ++ created →
        (∀ taskId, created.countP (fun entry => entry.entryType = .taskCompleted ∧
          entry.taskInstanceId = some taskId) ≤ 1) ∧
        ∀ windowId, created.countP (fun entry => entry.entryType = .seriesBonus ∧
          entry.seriesInstanceId = some windowId) ≤ 1 := by
  constructor
  · refine guarded_eachMeets
      (fun current : ServerState => TeenSince server.world.db current.world.db)
      (fun current request since byTeen => ?_) (fun current request since byTeen => ?_)
      (.refl _) byTeens
    · exact (serverStep_teen pytz verifyPassword byTeen).since since
    · exact (serverStep_teen pytz verifyPassword byTeen).onlyEarns since
  · intro created grown
    refine ⟨fun taskId => ?_, fun windowId => ?_⟩
    · refine created_le_one grown fun first second firstHit secondHit => ?_
      simp only [decide_eq_true_eq] at firstHit secondHit
      exact ⟨firstHit.1.trans secondHit.1.symm, Or.inl
        ⟨Option.isSome_iff_exists.mpr ⟨_, firstHit.2⟩, firstHit.2.trans secondHit.2.symm⟩⟩
    · refine created_le_one grown fun first second firstHit secondHit => ?_
      simp only [decide_eq_true_eq] at firstHit secondHit
      exact ⟨firstHit.1.trans secondHit.1.symm, Or.inr
        ⟨Option.isSome_iff_exists.mpr ⟨_, firstHit.2⟩, firstHit.2.trans secondHit.2.symm⟩⟩

end Runs

/-- A teen with a window of two tasks, the second of which needs a review. -/
def teenServer : ServerState := ⟨⟨sampleWindow .individualPlusBonus true, []⟩, {}⟩

theorem cinema_points : (1 : Int) ≤ 5 := by decide

theorem cinema_length : LengthBetween 1 500 "Cinema" := by decide

/-- The teen completes both, tries to approve the second and claims a reward. -/
def teenRequests : List ServerEvent :=
  [.api (.completeTask ⟨⟨1, 1⟩, 2, 1, "a"⟩ none),
    .api (.completeTask ⟨⟨2, 2⟩, 2, 2, "b"⟩ none),
    .api (.reviewTask ⟨⟨3, 3⟩, 2, 2, "c"⟩ true none),
    .api (.submitClaim ⟨2, ⟨5, "Cinema", cinema_points, cinema_length⟩⟩)]

theorem teen_cannot_mint_review :
    EachMeets (serverStep (fun _ => none) fun _ _ => false)
        (fun current request => OnlyEarns teenServer.world.db current.world.db request.caller
          (serverStep (fun _ => none) (fun _ _ => false) current request).world.db)
        teenServer teenRequests ∧
      (runFrom (serverStep (fun _ => none) fun _ _ => false) teenServer
        teenRequests).world.db.ledger.entries.length = 1 :=
  ⟨(@teen_cannot_mint (fun _ => none) (fun _ _ => false) teenServer teenRequests
    (by decide +kernel)).1, by decide +kernel⟩

end KidsChores.Properties
