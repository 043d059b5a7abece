import KidsChores.Lifecycle
import KidsChores.Properties.SeriesBonus
import KidsChores.Properties.SeriesPayout
import KidsChores.Server

/-!
# Expired windows

Runs of requests and nightly jobs across the end of a series window.  No code moves a
window out of `active` when it ends, and `evaluate` does not look at `window_end`, so
a window that expired with a task outstanding is still paid when that task is
completed late.
-/

set_option autoImplicit false

namespace KidsChores.Properties

open KidsChores.Api
open KidsChores.Library
open KidsChores.Library.PyDatetime
open KidsChores.Library.Runs
open KidsChores.Lifecycle
open KidsChores.Models
open KidsChores.Routers
open KidsChores.Routers.Tasks
open KidsChores.Routers.Wallet
open KidsChores.Server
open KidsChores.Services.Ledger
open KidsChores.Services.SeriesCompletion
open KidsChores.Services.StateMachine
open KidsChores.Session
open KidsChores.Workers.GenerateInstances

structure DatedEvent where
  time : Instant
  event : ServerEvent

def datedStep (pytz : String → Option TzInfo) (verifyPassword : String → String → Bool)
    (server : ServerState) (timed : DatedEvent) : ServerState :=
  serverStep pytz verifyPassword server timed.event

def beforeEnd (windowEnd : Instant) (run : List DatedEvent) : List DatedEvent :=
  run.takeWhile fun timed => timed.time < windowEnd

def sinceEnd (windowEnd : Instant) (run : List DatedEvent) : List DatedEvent :=
  run.dropWhile fun timed => timed.time < windowEnd

def AllDone (windowId : Uuid) (db : Database) : Prop :=
  ∀ task ∈ linkedInstances db windowId, task.status = .complete ∨ task.status = .excused

instance (windowId : Uuid) (db : Database) : Decidable (AllDone windowId db) :=
  inferInstanceAs (Decidable (∀ task ∈ linkedInstances db windowId, _))

/-- The window ends then, with a linked instance neither complete nor excused. -/
def ExpiresOpen (windowId : Uuid) (windowEnd : Instant) (db : Database) : Prop :=
  (db.seriesInstances.find? windowId).map SeriesInstance.windowEnd = some windowEnd ∧
    ∃ task ∈ linkedInstances db windowId,
      task.status ≠ .complete ∧ task.status ≠ .excused

instance (windowId : Uuid) (windowEnd : Instant) (db : Database) :
    Decidable (ExpiresOpen windowId windowEnd db) :=
  inferInstanceAs (Decidable (_ ∧ ∃ task ∈ linkedInstances db windowId, _))

/-- The request completes, without a review, the last linked instance a window that is
still active waits for. -/
def CompletesLast (windowId : Uuid) (server : ServerState) : ServerEvent → Prop
  | .api (.completeTask request note) =>
      CompletesLinked windowId server.world ⟨request, note⟩ ∧
        (server.world.db.seriesInstances.find? windowId).map SeriesInstance.status =
          some .active ∧
        ∀ other ∈ linkedInstances server.world.db windowId,
          other.id ≠ request.instanceId →
            other.status = .complete ∨ other.status = .excused
  | _ => False

instance (windowId : Uuid) (server : ServerState) (event : ServerEvent) :
    Decidable (CompletesLast windowId server event) := by
  unfold CompletesLast CompletesLinked
  split
  · split <;> infer_instance
  · infer_instance

theorem bonusEntries_congr {ledger next : Ledger} {windowId : Uuid}
    (same : windowPostings next windowId = windowPostings ledger windowId) :
    bonusEntries next windowId = bonusEntries ledger windowId := by
  rw [bonusEntries_eq, bonusEntries_eq, same]

/-! ## Done instances stay done -/

section Done

variable {pytz : String → Option TzInfo} {windowId : Uuid} {db next : Database}

theorem AllDone.congr (done : AllDone windowId db)
    (same : linkedInstances next windowId = linkedInstances db windowId) :
    AllDone windowId next := by
  unfold AllDone
  rw [same]
  exact done

theorem AllDone.called (done : AllDone windowId db) {clock : Clock} {actor : Member}
    {household : Household} {definition : TaskDefinition} {task result : TaskInstance}
    {ledger : Ledger} {call : ServiceCall}
    (acts : ActsOn db actor household definition task)
    (effect : CallEffect clock household definition actor task db.ledger call result
      ledger)
    (forward : ∀ reason, call ≠ .reverseCompletion reason) :
    AllDone windowId (storeCall db result ledger) := by
  intro changed linked
  have stored := db.instances.find?_self acts.taskStored
  rcases of_mem_linkedInstances_storeCall stored effect.sameTask linked with
    ⟨_, taskMember⟩ | ⟨oldMember, _⟩
  · obtain ⟨reason, reversal⟩ := closed_of_done (done task taskMember) effect.accepts
    exact absurd reversal (forward reason)
  · exact done changed oldMember

/-- A window is paid by the request that leaves it earned. -/
theorem windowCheck_window {clock : Clock} {completed : TaskInstance}
    (check : WindowCheck clock completed db next) (windowId : Uuid) :
    windowPostings next.ledger windowId = windowPostings db.ledger windowId ∨
      completed.seriesInstanceId = some windowId ∧
        Earned (linkedInstances db windowId) ∧
        (db.seriesInstances.find? windowId).map SeriesInstance.status = some .active := by
  cases check with
  | unlinked | gone => exact Or.inl rfl
  | evaluated linked found evaluation =>
      rename_i otherId seriesInstance paid
      have own : seriesInstance.id = otherId := Table.key_of_find? found
      cases evaluation with
      | closed | outstanding => exact Or.inl rfl
      | paid active earned seriesFound recorded delta entryType noTask window =>
          by_cases hit : otherId = windowId
          · subst hit
            rw [own] at earned
            exact Or.inr ⟨linked, earned, by rw [found, Option.map_some, active]⟩
          · refine Or.inl (windowPostings_record_other recorded ?_)
            rw [window, own]
            exact fun same => hit (Option.some.inj same)

theorem windowCheck_linked {clock : Clock} {completed : TaskInstance}
    (check : WindowCheck clock completed db next) :
    linkedInstances next windowId = linkedInstances db windowId := by
  unfold linkedInstances
  rw [(windowCheck_frame check).1]

theorem sweepEffect_done {definitionIds : List Uuid} {gracePeriodHours : Int}
    {clock : JobClock} {task swept : TaskInstance}
    (effect : SweepEffect definitionIds gracePeriodHours clock task swept)
    (done : task.status = .complete ∨ task.status = .excused) : swept = task := by
  cases effect with
  | unchanged => rfl
  | overdue pending =>
      rcases done with status | status <;> rw [pending] at status <;> cases status
  | missed open_ =>
      rcases done with status | status <;> rcases open_ with other | other <;>
        rw [status] at other <;> cases other

theorem apiEffect_allDone {event : ApiEvent} (effect : ApiEffect pytz db event next)
    (done : AllDone windowId db) : AllDone windowId next := by
  cases effect with
  | completed acts effect check =>
      exact (done.called acts effect (by simp)).congr (windowCheck_linked check)
  | called asked acts effect => exact done.called acts effect asked.forward
  | batched loaded ran =>
      exact batch_keeps (AllDone windowId)
        (fun decision acts effect before => before.called acts effect decision.forward)
        done loaded ran
  | definitionCreated created =>
      intro task linked
      obtain ⟨stored, inWindow⟩ := mem_linkedInstances.mp linked
      rcases created.mem_instances stored with old | ⟨due, _, _, _, rfl⟩
      · exact done task (mem_linkedInstances.mpr ⟨old, inWindow⟩)
      · cases inWindow
  | generated run =>
      intro task linked
      obtain ⟨stored, inWindow⟩ := mem_linkedInstances.mp linked
      rw [run.committed] at stored
      obtain ⟨old, oldStored, effect⟩ := of_mem_sweeps stored
      have oldLinked := effect.sameTask.seriesInstanceId.symm.trans inWindow
      rcases (upsertAll_rows run.upserts).2 old oldStored with
        kept | ⟨defn, targetDate, due, inserts⟩
      · have status := done old (mem_linkedInstances.mpr ⟨kept, oldLinked⟩)
        rw [sweepEffect_done effect status]
        exact status
      · rw [inserts.built] at oldLinked
        cases oldLinked
  | unchanged | definitionSaved | seriesCreated | seriesSaved | adjusted | claimed
  | claimResolved | settings | teenAdded | memberRemoved => exact done

theorem apiEffect_windowPostings {event : ApiEvent}
    (effect : ApiEffect pytz db event next)
    (other : ∀ request note, event ≠ .completeTask request note) :
    windowPostings next.ledger windowId = windowPostings db.ledger windowId := by
  cases effect with
  | completed => exact absurd rfl (other _ _)
  | called asked acts effect => exact windowPostings_call effect windowId
  | batched loaded ran =>
      exact batch_keeps
        (fun current => windowPostings current.ledger windowId =
          windowPostings db.ledger windowId)
        (fun decision acts effect same => (windowPostings_call effect windowId).trans same)
        rfl loaded ran
  | adjusted loaded found own recorded =>
      exact windowPostings_record_other recorded (Option.some_ne_none windowId).symm
  | claimResolved loaded found resolution =>
      obtain ⟨_, _, _, same | paid⟩ := resolveClaim_same resolution
      · rw [same]
      · exact windowPostings_record_other paid (Option.some_ne_none windowId).symm
  | definitionCreated created => rw [created.committed]
  | generated run => rw [run.committed]
  | unchanged | definitionSaved | seriesCreated | seriesSaved | claimed | settings
  | teenAdded | memberRemoved => rfl

end Done

/-! ## One event -/

section Steps

variable {pytz : String → Option TzInfo} {verifyPassword : String → String → Bool}
variable {windowId : Uuid}

theorem serverStep_allDone (server : ServerState) (event : ServerEvent)
    (done : AllDone windowId server.world.db) :
    AllDone windowId (serverStep pytz verifyPassword server event).world.db := by
  cases serverStep_effect pytz verifyPassword server event with
  | api effect => exact apiEffect_allDone effect done
  | auth effect =>
      rw [effect.rest]
      exact done

/-- The completion that leaves a window earned is the one it was waiting for. -/
theorem completesLast_of_earned {server : ServerState} {request : TaskRequest}
    {note : Option String} {member : Member} {household : Household}
    {definition : TaskDefinition} {task result : TaskInstance} {ledger : Ledger}
    (loaded : loadForRequest request anyMember
      (ownTask "You can only complete your own tasks.") server.world.db =
        .ok (member, household, definition, task))
    (fresh : server.world.cache.get request.clock.now member.id request.idempotencyKey =
      none)
    (effect : CallEffect request.clock household definition member task
      server.world.db.ledger (.complete note) result ledger)
    (linked : result.seriesInstanceId = some windowId)
    (earned : Earned (linkedInstances (storeCall server.world.db result ledger) windowId))
    (active : (server.world.db.seriesInstances.find? windowId).map SeriesInstance.status =
      some .active) :
    CompletesLast windowId server (.api (.completeTask request note)) := by
  have loads := loadForRequest_ok loaded
  have taskLinked := effect.sameTask.seriesInstanceId.symm.trans linked
  have own : task.id = request.instanceId :=
    Table.key_of_find? (findInstance?_ok loads.taskFound).1
  refine ⟨?_, active, fun other otherLinked different => ?_⟩
  · simp only [CompletesLinked, loaded]
    refine ⟨fresh, taskLinked, effect.accepts, ?_⟩
    have done := earned.2 result
      (mem_linkedInstances_stored loads.stored effect taskLinked)
    cases effect with
    | completed actionable auto paid => exact auto
    | sentToReview => rcases done with status | status <;> cases status
  · rw [linkedInstances_storeCall loads.stored effect.sameTask] at earned
    refine earned.2 other (List.mem_map.mpr ⟨other, otherLinked, if_neg ?_⟩)
    rw [effect.sameTask.id, own]
    exact different

theorem serverStep_window (server : ServerState) (event : ServerEvent) :
    windowPostings (serverStep pytz verifyPassword server event).world.db.ledger windowId =
        windowPostings server.world.db.ledger windowId ∨
      CompletesLast windowId server event ∧
        AllDone windowId (serverStep pytz verifyPassword server event).world.db := by
  cases serverStep_effect pytz verifyPassword server event with
  | auth effect =>
      left
      rw [effect.rest]
  | api effect =>
      rename_i event
      by_cases completes : ∃ request note, event = .completeTask request note
      · obtain ⟨request, note, rfl⟩ := completes
        simp only [serverStep, apiStep]
        rcases completeTask_db request note server.world with
          same | ⟨member, household, definition, task, result, ledger, loaded, fresh,
            effect, check⟩
        · rw [same]
          exact Or.inl rfl
        · have loads := loadForRequest_ok loaded
          have posted := windowPostings_call effect windowId
          rcases windowCheck_window check windowId with same | ⟨linked, earned, active⟩
          · exact Or.inl (same.trans posted)
          · refine Or.inr ⟨completesLast_of_earned loaded fresh effect linked earned active,
              ?_⟩
            exact AllDone.congr earned.2 (windowCheck_linked check)
      · refine Or.inl (apiEffect_windowPostings effect fun request note same => ?_)
        exact completes ⟨request, note, same⟩

end Steps

/-! ## Runs across the end of the window -/

section Runs

variable (pytz : String → Option TzInfo) (verifyPassword : String → String → Bool)

/-- A window that expires open stays unpaid as long as no request completes the last
instance it waits for. -/
theorem expired_window_unpaid {windowId : Uuid} {windowEnd : Instant}
    {server : ServerState} {run : List DatedEvent}
    (unpaid : bonusEntries server.world.db.ledger windowId = 0)
    (expires : ExpiresOpen windowId windowEnd
      (runFrom (datedStep pytz verifyPassword) server (beforeEnd windowEnd run)).world.db)
    (meets : EachMeets (datedStep pytz verifyPassword)
      (fun current timed => ¬ CompletesLast windowId current timed.event)
      (runFrom (datedStep pytz verifyPassword) server (beforeEnd windowEnd run))
      (sinceEnd windowEnd run)) :
    Always (datedStep pytz verifyPassword)
      (fun current => bonusEntries current.world.db.ledger windowId = 0) server run := by
  have split : beforeEnd windowEnd run ++ sinceEnd windowEnd run = run :=
    List.takeWhile_append_dropWhile
  have early : Always (datedStep pytz verifyPassword)
      (fun current => bonusEntries current.world.db.ledger windowId = 0) server
      (beforeEnd windowEnd run) := by
    refine always_unless_absorbed (fun current : ServerState =>
      AllDone windowId current.world.db) ?_ ?_ unpaid ?_
    · exact fun current timed done => serverStep_allDone current timed.event done
    · intro current timed before
      rcases serverStep_window current timed.event with same | ⟨_, done⟩
      · exact Or.inl ((bonusEntries_congr same).trans before)
      · exact Or.inr done
    · obtain ⟨_, task, linked, incomplete, unexcused⟩ := expires
      intro done
      exact (done task linked).elim incomplete unexcused
  rw [← split, always_append]
  refine ⟨early, guarded_always (fun current : ServerState =>
    bonusEntries current.world.db.ledger windowId = 0) ?_ early.at_end meets⟩
  intro current timed before notLast
  rcases serverStep_window current timed.event with same | ⟨last, _⟩
  · exact (bonusEntries_congr same).trans before
  · exact absurd last notLast

end Runs

/-- A window of two tasks, one of which is done in time. -/
def expiringServer : ServerState := ⟨⟨sampleWindow .individualPlusBonus false, []⟩, {}⟩

def inTime : DatedEvent := ⟨10, .api (.completeTask ⟨⟨10, 10⟩, 2, 1, "a"⟩ none)⟩

/-- The other one is excused after the window ended. -/
def excusedLate : List DatedEvent :=
  [inTime, ⟨1500, .api (.excuseTask ⟨⟨1500, 1500⟩, 2, 2, "b"⟩ "I was travelling")⟩,
    ⟨1600, .api (.reviewTask ⟨⟨1600, 1600⟩, 1, 2, "c"⟩ true none)⟩]

theorem expired_window_unpaid_excused :
    Always (datedStep (fun _ => none) fun _ _ => false)
      (fun current => bonusEntries current.world.db.ledger 1 = 0) expiringServer
      excusedLate :=
  @expired_window_unpaid (fun _ => none) (fun _ _ => false) 1 1000 expiringServer
    excusedLate (by decide +kernel) (by decide +kernel) (by decide +kernel)

/-- The other one is completed after the window ended. -/
def completedLate : List DatedEvent :=
  [inTime, ⟨1500, .api (.completeTask ⟨⟨1500, 1500⟩, 2, 2, "b"⟩ none)⟩]

theorem expired_window_paid :
    bonusEntries expiringServer.world.db.ledger 1 = 0 ∧
      ExpiresOpen 1 1000 (runFrom (datedStep (fun _ => none) fun _ _ => false)
        expiringServer (beforeEnd 1000 completedLate)).world.db ∧
      ¬ Always (datedStep (fun _ => none) fun _ _ => false)
        (fun current => bonusEntries current.world.db.ledger 1 = 0) expiringServer
        completedLate := by
  decide +kernel

end KidsChores.Properties
