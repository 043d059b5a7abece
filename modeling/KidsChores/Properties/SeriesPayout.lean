import KidsChores.Library.Runs
import KidsChores.Properties.SeriesWindow

/-!
# What a series window pays in all

Runs of `complete_task`.  The window's payout is decided here, and the points of
its tasks in the state machine, which does not know the payout mode: under
`all_or_nothing` every task is paid twice.
-/

set_option autoImplicit false

namespace KidsChores.Properties

open KidsChores.Models
open KidsChores.Library
open KidsChores.Library.Runs
open KidsChores.Routers
open KidsChores.Routers.Tasks
open KidsChores.Services.Ledger
open KidsChores.Services.SeriesCompletion
open KidsChores.Services.StateMachine
open KidsChores.Session

structure CompleteRequest where
  request : TaskRequest
  note : Option String := none
  deriving DecidableEq, Repr

def serveComplete (world : World) (event : CompleteRequest) : World :=
  (completeTask event.request event.note world).1

/-! ## Sums over the ledger -/

section Sums

variable (entries : List LedgerEntry)

def sumOver (chosen : LedgerEntry → Prop) [DecidablePred chosen] : Int :=
  ((entries.filter chosen).map LedgerEntry.delta).sum

theorem sumOver_cons (entry : LedgerEntry) (chosen : LedgerEntry → Prop)
    [DecidablePred chosen] :
    sumOver (entry :: entries) chosen =
      (if chosen entry then entry.delta else 0) + sumOver entries chosen := by
  by_cases hit : chosen entry
  · simp [sumOver, hit]
  · simp [sumOver, hit]

theorem sumOver_or (first second : LedgerEntry → Prop) [DecidablePred first]
    [DecidablePred second]
    (apart : ∀ entry ∈ entries, first entry → ¬ second entry) :
    sumOver entries (fun entry => first entry ∨ second entry) =
      sumOver entries first + sumOver entries second := by
  induction entries with
  | nil => rfl
  | cons entry rest ih =>
      have tail := ih fun later member =>
        apart later (List.mem_cons_of_mem entry member)
      have head := apart entry List.mem_cons_self
      simp only [sumOver_cons, tail]
      by_cases hitFirst : first entry
      · simp only [hitFirst, head hitFirst, true_or, if_true, if_false]
        omega
      · simp only [hitFirst, false_or, if_false]
        omega

theorem sumOver_none (chosen : LedgerEntry → Prop) [DecidablePred chosen]
    (unchosen : ∀ entry ∈ entries, ¬ chosen entry) : sumOver entries chosen = 0 := by
  have empty : entries.filter chosen = [] := by
    simpa [List.filter_eq_nil_iff] using unchosen
  simp [sumOver, empty]

/-- The entries of several instances, instance by instance. -/
theorem sumOver_tasks {tasks : List TaskInstance}
    (distinct : (tasks.map TaskInstance.id).Nodup) :
    sumOver entries (fun entry =>
        ∃ task ∈ tasks, entry.taskInstanceId = some task.id) =
      (tasks.map fun task =>
        sumOver entries fun entry => entry.taskInstanceId = some task.id).sum := by
  induction tasks with
  | nil => exact sumOver_none entries _ (by simp)
  | cons task rest ih =>
      obtain ⟨absent, restDistinct⟩ := List.nodup_cons.mp distinct
      rw [List.map_cons, List.sum_cons, ← ih restDistinct, ← sumOver_or]
      · simp only [List.mem_cons, exists_eq_or_imp]
      · rintro entry _ own ⟨other, member, reference⟩
        rw [own] at reference
        have same : task.id = other.id := Option.some.inj reference
        exact absent (List.mem_map.mpr ⟨other, member, same.symm⟩)

end Sums

/-! ## The payout of a window -/

/-- The points of every entry that references the window or one of its complete
instances. -/
def windowTotal (windowId : Uuid) (db : Database) : Int :=
  sumOver db.ledger.entries fun entry => entry.seriesInstanceId = some windowId ∨
    ∃ task ∈ completedInstances (linkedInstances db windowId),
      entry.taskInstanceId = some task.id

/-- A complete window has paid its tasks and the bonus, in either mode; under
`all_or_nothing` nothing was paid before. -/
def PayoutRight (windowId : Uuid) (db : Database) : Prop :=
  ∀ seriesInstance ∈ db.seriesInstances.find? windowId,
    ∀ series ∈ db.series.find? seriesInstance.seriesId,
      (seriesInstance.status = .complete →
        windowTotal windowId db =
          ((completedInstances (linkedInstances db windowId)).map
            TaskInstance.pointValue).sum + series.bonusPoints) ∧
      (series.payoutMode = .allOrNothing → seriesInstance.status = .active →
        windowTotal windowId db = 0)

instance (windowId : Uuid) : DecidablePred (PayoutRight windowId) := fun db => by
  unfold PayoutRight
  infer_instance

/-! ## The payout mode of a window -/

def windowMode? (db : Database) (windowId : Uuid) : Option SeriesPayoutMode := do
  let seriesInstance ← db.seriesInstances.find? windowId
  let series ← db.series.find? seriesInstance.seriesId
  return series.payoutMode

/-- The request completes an instance of the window without a review. -/
def CompletesLinked (windowId : Uuid) (world : World) (event : CompleteRequest) :
    Prop :=
  match loadForRequest event.request anyMember
      (ownTask "You can only complete your own tasks.") world.db with
  | .error _ => False
  | .ok (member, _, definition, task) =>
      world.cache.get event.request.clock.now member.id
          event.request.idempotencyKey = none ∧
        task.seriesInstanceId = some windowId ∧ Actionable task.status ∧
        definition.requiresReview = false

/-- A request that completes a task directly belongs to a window whose tasks pay
on their own. -/
def PaysOnce (windowId : Uuid) (world : World) (event : CompleteRequest) : Prop :=
  windowMode? world.db windowId = some .individualPlusBonus ∨
    ¬ CompletesLinked windowId world event

instance (windowId : Uuid) (world : World) (event : CompleteRequest) :
    Decidable (PaysOnce windowId world event) := by
  unfold PaysOnce CompletesLinked
  split <;> infer_instance

/-! ## One request -/

theorem windowCheck_frame {clock : Clock} {completed : TaskInstance}
    {db next : Database} (check : WindowCheck clock completed db next) :
    next.instances = db.instances ∧
      (∀ taskId, postings next.ledger taskId = postings db.ledger taskId) ∧
      ∀ windowId, windowMode? next windowId = windowMode? db windowId := by
  cases check with
  | unlinked | gone => exact ⟨rfl, fun _ => rfl, fun _ => rfl⟩
  | evaluated linked found evaluation =>
      rename_i otherId seriesInstance paid
      cases evaluation with
      | closed | outstanding => exact ⟨rfl, fun _ => rfl, fun _ => rfl⟩
      | paid active earned seriesFound recorded delta entryType noTask window =>
          refine ⟨rfl, fun taskId => ?_, fun windowId => ?_⟩
          · exact postings_record_other recorded (by rw [noTask]; simp)
          · have own : seriesInstance.id = otherId := Table.key_of_find? found
            simp only [windowMode?]
            by_cases same : otherId = windowId
            · subst same
              have ownSaved : SeriesInstance.id { seriesInstance with
                  status := .complete
                  completedAt := some clock.now } = otherId := own
              rw [Table.find?_save_same found ownSaved, found]
              rfl
            · rw [Table.find?_save_other (by rw [own]; exact same)]

/-- The accounts of the window's tasks fit their statuses, and under
`all_or_nothing` no task is complete. -/
structure PayoutInvariant (windowId : Uuid) (db : Database) : Prop where
  state : WindowState windowId db
  accounts : ∀ task ∈ linkedInstances db windowId, ∃ approved,
    Booked approved task.status task.pointValue (postings db.ledger task.id)
  unpaid : windowMode? db windowId ≠ some .individualPlusBonus →
    ∀ task ∈ linkedInstances db windowId, task.status ≠ .complete

theorem accounts_completed {windowId : Uuid} {clock : Clock} {household : Household}
    {definition : TaskDefinition} {member : Member} {task result : TaskInstance}
    {note : Option String} {db : Database} {ledger : Ledger}
    (accounts : ∀ task ∈ linkedInstances db windowId, ∃ approved,
      Booked approved task.status task.pointValue (postings db.ledger task.id))
    (stored : db.instances.find? task.id = some task)
    (effect : CallEffect clock household definition member task db.ledger
      (.complete note) result ledger) :
    ∀ changed ∈ linkedInstances (storeCall db result ledger) windowId, ∃ approved,
      Booked approved changed.status changed.pointValue
        (postings ledger changed.id) := by
  intro changed linked
  rcases of_mem_linkedInstances_storeCall stored effect.sameTask linked with
    ⟨rfl, taskMember⟩ | ⟨oldMember, other⟩
  · obtain ⟨approved, booked⟩ := accounts task taskMember
    have notExcused : changed.status ≠ .excused := by
      cases effect <;> simp
    have recorded : changed.status = .excused →
        approved = some household.excusedPayoutPolicy :=
      fun excused => absurd excused notExcused
    refine ⟨approved, ?_⟩
    rw [effect.sameTask.id, effect.sameTask.pointValue]
    exact booked_call effect effect.accepts booked recorded
  · obtain ⟨approved, booked⟩ := accounts changed oldMember
    refine ⟨approved, ?_⟩
    rw [postings_call_other effect other]
    exact booked

theorem serveComplete_keeps {windowId : Uuid} (world : World)
    (event : CompleteRequest) (invariant : PayoutInvariant windowId world.db)
    (paysOnce : PaysOnce windowId world event) :
    PayoutInvariant windowId (serveComplete world event).db := by
  rcases completeTask_db event.request event.note world with
    same | ⟨member, household, definition, task, result, ledger, loaded, fresh, effect,
      check⟩
  · rw [serveComplete, same]
    exact invariant
  · have stored := (loadForRequest_ok loaded).stored
    obtain ⟨sameInstances, samePostings, sameMode⟩ := windowCheck_frame check
    have instances : linkedInstances (serveComplete world event).db windowId =
        linkedInstances (storeCall world.db result ledger) windowId := by
      simp only [linkedInstances, serveComplete, sameInstances]
    refine ⟨invariant.state.completed stored effect check, ?_, ?_⟩
    · intro changed linked
      rw [instances] at linked
      rw [serveComplete, samePostings]
      exact accounts_completed invariant.accounts stored effect changed linked
    · intro lumpSum changed linked
      rw [serveComplete, sameMode] at lumpSum
      rw [instances] at linked
      rcases of_mem_linkedInstances_storeCall stored effect.sameTask linked with
        ⟨rfl, taskMember⟩ | ⟨oldMember, _⟩
      · have notDirect := paysOnce.resolve_left lumpSum
        simp only [CompletesLinked, loaded] at notDirect
        cases effect with
        | completed actionable auto paid =>
            exact absurd ⟨fresh, (mem_linkedInstances.mp taskMember).2, actionable, auto⟩
              notDirect
        | sentToReview => simp
      · exact invariant.unpaid lumpSum changed oldMember

/-! ## The total of a window -/

theorem sumOver_task (ledger : Ledger) (taskId : Uuid) :
    sumOver ledger.entries (fun entry => entry.taskInstanceId = some taskId) =
      total (postings ledger taskId) := by
  simp [sumOver, total, postings, Function.comp_def]

theorem sumOver_window (ledger : Ledger) (windowId : Uuid) :
    sumOver ledger.entries (fun entry => entry.seriesInstanceId = some windowId) =
      ((windowPostings ledger windowId).map fun posted => posted.2.2).sum := by
  simp [sumOver, windowPostings, Function.comp_def]

theorem windowTotal_eq {windowId : Uuid} {db : Database}
    (state : WindowState windowId db) :
    windowTotal windowId db =
      ((windowPostings db.ledger windowId).map fun posted => posted.2.2).sum +
        ((completedInstances (linkedInstances db windowId)).map fun task =>
          total (postings db.ledger task.id)).sum := by
  have taskless : ∀ posted ∈ windowPostings db.ledger windowId,
      posted.2.1 = none := by
    cases state with
    | outstanding found active notEarned unpaid => simp [unpaid]
    | paid found complete earned seriesFound once => simp [once]
  have apart : ∀ entry ∈ db.ledger.entries, entry.seriesInstanceId = some windowId →
      ¬ ∃ task ∈ completedInstances (linkedInstances db windowId),
        entry.taskInstanceId = some task.id := by
    rintro entry member references ⟨task, _, own⟩
    have none_ : entry.taskInstanceId = none := taskless
      (entry.entryType, entry.taskInstanceId, entry.delta)
      (List.mem_map.mpr ⟨entry, List.mem_filter.mpr ⟨member, by simp [references]⟩, rfl⟩)
    rw [own] at none_
    cases none_
  have distinct : ((completedInstances (linkedInstances db windowId)).map
      TaskInstance.id).Nodup := by
    refine List.Nodup.sublist (List.Sublist.map _ ?_) db.instances.keysNodup
    exact List.filter_sublist.trans List.filter_sublist
  rw [windowTotal, sumOver_or _ _ _ apart, sumOver_tasks _ distinct, sumOver_window]
  simp only [sumOver_task]

section Right

variable {windowId : Uuid} {db : Database}

theorem windowMode?_found {seriesInstance : SeriesInstance} {series : Series}
    (found : db.seriesInstances.find? windowId = some seriesInstance)
    (seriesFound : db.series.find? seriesInstance.seriesId = some series) :
    windowMode? db windowId = some series.payoutMode := by
  simp only [windowMode?, found, seriesFound, Option.bind_eq_bind, Option.bind_some]
  rfl

theorem PayoutInvariant.earnings (invariant : PayoutInvariant windowId db) :
    ((completedInstances (linkedInstances db windowId)).map fun task =>
        total (postings db.ledger task.id)) =
      (completedInstances (linkedInstances db windowId)).map
        TaskInstance.pointValue := by
  apply List.map_congr_left
  intro task member
  obtain ⟨linked, complete⟩ := List.mem_filter.mp member
  obtain ⟨approved, booked⟩ := invariant.accounts task linked
  exact booked.total_eq.1 (of_decide_eq_true complete)

theorem PayoutInvariant.total_complete (invariant : PayoutInvariant windowId db)
    {seriesInstance : SeriesInstance} {series : Series}
    (found : db.seriesInstances.find? windowId = some seriesInstance)
    (seriesFound : db.series.find? seriesInstance.seriesId = some series)
    (complete : seriesInstance.status = .complete) :
    windowTotal windowId db =
      ((completedInstances (linkedInstances db windowId)).map
        TaskInstance.pointValue).sum + series.bonusPoints := by
  rw [windowTotal_eq invariant.state, invariant.earnings]
  cases invariant.state with
  | outstanding storedFound active =>
      rw [found] at storedFound
      cases storedFound
      rw [active] at complete
      cases complete
  | paid storedFound _ earned storedSeries once =>
      rw [found] at storedFound
      cases storedFound
      rw [seriesFound] at storedSeries
      cases storedSeries
      have individual : series.payoutMode = .individualPlusBonus := by
        by_contra lumpSum
        obtain ⟨task, member, status⟩ := earned.1
        refine invariant.unpaid ?_ task member status
        rw [windowMode?_found found seriesFound]
        exact fun same => lumpSum (Option.some.inj same)
      rw [once]
      simp only [payout, individual, List.map_cons, List.map_nil, List.sum_cons,
        List.sum_nil]
      omega

theorem PayoutInvariant.total_active (invariant : PayoutInvariant windowId db)
    {seriesInstance : SeriesInstance}
    (found : db.seriesInstances.find? windowId = some seriesInstance)
    (active : seriesInstance.status = .active)
    (lumpSum : windowMode? db windowId = some .allOrNothing) :
    windowTotal windowId db = 0 := by
  have noneComplete : completedInstances (linkedInstances db windowId) = [] := by
    apply List.filter_eq_nil_iff.mpr
    intro task member complete
    refine invariant.unpaid ?_ task member (of_decide_eq_true complete)
    rw [lumpSum]
    simp
  rw [windowTotal_eq invariant.state, noneComplete]
  cases invariant.state with
  | outstanding _ _ _ unpaid => simp [unpaid]
  | paid storedFound complete =>
      rw [found] at storedFound
      cases storedFound
      rw [active] at complete
      cases complete

theorem PayoutInvariant.right (invariant : PayoutInvariant windowId db) :
    PayoutRight windowId db := by
  intro seriesInstance found series seriesFound
  refine ⟨invariant.total_complete found seriesFound, fun lumpSum active => ?_⟩
  apply invariant.total_active found active
  rw [windowMode?_found found seriesFound, lumpSum]

end Right

/-! ## Every run -/

/-- A window whose tasks pay on their own, or whose tasks all wait for a review,
pays what is claimed of both modes. -/
theorem window_pays_once {windowId : Uuid} {world : World}
    (opened : OpenWindow windowId world.db)
    (noneComplete : ∀ task ∈ linkedInstances world.db windowId,
      task.status ≠ .complete)
    (accounts : ∀ task ∈ linkedInstances world.db windowId, ∃ approved,
      Booked approved task.status task.pointValue (postings world.db.ledger task.id))
    {events : List CompleteRequest}
    (meets : EachMeets serveComplete (PaysOnce windowId) world events) :
    Always serveComplete (fun world => PayoutRight windowId world.db) world
      events :=
  (guarded_always (fun world => PayoutInvariant windowId world.db)
    serveComplete_keeps ⟨opened.state, accounts, fun _ => noneComplete⟩
    meets).imp fun _ invariant => invariant.right

/-- Ten points for each task and the bonus of five. -/
theorem individual_window_pays_once :
    Always serveComplete (fun world => PayoutRight 1 world.db)
      ⟨sampleWindow .individualPlusBonus false, []⟩
      [⟨⟨⟨1, 1⟩, 2, 1, "a"⟩, none⟩, ⟨⟨⟨2, 2⟩, 2, 2, "b"⟩, none⟩] :=
  window_pays_once (sampleWindow_open .individualPlusBonus false)
    (fun task member => by rw [sampleWindow_pending member]; simp)
    (fun task member => by
      rw [sampleWindow_pending member]
      exact ⟨none, .unpaid, rfl, by simp, by simp⟩)
    (by decide +kernel)

/-- The same requests under `all_or_nothing` pay 45 points instead of 25, ten of
them before the window is complete. -/
theorem lump_sum_window_pays_twice :
    ¬ Always serveComplete (fun world => PayoutRight 1 world.db)
      ⟨sampleWindow .allOrNothing false, []⟩
      [⟨⟨⟨1, 1⟩, 2, 1, "a"⟩, none⟩, ⟨⟨⟨2, 2⟩, 2, 2, "b"⟩, none⟩] := by
  decide +kernel

end KidsChores.Properties
