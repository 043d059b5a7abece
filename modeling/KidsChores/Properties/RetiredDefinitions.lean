import KidsChores.Properties.ChoreCards

/-!
# Archived definitions

There is no way back from the archive.  Generation and sweeps look at live definitions
only: an archived one gets no instance any more, and those it has change by a request on
them or not at all.
-/

set_option autoImplicit false

namespace KidsChores.Properties

open KidsChores.Api
open KidsChores.Library
open KidsChores.Library.PyDatetime
open KidsChores.Library.Refinement
open KidsChores.Library.Runs
open KidsChores.Lifecycle
open KidsChores.Models
open KidsChores.Routers
open KidsChores.Server
open KidsChores.Services.StateMachine
open KidsChores.Session
open KidsChores.Workers.GenerateInstances

/-! ## What stays -/

def Retired (db : Database) (definitionId : Uuid) : Prop :=
  ∃ definition ∈ db.definitions.rows, definition.id = definitionId ∧
    definition.archivedAt.isSome = true

/-- How a row of an archived definition is left: as it was, or with the status a request
on it gives. -/
inductive RequestPath (task : TaskInstance) : TaskInstance → Prop where
  | untouched : RequestPath task task
  | called {clock : Clock} {household : Models.Household} {definition : TaskDefinition}
      {actor : Member} {ledger nextLedger : Ledger} {call : ServiceCall}
      {middle result : TaskInstance} (earlier : RequestPath task middle)
      (entitled : Entitled actor middle call)
      (effect : CallEffect clock household definition actor middle ledger call result
        nextLedger) : RequestPath task result

/-- Archived definitions stay so, and each of their instances was there before. -/
structure RetiredKept (db next : Database) : Prop where
  stays : ∀ definitionId, Retired db definitionId → Retired next definitionId
  instances : ∀ task ∈ next.instances.rows, Retired db task.definitionId →
    ∃ old ∈ db.instances.rows, RequestPath old task

section Paths

variable {first second third : TaskInstance}

theorem RequestPath.trans (early : RequestPath first second)
    (late : RequestPath second third) : RequestPath first third := by
  induction late with
  | untouched => exact early
  | called _ entitled effect ih => exact .called ih entitled effect

theorem RequestPath.sameTask (path : RequestPath first second) : SameTask first second := by
  induction path with
  | untouched => exact .refl first
  | called _ _ effect ih => exact ih.trans effect.sameTask

end Paths

/-! ## One write -/

section Writes

variable {db next : Database}

theorem Write.retired (write : Write db next) {definitionId : Uuid}
    (retired : Retired db definitionId) : Retired next definitionId := by
  obtain ⟨definition, stored, named, archived⟩ := retired
  have kept : next.definitions = db.definitions → Retired next definitionId := by
    intro same
    exact ⟨definition, same ▸ stored, named, archived⟩
  cases write with
  | definitionAdded => exact ⟨definition, List.mem_append_left _ stored, named, archived⟩
  | @definitionSaved saved edited savedStored same stillArchived =>
      by_cases hit : definition.id = edited.id
      · have one := db.definitions.row_unique stored savedStored (hit.trans same.id)
        rw [one] at archived
        exact ⟨edited, Table.mem_save.mpr (Or.inl ⟨rfl, definition, stored, hit⟩),
          hit.symm.trans named, stillArchived archived⟩
      · exact ⟨definition, Table.mem_save.mpr (Or.inr ⟨stored, hit⟩), named, archived⟩
  | seriesAdded =>
      refine ⟨_, Series.mem_afterSeries_definitions.mpr ⟨definition, stored, rfl⟩, ?_⟩
      split
      · exact ⟨named, archived⟩
      · exact ⟨named, archived⟩
  | familyFounded founded =>
      refine kept ?_
      rw [(foundFamily_rows founded).1]
  | called | generated | swept | adjusted | claimed | claimResolved | seriesSaved
  | householdSaved | teenAdded | memberSaved => exact kept rfl

theorem not_retired_of_live {definition : TaskDefinition}
    (stored : definition ∈ db.definitions.rows) (live : definition.archivedAt = none) :
    ¬ Retired db definition.id := by
  rintro ⟨other, otherStored, same, archived⟩
  rw [db.definitions.row_unique otherStored stored same, live] at archived
  cases archived

theorem sweepRow_retired {definitionIds : List Uuid} {hours : Int} {clock : JobClock}
    {task : TaskInstance} (passed : task.definitionId ∉ definitionIds) :
    sweepRow definitionIds hours clock task = task := by
  simp only [sweepRow, passed, and_false, if_false, false_and]

theorem write_instances (write : Write db next) :
    ∀ task ∈ next.instances.rows, Retired db task.definitionId →
      ∃ old ∈ db.instances.rows, RequestPath old task := by
  have unchanged : next.instances = db.instances →
      ∀ task ∈ next.instances.rows, Retired db task.definitionId →
        ∃ old ∈ db.instances.rows, RequestPath old task := by
    intro same task stored _
    exact ⟨task, same ▸ stored, .untouched⟩
  cases write with
  | @called clock actor household definition task result ledger call acts entitled effect =>
      intro row stored _
      rcases Table.mem_save.mp stored with ⟨rfl, _⟩ | ⟨old, _⟩
      · exact ⟨task, acts.taskStored, .called .untouched entitled effect⟩
      · exact ⟨row, old, .untouched⟩
  | generated stored live =>
      intro task member retired
      rcases List.mem_append.mp member with old | new
      · exact ⟨task, old, .untouched⟩
      · rw [List.mem_singleton.mp new] at retired
        exact absurd retired (not_retired_of_live stored live)
  | @swept definitionIds household clock found live =>
      intro task member retired
      obtain ⟨old, oldMember, rfl⟩ := mem_sweeps.mp member
      have sameDefinition :=
        (sweepRow_effect definitionIds household.gracePeriodHours clock old).sameTask.definitionId
      rw [sameDefinition] at retired
      have passed : old.definitionId ∉ definitionIds := by
        intro listed
        obtain ⟨definition, stored, named, unarchived, _⟩ := live _ listed
        rw [← named] at retired
        exact not_retired_of_live stored unarchived retired
      rw [sweepRow_retired passed]
      exact ⟨old, oldMember, .untouched⟩
  | familyFounded founded =>
      refine unchanged ?_
      rw [(foundFamily_rows founded).1]
  | adjusted | claimed | claimResolved | definitionAdded | definitionSaved | seriesAdded
  | seriesSaved | householdSaved | teenAdded | memberSaved => exact unchanged rfl

theorem RetiredKept.step {later : Database} (kept : RetiredKept db next)
    (write : Write next later) : RetiredKept db later := by
  constructor
  · exact fun definitionId retired => write.retired (kept.stays definitionId retired)
  · intro task stored retired
    obtain ⟨middle, middleStored, late⟩ :=
      write_instances write task stored (kept.stays _ retired)
    rw [late.sameTask.definitionId] at retired
    obtain ⟨old, oldStored, early⟩ := kept.instances middle middleStored retired
    exact ⟨old, oldStored, early.trans late⟩

end Writes

/-! ## Every run -/

/-- Once a definition is archived it stays so, it gets no new instance, and no nightly run
touches those it has. -/
theorem retired_kept (pytz : String → Option TzInfo)
    (verifyPassword : String → String → Bool) (before after : List ServerEvent) :
    RetiredKept (served pytz verifyPassword before).world.db
      (served pytz verifyPassword (before ++ after)).world.db := by
  have settled : SettledRows (served pytz verifyPassword before).world.db :=
    (server_refines_writes pytz verifyPassword).invariant_run emptyServer_settled before
  have path := (server_refines_writes pytz verifyPassword).run settled after
  unfold served at path ⊢
  rw [runFrom_append]
  have start : ∀ db, RetiredKept db db := fun db =>
    ⟨fun _ retired => retired, fun task stored _ => ⟨task, stored, .untouched⟩⟩
  exact path_relates start (fun _ _ _ _ early write => early.step write)
    (fun _ _ _ _ => trivial) trivial path

end KidsChores.Properties
