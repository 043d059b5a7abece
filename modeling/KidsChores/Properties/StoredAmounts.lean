import KidsChores.Properties.LedgerProvenance

/-!
# Stored amounts

What the bodies are checked for holds of the rows for good, through edits, series and the
instances that are copied from definitions.  With what each entry rests on, that bounds the
entries of every type; only adjustments are free.
-/

set_option autoImplicit false

namespace KidsChores.Properties

open KidsChores.Library
open KidsChores.Library.Runs
open KidsChores.Lifecycle
open KidsChores.Models
open KidsChores.Routers.Definitions
open KidsChores.Routers.Wallet
open KidsChores.Server
open KidsChores.Services.Ledger
open KidsChores.Services.StateMachine
open KidsChores.Session
open KidsChores.Workers.GenerateInstances

structure RowsInRange (db : Database) : Prop where
  definitions : ∀ definition ∈ db.definitions.rows, DefinitionInRange definition
  instances : ∀ task ∈ db.instances.rows, Between 1 10000 task.pointValue
  series : ∀ series ∈ db.series.rows, SeriesInRange series
  households : ∀ household ∈ db.households.rows, HouseholdInRange household
  claims : ∀ claim ∈ db.claims.rows, ClaimInRange claim

/-- What an entry of each type is worth; a series pays nothing, and nothing is reversed. -/
def DeltaInRange (entry : LedgerEntry) : Prop :=
  match entry.entryType with
  | .taskCompleted => Between 1 10000 entry.delta
  | .excusedPartial => Between 0 5000 entry.delta
  | .claimFulfilled => entry.delta ≤ -1
  | .manualAdjustment => True
  | .seriesBonus | .reversal => False

section Writes

variable {db next : Database}

theorem of_saved {Row : Type} {key : Row → Uuid} {table : Table key} {edited row : Row}
    {property : Row → Prop} (all : ∀ row ∈ table.rows, property row) (held : property edited)
    (stored : row ∈ (table.save edited).rows) : property row := by
  rcases Table.mem_save.mp stored with ⟨rfl, _⟩ | ⟨old, _⟩
  · exact held
  · exact all row old

theorem of_appended {Row : Type} {rows : List Row} {row new : Row} {property : Row → Prop}
    (all : ∀ row ∈ rows, property row) (held : property new) (stored : row ∈ rows ++ [new]) :
    property row := by
  rcases List.mem_append.mp stored with old | last
  · exact all row old
  · rw [List.mem_singleton.mp last]
    exact held

theorem ClaimInRange.resolved {clock : Clock} {parent : Member} {body : ClaimResolveRequest}
    {claim resolved : Claim} {ledger nextLedger : Ledger} (inRange : ClaimInRange claim)
    (returned : resolveClaim clock parent body claim ledger = .ok (resolved, nextLedger)) :
    ClaimInRange resolved := by
  simp only [resolveClaim, bind, Except.bind, pure, Except.pure] at returned
  split at returned
  · cases paid : fulfilClaim ledger clock claim parent with
    | error raised =>
        rw [paid] at returned
        cases returned
    | ok posted =>
        rw [paid] at returned
        cases returned
        exact ⟨inRange.item, inRange.points⟩
  · cases returned
    exact ⟨inRange.item, inRange.points⟩

theorem founded_households {displayName subject : String} {provider : AuthProvider}
    {passwordHash : Option String} {response : Routers.Auth.TokenResponse}
    (founded : Routers.Auth.foundFamily db displayName provider subject passwordHash =
      .ok (response, next)) (inRange : ∀ household ∈ db.households.rows,
        HouseholdInRange household) :
    ∀ household ∈ next.households.rows, HouseholdInRange household := by
  unfold Routers.Auth.foundFamily at founded
  split at founded
  · cases founded
  · cases founded
    exact fun household => of_appended inRange (household_defaults _ _)

theorem RowsInRange.write (rows : RowsInRange db) (write : Write db next) :
    RowsInRange next := by
  cases write with
  | @called clock actor household definition task result ledger call acts _ effect =>
      refine { rows with instances := fun row => of_saved rows.instances ?_ }
      rw [effect.sameTask.pointValue]
      exact rows.instances task acts.taskStored
  | @generated definition due now stored =>
      have points := (rows.definitions definition stored).points
      exact { rows with instances := fun task => of_appended rows.instances points }
  | swept =>
      refine { rows with instances := fun task stored => ?_ }
      obtain ⟨old, oldStored, effect⟩ := of_mem_sweeps stored
      rw [effect.sameTask.pointValue]
      exact rows.instances old oldStored
  | claimed =>
      exact { rows with claims := fun claim => of_appended rows.claims (claim_inRange _ _ _) }
  | claimResolved _ stored _ resolution =>
      have resolved := (rows.claims _ stored).resolved resolution
      exact { rows with claims := fun claim => of_saved rows.claims resolved }
  | definitionAdded =>
      exact { rows with definitions := fun definition =>
                of_appended rows.definitions (created_inRange _ _ _ _) }
  | definitionSaved stored _ _ inRange =>
      have edited := inRange (rows.definitions _ stored)
      exact { rows with definitions := fun definition => of_saved rows.definitions edited }
  | seriesAdded =>
      refine ⟨fun definition stored => ?_, rows.instances,
        fun series => of_appended rows.series (seriesCreated_inRange _ _ _),
        rows.households, rows.claims⟩
      obtain ⟨old, oldStored, rfl⟩ := Routers.Series.mem_afterSeries_definitions.mp stored
      have held := rows.definitions old oldStored
      split
      · exact ⟨held.title, held.points, held.start, held.ends, held.due⟩
      · exact held
  | seriesSaved stored _ inRange =>
      have edited := inRange (rows.series _ stored)
      exact { rows with series := fun series => of_saved rows.series edited }
  | householdSaved stored _ inRange =>
      have edited := inRange (rows.households _ stored)
      exact { rows with households := fun household => of_saved rows.households edited }
  | familyFounded founded =>
      have households := founded_households founded rows.households
      rw [(foundFamily_rows founded).1]
      exact { rows with households := households }
  | adjusted | teenAdded | memberSaved => exact { rows with }

/-- An entry is worth what the row it is for allows. -/
theorem Authorized.deltaInRange {entry : LedgerEntry} (authorized : Authorized db entry)
    (rows : RowsInRange db) : DeltaInRange entry := by
  unfold DeltaInRange
  cases authorized with
  | completed _ _ pays _ entryType delta | excusedFull _ _ pays _ entryType delta =>
      rw [entryType, delta]
      exact rows.instances _ pays.stored
  | excusedPartial _ _ pays _ entryType delta =>
      obtain ⟨low, high⟩ := rows.instances _ pays.stored
      rw [entryType, delta]
      constructor
      · omega
      · omega
  | fulfilled _ _ stored _ _ _ entryType delta =>
      have points := (rows.claims _ stored).points
      rw [entryType, delta]
      dsimp only
      omega
  | adjusted _ _ _ entryType =>
      rw [entryType]
      trivial

end Writes

/-- In every state of a run the rows are in the ranges of their checks, and the entries in
those that follow for their type. -/
theorem amounts_in_range (pytz : String → Option PyDatetime.TzInfo)
    (verifyPassword : String → String → Bool) (events : List ServerEvent) :
    Always (serverStep pytz verifyPassword)
      (fun server => RowsInRange server.world.db ∧
        ∀ entry ∈ server.world.db.ledger.entries, DeltaInRange entry) emptyServer events := by
  have initial : RowsInRange {} :=
    ⟨List.forall_mem_nil _, List.forall_mem_nil _, List.forall_mem_nil _,
      List.forall_mem_nil _, List.forall_mem_nil _⟩
  have always := @writes_always pytz verifyPassword
    (fun db => RowsInRange db ∧ LedgerAuthorized db) ⟨initial, List.forall_mem_nil _⟩ ?_
    events
  · exact always.imp fun _ held =>
      ⟨held.1, fun entry stored => (held.2 entry stored).deltaInRange held.1⟩
  · rintro db next settled ⟨rows, authorized⟩ write
    exact ⟨rows.write write, authorized.write settled write⟩

end KidsChores.Properties
