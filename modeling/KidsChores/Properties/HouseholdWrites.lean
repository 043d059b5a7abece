import KidsChores.Properties.HouseholdViews

/-!
# Writes of a household

A write of one household moves its own rows the same way wherever they are the same,
and leaves every other household's rows as they are.
-/

set_option autoImplicit false

namespace KidsChores.Properties

open KidsChores.Api
open KidsChores.Library
open KidsChores.Library.PyDatetime
open KidsChores.Library.Slices
open KidsChores.Library.Tenancy
open KidsChores.Models
open KidsChores.Routers.Series
open KidsChores.Services.StateMachine
open KidsChores.Workers.GenerateInstances

/-- Of two runs' writes: the household's rows are the same after both, and the first
left every other household's rows alone. -/
structure Confined (home : Uuid) (db next otherNext : Database) : Prop where
  same : holdings home next = holdings home otherNext
  apart : ∀ away, away ≠ home → holdings away next = holdings away db

section Kept

variable {db next : Database} (settled : SettledRows db)
  (keeps : OwnersKept (owner? db) (owner? next)) (home : Uuid)
include settled keeps

theorem windows_kept : slice (windowOwner? next) home db.seriesInstances.rows =
    slice (windowOwner? db) home db.seriesInstances.rows := by
  refine slice_kept (fun window member => ?_) fun window => keeps (.series window.seriesId)
  obtain ⟨owner, owned, _⟩ := settled.windows window member
  exact ⟨owner, owned⟩

theorem instances_kept : slice (taskOwner? next) home db.instances.rows =
    slice (taskOwner? db) home db.instances.rows := by
  refine slice_kept (fun task member => ?_) fun task => keeps (.definition task.definitionId)
  obtain ⟨owner, owned, _⟩ := settled.instances task member
  exact ⟨owner, owned⟩

theorem entries_kept : slice (entryOwner? next) home db.ledger.entries =
    slice (entryOwner? db) home db.ledger.entries := by
  refine slice_kept (fun entry member => ?_) fun entry => keeps (.member entry.memberId)
  obtain ⟨owner, owned, _⟩ := settled.entries entry member
  exact ⟨owner, owned⟩

theorem claims_kept : slice (claimOwner? next) home db.claims.rows =
    slice (claimOwner? db) home db.claims.rows := by
  refine slice_kept (fun claim member => ?_) fun claim => keeps (.member claim.memberId)
  obtain ⟨owner, owned, _⟩ := settled.claims claim member
  exact ⟨owner, owned⟩

end Kept

theorem Confined.trans {home : Uuid} {db middle next otherMiddle otherNext : Database}
    (before : Confined home db middle otherMiddle)
    (after : Confined home middle next otherNext) : Confined home db next otherNext :=
  ⟨after.same, fun away foreign =>
    (after.apart away foreign).trans (before.apart away foreign)⟩

/-! ## Rows saved in place -/

section Saved

variable {home : Uuid} {db other : Database}

theorem Confined.householdSaved (same : holdings home db = holdings home other)
    {household edited : Household} (stored : household ∈ db.households.rows)
    (otherStored : household ∈ other.households.rows) (sameId : edited.id = household.id)
    (own : household.id = home) :
    Confined home db { db with households := db.households.save edited }
      { other with households := other.households.save edited } := by
  have saved : ∀ {db : Database}, household ∈ db.households.rows → ∀ home,
      holdings home { db with households := db.households.save edited } =
        { holdings home db with
          households := replace Household.id edited (holdings home db).households } := by
    intro db stored home
    ext1
    · exact slice_save stored sameId (congrArg some sameId)
    all_goals rfl
  refine ⟨?_, fun away foreign => ?_⟩
  · rw [saved stored, saved otherStored, same]
  · have unmoved : replace Household.id edited (holdings away db).households =
        (holdings away db).households :=
      replace_other stored sameId (congrArg some own) foreign
    rw [saved stored, unmoved]

theorem holdings_memberSaved (settled : SettledRows db) {member edited : Member}
    (stored : member ∈ db.members.rows) (sameId : edited.id = member.id)
    (sameHousehold : edited.householdId = member.householdId) (home : Uuid) :
    holdings home { db with members := db.members.save edited } =
      { holdings home db with
        members := replace Member.id edited (holdings home db).members } := by
  have keeps : OwnersKept (owner? db) (owner? { db with members := db.members.save edited }) :=
    owner?_kept (ownerIn_save stored sameId sameHousehold) (.refl _) (.refl _)
  ext1
  · rfl
  · exact slice_save stored sameId (congrArg some sameHousehold)
  · rfl
  · rfl
  · exact windows_kept settled keeps home
  · exact instances_kept settled keeps home
  · exact entries_kept settled keeps home
  · exact claims_kept settled keeps home

theorem Confined.memberSaved (same : holdings home db = holdings home other)
    (settled : SettledRows db) (otherSettled : SettledRows other) {member edited : Member}
    (stored : member ∈ db.members.rows) (otherStored : member ∈ other.members.rows)
    (sameId : edited.id = member.id) (sameHousehold : edited.householdId = member.householdId)
    (own : member.householdId = home) :
    Confined home db { db with members := db.members.save edited }
      { other with members := other.members.save edited } := by
  refine ⟨?_, fun away foreign => ?_⟩
  · rw [holdings_memberSaved settled stored sameId sameHousehold,
      holdings_memberSaved otherSettled otherStored sameId sameHousehold, same]
  · have unmoved : replace Member.id edited (holdings away db).members =
        (holdings away db).members :=
      replace_other stored sameId (congrArg some own) foreign
    rw [holdings_memberSaved settled stored sameId sameHousehold, unmoved]

theorem holdings_definitionSaved (settled : SettledRows db)
    {definition edited : TaskDefinition} (stored : definition ∈ db.definitions.rows)
    (parties : SameParties definition edited) (home : Uuid) :
    holdings home { db with definitions := db.definitions.save edited } =
      { holdings home db with
        definitions := replace TaskDefinition.id edited (holdings home db).definitions } := by
  have keeps : OwnersKept (owner? db)
      (owner? { db with definitions := db.definitions.save edited }) :=
    owner?_kept (.refl _) (ownerIn_save stored parties.id parties.householdId) (.refl _)
  ext1
  · rfl
  · rfl
  · exact slice_save stored parties.id (congrArg some parties.householdId)
  · rfl
  · exact windows_kept settled keeps home
  · exact instances_kept settled keeps home
  · exact entries_kept settled keeps home
  · exact claims_kept settled keeps home

theorem Confined.definitionSaved (same : holdings home db = holdings home other)
    (settled : SettledRows db) (otherSettled : SettledRows other)
    {definition edited : TaskDefinition} (stored : definition ∈ db.definitions.rows)
    (otherStored : definition ∈ other.definitions.rows)
    (parties : SameParties definition edited) (own : definition.householdId = home) :
    Confined home db { db with definitions := db.definitions.save edited }
      { other with definitions := other.definitions.save edited } := by
  refine ⟨?_, fun away foreign => ?_⟩
  · rw [holdings_definitionSaved settled stored parties,
      holdings_definitionSaved otherSettled otherStored parties, same]
  · have unmoved : replace TaskDefinition.id edited (holdings away db).definitions =
        (holdings away db).definitions :=
      replace_other stored parties.id (congrArg some own) foreign
    rw [holdings_definitionSaved settled stored parties, unmoved]

theorem holdings_seriesSaved (settled : SettledRows db) {series edited : Series}
    (stored : series ∈ db.series.rows) (sameSeries : SameSeries series edited)
    (home : Uuid) :
    holdings home { db with series := db.series.save edited } =
      { holdings home db with
        series := replace Series.id edited (holdings home db).series } := by
  have keeps : OwnersKept (owner? db) (owner? { db with series := db.series.save edited }) :=
    owner?_kept (.refl _) (.refl _) (ownerIn_save stored sameSeries.id sameSeries.householdId)
  ext1
  · rfl
  · rfl
  · rfl
  · exact slice_save stored sameSeries.id (congrArg some sameSeries.householdId)
  · exact windows_kept settled keeps home
  · exact instances_kept settled keeps home
  · exact entries_kept settled keeps home
  · exact claims_kept settled keeps home

theorem Confined.seriesSaved (same : holdings home db = holdings home other)
    (settled : SettledRows db) (otherSettled : SettledRows other) {series edited : Series}
    (stored : series ∈ db.series.rows) (otherStored : series ∈ other.series.rows)
    (sameSeries : SameSeries series edited) (own : series.householdId = home) :
    Confined home db { db with series := db.series.save edited }
      { other with series := other.series.save edited } := by
  refine ⟨?_, fun away foreign => ?_⟩
  · rw [holdings_seriesSaved settled stored sameSeries,
      holdings_seriesSaved otherSettled otherStored sameSeries, same]
  · have unmoved : replace Series.id edited (holdings away db).series =
        (holdings away db).series :=
      replace_other stored sameSeries.id (congrArg some own) foreign
    rw [holdings_seriesSaved settled stored sameSeries, unmoved]

/-- Neither table decides who owns what. -/
theorem Confined.claimSaved (same : holdings home db = holdings home other)
    {claim resolved : Claim} (stored : claim ∈ db.claims.rows)
    (otherStored : claim ∈ other.claims.rows) (sameId : resolved.id = claim.id)
    (sameMember : resolved.memberId = claim.memberId)
    (owned : owner? db (.member claim.memberId) = some home) :
    Confined home db { db with claims := db.claims.save resolved }
      { other with claims := other.claims.save resolved } := by
  have saved : ∀ {db : Database}, claim ∈ db.claims.rows → ∀ home,
      holdings home { db with claims := db.claims.save resolved } =
        { holdings home db with
          claims := replace Claim.id resolved (holdings home db).claims } := by
    intro db stored home
    have sameOwner : claimOwner? db resolved = claimOwner? db claim := by
      unfold claimOwner?
      rw [sameMember]
    ext1
    case claims => exact slice_save stored sameId sameOwner
    all_goals rfl
  refine ⟨?_, fun away foreign => ?_⟩
  · rw [saved stored, saved otherStored, same]
  · have unmoved : replace Claim.id resolved (holdings away db).claims =
        (holdings away db).claims :=
      replace_other stored sameId owned foreign
    rw [saved stored, unmoved]

theorem Confined.instanceSaved (same : holdings home db = holdings home other)
    {task result : TaskInstance} (stored : task ∈ db.instances.rows)
    (otherStored : task ∈ other.instances.rows) (sameTask : SameTask task result)
    (owned : taskOwner? db task = some home) :
    Confined home db { db with instances := db.instances.save result }
      { other with instances := other.instances.save result } := by
  have saved : ∀ {db : Database}, task ∈ db.instances.rows → ∀ home,
      holdings home { db with instances := db.instances.save result } =
        { holdings home db with
          instances := replace TaskInstance.id result (holdings home db).instances } := by
    intro db stored home
    have sameOwner : taskOwner? db result = taskOwner? db task := by
      unfold taskOwner?
      rw [sameTask.definitionId]
    ext1
    case instances => exact slice_save stored sameTask.id sameOwner
    all_goals rfl
  refine ⟨?_, fun away foreign => ?_⟩
  · rw [saved stored, saved otherStored, same]
  · have unmoved : replace TaskInstance.id result (holdings away db).instances =
        (holdings away db).instances :=
      replace_other stored sameTask.id owned foreign
    rw [saved stored, unmoved]

end Saved

/-! ## Rows added -/

section Added

variable {home : Uuid} {db other : Database}

theorem holdings_memberAdded (settled : SettledRows db) {build : Uuid → Member}
    (keyed : ∀ id, (build id).id = id) (home : Uuid) :
    holdings home { db with members := db.members.append build keyed } =
      { holdings home db with
        members := (holdings home db).members ++
          if (build db.members.freshKey).householdId = home then
            [build db.members.freshKey] else [] } := by
  have keeps : OwnersKept (owner? db)
      (owner? { db with members := db.members.append build keyed }) :=
    owner?_kept (ownerIn_append keyed) (.refl _) (.refl _)
  ext1
  case members => exact slice_grown (column Member.householdId) db.members.rows rfl home
  case seriesInstances => exact windows_kept settled keeps home
  case instances => exact instances_kept settled keeps home
  case entries => exact entries_kept settled keeps home
  case claims => exact claims_kept settled keeps home
  all_goals rfl

theorem Confined.memberAdded (same : holdings home db = holdings home other)
    (settled : SettledRows db) (otherSettled : SettledRows other)
    (draws : db.members.freshKey = other.members.freshKey) {build : Uuid → Member}
    (keyed : ∀ id, (build id).id = id) (own : ∀ id, (build id).householdId = home) :
    Confined home db { db with members := db.members.append build keyed }
      { other with members := other.members.append build keyed } := by
  refine ⟨?_, fun away foreign => ?_⟩
  · rw [holdings_memberAdded settled, holdings_memberAdded otherSettled, same, draws]
  · rw [holdings_memberAdded settled, own, if_neg foreign.symm, List.append_nil]

theorem holdings_claimAdded {build : Uuid → Claim} (keyed : ∀ id, (build id).id = id)
    {owner : Uuid} (owned : ∀ id, owner? db (.member (build id).memberId) = some owner)
    (home : Uuid) :
    holdings home { db with claims := db.claims.append build keyed } =
      { holdings home db with
        claims := (holdings home db).claims ++
          if owner = home then [build db.claims.freshKey] else [] } := by
  ext1
  case claims => exact slice_grown (claimOwner? db) db.claims.rows (owned _) home
  all_goals rfl

theorem Confined.claimAdded (same : holdings home db = holdings home other)
    (draws : db.claims.freshKey = other.claims.freshKey) {build : Uuid → Claim}
    (keyed : ∀ id, (build id).id = id)
    (owned : ∀ id, owner? db (.member (build id).memberId) = some home) :
    Confined home db { db with claims := db.claims.append build keyed }
      { other with claims := other.claims.append build keyed } := by
  have otherOwned := fun id => (memberOwner_same same).mp (owned id)
  refine ⟨?_, fun away foreign => ?_⟩
  · rw [holdings_claimAdded keyed owned, holdings_claimAdded keyed otherOwned, same, draws]
  · rw [holdings_claimAdded keyed owned, if_neg foreign.symm, List.append_nil]

/-! ### A definition and its first instance -/

/-- Both tables get the new definition's instance, or neither does. -/
def SameInstances (definitionId : Uuid) (instances otherInstances next otherNext :
    Table TaskInstance.id) : Prop :=
  ∃ added, next.rows = instances.rows ++ added ∧
    otherNext.rows = otherInstances.rows ++ added ∧
      ∀ task ∈ added, task.definitionId = definitionId

theorem upsert_alike {tz : TzInfo} {now : Instant}
    {instances otherInstances : Table TaskInstance.id} {defn : TaskDefinition}
    {targetDate : Date} (unused : ∀ task ∈ instances.rows, task.definitionId ≠ defn.id)
    (otherUnused : ∀ task ∈ otherInstances.rows, task.definitionId ≠ defn.id)
    (draws : instances.freshKey = otherInstances.freshKey) :
    Alike (SameInstances defn.id instances otherInstances)
      (upsertInstanceForDate tz now instances defn targetDate)
      (upsertInstanceForDate tz now otherInstances defn targetDate) := by
  unfold upsertInstanceForDate
  cases shouldGenerateForDate defn targetDate with
  | error raised => exact .raised raised
  | ok wanted =>
      cases wanted with
      | false => exact .returned ⟨[], by simp, by simp, by simp⟩
      | true =>
          dsimp only
          cases dueUtc tz targetDate defn.dueTime with
          | error raised => exact .raised raised
          | ok due =>
              have free : ¬ ∃ task ∈ instances.rows,
                  task.definitionId = defn.id ∧ task.dueAt = due :=
                fun ⟨task, stored, ofDefinition, _⟩ => unused task stored ofDefinition
              have otherFree : ¬ ∃ task ∈ otherInstances.rows,
                  task.definitionId = defn.id ∧ task.dueAt = due :=
                fun ⟨task, stored, ofDefinition, _⟩ => otherUnused task stored ofDefinition
              simp only [insertOnConflictDoNothing, if_neg free, if_neg otherFree]
              refine .returned ⟨[newInstance defn due now instances.freshKey], rfl, ?_, ?_⟩
              · rw [draws]
                rfl
              · simp [newInstance]

theorem SettledRows.unused (settled : SettledRows db) {task : TaskInstance}
    (stored : task ∈ db.instances.rows) : task.definitionId ≠ db.definitions.freshKey := by
  obtain ⟨owner, owned, _⟩ := settled.instances task stored
  obtain ⟨definition, definitionStored, hit, _⟩ := ownerIn_eq_some.mp owned
  rw [← hit]
  exact (Table.key_lt_freshKey definitionStored).ne

theorem holdings_definitionAdded (settled : SettledRows db)
    {build : Uuid → TaskDefinition} (keyed : ∀ id, (build id).id = id)
    {instances : Table TaskInstance.id} {added : List TaskInstance} {owner : Uuid}
    (own : (build db.definitions.freshKey).householdId = owner)
    (grown : instances.rows = db.instances.rows ++ added)
    (ofDefinition : ∀ task ∈ added, task.definitionId = db.definitions.freshKey)
    (home : Uuid) :
    holdings home { db with
      definitions := db.definitions.append build keyed, instances := instances } =
      { holdings home db with
        definitions := (holdings home db).definitions ++
          if owner = home then [build db.definitions.freshKey] else []
        instances := (holdings home db).instances ++ if owner = home then added else [] } := by
  have keeps : OwnersKept (owner? db) (owner? { db with
      definitions := db.definitions.append build keyed, instances := instances }) :=
    owner?_kept (.refl _) (ownerIn_append keyed) (.refl _)
  ext1
  case definitions =>
    exact slice_grown (column TaskDefinition.householdId) db.definitions.rows
      (congrArg some own) home
  case instances =>
    have stored : build db.definitions.freshKey ∈ (db.definitions.append build keyed).rows :=
      Table.mem_append.mpr (Or.inr rfl)
    have owned : ∀ task ∈ added, taskOwner? { db with
        definitions := db.definitions.append build keyed, instances := instances } task =
          some owner := by
      intro task member
      have found : owner? { db with
          definitions := db.definitions.append build keyed, instances := instances }
            (.definition (build db.definitions.freshKey).id) = some owner :=
        (owner?_definition stored).trans (congrArg some own)
      rw [keyed] at found
      unfold taskOwner?
      rw [ofDefinition task member, found]
    have whole := slice_added (taskOwner? { db with
      definitions := db.definitions.append build keyed, instances := instances })
        db.instances.rows owned home
    rw [instances_kept settled keeps home, ← grown] at whole
    exact whole
  case seriesInstances => exact windows_kept settled keeps home
  case entries => exact entries_kept settled keeps home
  case claims => exact claims_kept settled keeps home
  all_goals rfl

theorem Confined.definitionAdded (same : holdings home db = holdings home other)
    (settled : SettledRows db) (otherSettled : SettledRows other)
    (draws : db.definitions.freshKey = other.definitions.freshKey)
    {build : Uuid → TaskDefinition} (keyed : ∀ id, (build id).id = id)
    (own : ∀ id, (build id).householdId = home)
    {instances otherInstances : Table TaskInstance.id}
    (grown : SameInstances db.definitions.freshKey db.instances other.instances instances
      otherInstances) :
    Confined home db
      { db with definitions := db.definitions.append build keyed, instances := instances }
      { other with
        definitions := other.definitions.append build keyed, instances := otherInstances } := by
  obtain ⟨added, rows, otherRows, ofDefinition⟩ := grown
  refine ⟨?_, fun away foreign => ?_⟩
  · rw [holdings_definitionAdded settled keyed (own _) rows ofDefinition,
      holdings_definitionAdded otherSettled keyed (own _) otherRows (draws ▸ ofDefinition),
      same, draws]
  · rw [holdings_definitionAdded settled keyed (own _) rows ofDefinition,
      if_neg foreign.symm, if_neg foreign.symm, List.append_nil, List.append_nil]

/-! ### A series, its window and its definitions -/

theorem holdings_seriesAdded (settled : SettledRows db) {body : SeriesCreate}
    {household : Household} {windowStart windowEnd : Instant} (home : Uuid) :
    holdings home (afterSeries body household windowStart windowEnd db) =
      { holdings home db with
        series := (holdings home db).series ++
          if household.id = home then [body.series household db.series.freshKey] else []
        definitions := (holdings home db).definitions.map fun definition =>
          if bundled body household definition then linkTo db.series.freshKey definition
          else definition
        seriesInstances := (holdings home db).seriesInstances ++
          if household.id = home then
            [openWindow db.series.freshKey windowStart windowEnd db.seriesInstances.freshKey]
          else [] } := by
  have keeps := afterSeries_kept db body household windowStart windowEnd
  ext1
  case series => exact slice_grown (column Series.householdId) db.series.rows rfl home
  case definitions =>
    refine slice_map fun definition _ => ?_
    split <;> rfl
  case seriesInstances =>
    have owned : windowOwner? (afterSeries body household windowStart windowEnd db)
        (openWindow db.series.freshKey windowStart windowEnd db.seriesInstances.freshKey) =
          some household.id :=
      owner?_series (mem_afterSeries_series.mpr (Or.inr rfl))
    exact (slice_grown _ _ owned home).trans
      (congrArg (· ++ _) (windows_kept settled keeps home))
  case instances => exact instances_kept settled keeps home
  case entries => exact entries_kept settled keeps home
  case claims => exact claims_kept settled keeps home
  all_goals rfl

theorem Confined.seriesAdded (same : holdings home db = holdings home other)
    (settled : SettledRows db) (otherSettled : SettledRows other)
    (draws : db.series.freshKey = other.series.freshKey)
    (windowDraws : db.seriesInstances.freshKey = other.seriesInstances.freshKey)
    {body : SeriesCreate} {household : Household} {windowStart windowEnd : Instant}
    (own : household.id = home) :
    Confined home db (afterSeries body household windowStart windowEnd db)
      (afterSeries body household windowStart windowEnd other) := by
  refine ⟨?_, fun away foreign => ?_⟩
  · rw [holdings_seriesAdded settled, holdings_seriesAdded otherSettled, same, draws,
      windowDraws]
  · have elsewhere : ¬ household.id = away := fun equal => foreign (equal.symm.trans own)
    have unlinked : ((holdings away db).definitions.map fun definition =>
        if bundled body household definition then linkTo db.series.freshKey definition
        else definition) = (holdings away db).definitions := by
      apply (List.map_congr_left _).trans (List.map_id _)
      intro definition member
      have ofAway := column_eq_some.mp (mem_slice.mp member).2
      have unbundled : bundled body household definition = false := by
        simp only [bundled, decide_eq_false_iff_not]
        rintro ⟨_, ofHousehold⟩
        exact elsewhere (ofHousehold.symm.trans ofAway)
      simp [unbundled]
    rw [holdings_seriesAdded settled, if_neg elsewhere, if_neg elsewhere, List.append_nil,
      List.append_nil, unlinked]

/-! ### Entries -/

def SamePosts (memberId : Uuid) (before otherBefore after otherAfter : Ledger) : Prop :=
  ∃ added, after.entries = before.entries ++ added ∧
    otherAfter.entries = otherBefore.entries ++ added ∧
      ∀ entry ∈ added, entry.memberId = memberId

theorem holdings_posted {ledger : Ledger} {added : List LedgerEntry} {memberId owner : Uuid}
    (owned : owner? db (.member memberId) = some owner)
    (grown : ledger.entries = db.ledger.entries ++ added)
    (ofMember : ∀ entry ∈ added, entry.memberId = memberId) (home : Uuid) :
    holdings home { db with ledger := ledger } =
      { holdings home db with
        entries := (holdings home db).entries ++ if owner = home then added else [] } := by
  have addedOwned : ∀ entry ∈ added, entryOwner? db entry = some owner := by
    intro entry member
    unfold entryOwner?
    rw [ofMember entry member, owned]
  ext1
  case entries =>
    have whole := slice_added (entryOwner? db) db.ledger.entries addedOwned home
    rw [← grown] at whole
    exact whole
  all_goals rfl

theorem Confined.posted (same : holdings home db = holdings home other) {memberId : Uuid}
    (owned : owner? db (.member memberId) = some home) {ledger otherLedger : Ledger}
    (posts : SamePosts memberId db.ledger other.ledger ledger otherLedger) :
    Confined home db { db with ledger := ledger } { other with ledger := otherLedger } := by
  obtain ⟨added, grown, otherGrown, ofMember⟩ := posts
  refine ⟨?_, fun away foreign => ?_⟩
  · rw [holdings_posted owned grown ofMember,
      holdings_posted ((memberOwner_same same).mp owned) otherGrown ofMember, same]
  · rw [holdings_posted owned grown ofMember, if_neg foreign.symm, List.append_nil]

end Added

end KidsChores.Properties
