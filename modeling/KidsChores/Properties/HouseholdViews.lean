import KidsChores.Library.Alike
import KidsChores.Library.Slices
import KidsChores.Properties.SettledRows

/-!
# What a household sees

The rows that belong to a household.  Where two databases hold the same rows of a
household, its members' requests load the same rows from both and pass the same
checks, whatever ids they name.
-/

set_option autoImplicit false

namespace KidsChores.Properties

open KidsChores.Library
open KidsChores.Library.PyDatetime
open KidsChores.Library.Slices
open KidsChores.Library.Tenancy
open KidsChores.Models
open KidsChores.Routers
open KidsChores.Routers.Definitions
open KidsChores.Routers.Household
open KidsChores.Routers.Listings
open KidsChores.Routers.Reports
open KidsChores.Routers.SavingsGoals
open KidsChores.Routers.Series
open KidsChores.Routers.Tasks
open KidsChores.Routers.Wallet
open KidsChores.Services.Ledger
open KidsChores.Services.Reports

@[ext] structure Holdings where
  households : List Household
  members : List Member
  definitions : List TaskDefinition
  series : List Series
  seriesInstances : List SeriesInstance
  instances : List TaskInstance
  entries : List LedgerEntry
  claims : List Claim
  deriving DecidableEq

def windowOwner? (db : Database) (window : SeriesInstance) : Option Uuid :=
  owner? db (.series window.seriesId)

def taskOwner? (db : Database) (task : TaskInstance) : Option Uuid :=
  owner? db (.definition task.definitionId)

def entryOwner? (db : Database) (entry : LedgerEntry) : Option Uuid :=
  owner? db (.member entry.memberId)

def claimOwner? (db : Database) (claim : Claim) : Option Uuid :=
  owner? db (.member claim.memberId)

def holdings (home : Uuid) (db : Database) : Holdings where
  households := slice (column Household.id) home db.households.rows
  members := slice (column Member.householdId) home db.members.rows
  definitions := slice (column TaskDefinition.householdId) home db.definitions.rows
  series := slice (column Series.householdId) home db.series.rows
  seriesInstances := slice (windowOwner? db) home db.seriesInstances.rows
  instances := slice (taskOwner? db) home db.instances.rows
  entries := slice (entryOwner? db) home db.ledger.entries
  claims := slice (claimOwner? db) home db.claims.rows

def AsksFrom (home : Uuid) (db : Database) (memberId : Uuid) : Prop :=
  ∃ member, db.members.find? memberId = some member ∧ member.householdId = home

/-! ## Lookups -/

section Owned

variable {home : Uuid} {db other : Database}

theorem findOwnMember_same (same : holdings home db = holdings home other) (id : Uuid) :
    findOwn? db.members Member.householdId home id =
      findOwn? other.members Member.householdId home id :=
  findOwn?_same (congrArg Holdings.members same) id

theorem findOwnDefinition_same (same : holdings home db = holdings home other) (id : Uuid) :
    findOwn? db.definitions TaskDefinition.householdId home id =
      findOwn? other.definitions TaskDefinition.householdId home id :=
  findOwn?_same (congrArg Holdings.definitions same) id

theorem findOwnSeries_same (same : holdings home db = holdings home other) (id : Uuid) :
    findOwn? db.series Series.householdId home id =
      findOwn? other.series Series.householdId home id :=
  findOwn?_same (congrArg Holdings.series same) id

theorem memberOwner_same (same : holdings home db = holdings home other) {id : Uuid} :
    owner? db (.member id) = some home ↔ owner? other (.member id) = some home :=
  ownerIn_same (congrArg Holdings.members same) id

theorem member_found {id : Uuid} {member : Member} (same : holdings home db = holdings home other)
    (found : db.members.find? id = some member) (own : member.householdId = home) :
    other.members.find? id = some member := by
  have both := findOwnMember_same same id
  rw [findOwn?_eq_some_iff.mpr ⟨found, own⟩] at both
  exact (findOwn?_eq_some_iff.mp both.symm).1

theorem definition_found {id : Uuid} {definition : TaskDefinition}
    (same : holdings home db = holdings home other)
    (found : db.definitions.find? id = some definition) (own : definition.householdId = home) :
    other.definitions.find? id = some definition := by
  have both := findOwnDefinition_same same id
  rw [findOwn?_eq_some_iff.mpr ⟨found, own⟩] at both
  exact (findOwn?_eq_some_iff.mp both.symm).1

theorem owner?_of_find? {id : Uuid} {member : Member}
    (found : db.members.find? id = some member) :
    owner? db (.member id) = some member.householdId := by
  rw [← Table.key_of_find? found]
  exact owner?_member (Table.mem_of_find? found)

theorem found_of_owner? {id : Uuid} (owned : owner? db (.member id) = some home) :
    ∃ member, db.members.find? id = some member ∧ member.householdId = home := by
  obtain ⟨member, stored, hit, own⟩ := ownerIn_eq_some.mp owned
  exact ⟨member, Table.find?_eq_some_iff.mpr ⟨stored, hit⟩, own⟩

/-! ### The caller -/

theorem getCurrentMember_same {memberId : Uuid} (asks : AsksFrom home db memberId)
    (same : holdings home db = holdings home other) :
    getCurrentMember db memberId = getCurrentMember other memberId := by
  obtain ⟨member, found, own⟩ := asks
  simp only [getCurrentMember, found, member_found same found own]

theorem getCurrentHousehold_same {member : Member} (own : member.householdId = home)
    (same : holdings home db = holdings home other) :
    getCurrentHousehold db member = getCurrentHousehold other member := by
  have both := findOwn?_same (congrArg Holdings.households same) home
  have whole : ∀ db : Database, findOwn? db.households Household.id home home =
      db.households.find? home := by
    intro db
    unfold findOwn?
    cases found : db.households.find? home with
    | none => rfl
    | some household => simp [Option.filter, Table.key_of_find? found]
  rw [whole, whole] at both
  simp only [getCurrentHousehold, own, both]

theorem loadCaller_same {memberId : Uuid} (asks : AsksFrom home db memberId)
    (same : holdings home db = holdings home other) :
    loadCaller db memberId = loadCaller other memberId := by
  unfold loadCaller
  rw [← getCurrentMember_same asks same]
  refine bind_same fun member found => ?_
  obtain ⟨caller, callerFound, own⟩ := asks
  have one : member = caller :=
    Option.some.inj ((getCurrentMember_ok found).symm.trans callerFound)
  rw [getCurrentHousehold_same (one ▸ own) same]

theorem loadParent_same {memberId : Uuid} (asks : AsksFrom home db memberId)
    (same : holdings home db = holdings home other) :
    loadParent db memberId = loadParent other memberId := by
  unfold loadParent
  rw [← getCurrentMember_same asks same]
  refine bind_same fun member found => ?_
  obtain ⟨caller, callerFound, own⟩ := asks
  have one : member = caller :=
    Option.some.inj ((getCurrentMember_ok found).symm.trans callerFound)
  rw [getCurrentHousehold_same (one ▸ own) same]

structure LoadedFrom (home : Uuid) (db : Database) (memberId : Uuid) (member : Member)
    (household : Models.Household) : Prop where
  found : db.members.find? memberId = some member
  own : member.householdId = home
  ofHousehold : household.id = home

theorem loadCaller_from {memberId : Uuid} {member : Member} {household : Models.Household}
    (asks : AsksFrom home db memberId)
    (loaded : loadCaller db memberId = .ok (member, household)) :
    LoadedFrom home db memberId member household := by
  unfold loadCaller at loaded
  obtain ⟨caller, callerFound, loaded⟩ := bind_ok loaded
  obtain ⟨house, houseFound, loaded⟩ := bind_ok loaded
  cases loaded
  obtain ⟨asking, askingFound, own⟩ := asks
  have found := getCurrentMember_ok callerFound
  have one : member = asking := Option.some.inj (found.symm.trans askingFound)
  have own : member.householdId = home := one ▸ own
  exact ⟨found, own, (Table.key_of_find? (getCurrentHousehold_ok houseFound)).trans own⟩

theorem loadParent_from {memberId : Uuid} {member : Member} {household : Models.Household}
    (asks : AsksFrom home db memberId)
    (loaded : loadParent db memberId = .ok (member, household)) :
    LoadedFrom home db memberId member household := by
  obtain ⟨found, householdFound⟩ := loadParent_ok loaded
  obtain ⟨asking, askingFound, own⟩ := asks
  have one : member = asking := Option.some.inj (found.symm.trans askingFound)
  have own : member.householdId = home := one ▸ own
  exact ⟨found, own, (Table.key_of_find? householdFound).trans own⟩

theorem LoadedFrom.owner {memberId : Uuid} {member : Member} {household : Models.Household}
    (loaded : LoadedFrom home db memberId member household) :
    owner? db (.member member.id) = some home := by
  rw [Table.key_of_find? loaded.found, owner?_of_find? loaded.found, loaded.own]

/-! ### Checks on the ids of a request -/

variable {household : Models.Household}

theorem requireAssignee_eq (db : Database) (household : Models.Household) (id : Uuid) :
    requireAssignee db household id =
      if (findOwn? db.members Member.householdId household.id id).isSome then .ok ()
      else .error (.http 422 "assignee_id is not a member of this household.") := by
  unfold requireAssignee findOwn?
  cases db.members.find? id with
  | none => rfl
  | some member => by_cases own : member.householdId = household.id <;> simp [own]

theorem assertSameHousehold_eq (db : Database) (household : Models.Household) (id : Uuid) :
    assertSameHousehold db household id =
      if (findOwn? db.members Member.householdId household.id id).isSome then .ok ()
      else .error (.http 404 "Member not found in this household.") := by
  unfold assertSameHousehold findOwn?
  cases db.members.find? id with
  | none => rfl
  | some member => by_cases own : member.householdId = household.id <;> simp [own]

theorem getOr404_eq (db : Database) (household : Models.Household) (id : Uuid) :
    getOr404 db household id =
      match findOwn? db.definitions TaskDefinition.householdId household.id id with
      | some definition => .ok definition
      | none => .error (.http 404 "Task definition not found.") := by
  unfold getOr404 findOwn?
  cases db.definitions.find? id with
  | none => rfl
  | some definition =>
      by_cases own : definition.householdId = household.id <;> simp [own, Option.filter]

theorem getSeriesOr404_eq (db : Database) (household : Models.Household) (id : Uuid) :
    getSeriesOr404 db household id =
      match findOwn? db.series Series.householdId household.id id with
      | some series => .ok series
      | none => .error (.http 404 "Series not found.") := by
  unfold getSeriesOr404 findOwn?
  cases db.series.find? id with
  | none => rfl
  | some series => by_cases own : series.householdId = household.id <;> simp [own, Option.filter]

theorem getMemberOr404_eq (db : Database) (household : Models.Household) (id : Uuid) :
    getMemberOr404 db household id =
      match findOwn? db.members Member.householdId household.id id with
      | some member => .ok member
      | none => .error (.http 404 "Member not found.") := by
  unfold getMemberOr404 findOwn?
  cases db.members.find? id with
  | none => rfl
  | some member => by_cases own : member.householdId = household.id <;> simp [own, Option.filter]

theorem getMemberOr404_ok {id : Uuid} {member : Member}
    (returned : getMemberOr404 db household id = .ok member) :
    db.members.find? id = some member ∧ member.householdId = household.id := by
  rw [getMemberOr404_eq] at returned
  split at returned
  · rename_i stored found
    cases returned
    exact findOwn?_eq_some_iff.mp found
  · cases returned

variable (same : holdings home db = holdings home other) (own : household.id = home)
include same own

theorem requireAssignee_same (id : Uuid) :
    requireAssignee db household id = requireAssignee other household id := by
  rw [requireAssignee_eq, requireAssignee_eq, own, findOwnMember_same same]

theorem assertSameHousehold_same (id : Uuid) :
    assertSameHousehold db household id = assertSameHousehold other household id := by
  rw [assertSameHousehold_eq, assertSameHousehold_eq, own, findOwnMember_same same]

theorem assertWalletAccess_same (member : Member) (id : Uuid) :
    assertWalletAccess db member household id =
      assertWalletAccess other member household id := by
  unfold assertWalletAccess
  rw [assertSameHousehold_same same own]

theorem getOr404_same (id : Uuid) :
    getOr404 db household id = getOr404 other household id := by
  rw [getOr404_eq, getOr404_eq, own, findOwnDefinition_same same]

theorem getSeriesOr404_same (id : Uuid) :
    getSeriesOr404 db household id = getSeriesOr404 other household id := by
  rw [getSeriesOr404_eq, getSeriesOr404_eq, own, findOwnSeries_same same]

theorem getMemberOr404_same (id : Uuid) :
    getMemberOr404 db household id = getMemberOr404 other household id := by
  rw [getMemberOr404_eq, getMemberOr404_eq, own, findOwnMember_same same]

theorem resolveTargetId_same (member : Member) (id : Option Uuid) :
    resolveTargetId db member household id = resolveTargetId other member household id := by
  unfold resolveTargetId
  simp only [getMemberOr404_same same own]

theorem findInstance?_imp {id : Uuid} {definition : TaskDefinition} {task : TaskInstance}
    (found : findInstance? db household id = some (definition, task)) :
    findInstance? other household id = some (definition, task) := by
  obtain ⟨taskFound, definitionFound, ofHousehold⟩ := findInstance?_ok found
  have owned : taskOwner? db task = some home := by
    unfold taskOwner?
    rw [← Table.key_of_find? definitionFound,
      owner?_definition (Table.mem_of_find? definitionFound), ofHousehold, own]
  have otherFound := ((find?_own_iff (congrArg Holdings.instances same)).mp
    ⟨taskFound, owned⟩).1
  have otherDefinition := definition_found same definitionFound (ofHousehold.trans own)
  simp [findInstance?, otherFound, otherDefinition, ofHousehold]

theorem findClaim?_imp {id : Uuid} {claim : Claim}
    (found : findClaim? db household id = some claim) :
    findClaim? other household id = some claim := by
  obtain ⟨claimFound, member, memberFound, ofHousehold⟩ := findClaim?_ok found
  have owned : claimOwner? db claim = some home := by
    unfold claimOwner?
    rw [owner?_of_find? memberFound, ofHousehold, own]
  have otherFound := ((find?_own_iff (congrArg Holdings.claims same)).mp
    ⟨claimFound, owned⟩).1
  have otherMember := member_found same memberFound (ofHousehold.trans own)
  simp [findClaim?, otherFound, otherMember, ofHousehold]

theorem findInstance?_same (id : Uuid) :
    findInstance? db household id = findInstance? other household id := by
  apply Option.ext
  rintro ⟨definition, task⟩
  exact ⟨findInstance?_imp same own, findInstance?_imp same.symm own⟩

theorem findClaim?_same (id : Uuid) :
    findClaim? db household id = findClaim? other household id := by
  apply Option.ext
  intro claim
  exact ⟨findClaim?_imp same own, findClaim?_imp same.symm own⟩

end Owned

/-! ## What is read of a member -/

section Member

variable {home : Uuid} {db other : Database}
variable (same : holdings home db = holdings home other) {memberId : Uuid}
  (owned : owner? db (.member memberId) = some home)
include same owned

theorem entries_same (matching : LedgerEntry → Bool)
    (ofMember : ∀ entry, matching entry = true → entry.memberId = memberId) :
    db.ledger.entries.filter matching = other.ledger.entries.filter matching := by
  refine filter_eq (congrArg Holdings.entries same) ?_ ?_ fun _ _ => rfl
  · intro entry _ hit
    unfold entryOwner?
    rw [ofMember entry hit, owned]
  · intro entry _ hit
    unfold entryOwner?
    rw [ofMember entry hit, (memberOwner_same same).mp owned]

theorem currentBalance_same :
    currentBalance db.ledger memberId = currentBalance other.ledger memberId := by
  unfold currentBalance
  rw [entries_same same owned]
  intro entry hit
  exact of_decide_eq_true hit

end Member

theorem SettledRows.taskOwner {db : Database} {home : Uuid} (settled : SettledRows db)
    {task : TaskInstance} (stored : task ∈ db.instances.rows)
    (owned : owner? db (.member task.assigneeId) = some home) :
    taskOwner? db task = some home := by
  obtain ⟨owner, found, all⟩ := settled.instances task stored
  have assigned : owner? db (.member task.assigneeId) = some owner :=
    all _ List.mem_cons_self
  rw [← Option.some.inj (assigned.symm.trans owned)]
  exact found

theorem SettledRows.assigneeFound {db : Database} {home : Uuid} (settled : SettledRows db)
    {task : TaskInstance} (stored : task ∈ db.instances.rows)
    (owned : taskOwner? db task = some home) :
    ∃ member, db.members.find? task.assigneeId = some member ∧
      member.householdId = home :=
  found_of_owner? (settled.assignee stored owned)

end KidsChores.Properties
