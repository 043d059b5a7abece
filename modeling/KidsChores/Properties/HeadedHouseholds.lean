import KidsChores.Properties.NoDeadEnds

/-!
# The parent of a household

A family is founded with one parent, every member added later is a teen, and a parent who
removes members cannot remove themselves.  So each household keeps exactly one parent, and
that parent is never archived.
-/

set_option autoImplicit false

namespace KidsChores.Properties

open KidsChores.Library
open KidsChores.Library.PyDatetime
open KidsChores.Library.Runs
open KidsChores.Models
open KidsChores.Routers.Auth
open KidsChores.Server

structure Headed (db : Database) : Prop where
  present : ∀ household ∈ db.households.rows, ∃ parent ∈ db.members.rows,
    parent.role = .parent ∧ parent.householdId = household.id ∧ parent.archivedAt = none
  alone : ∀ first ∈ db.members.rows, ∀ second ∈ db.members.rows, first.role = .parent →
    second.role = .parent → first.householdId = second.householdId → first = second

section Writes

variable {db next : Database}

/-- A new household has its own parent, whom no older member can be beside. -/
theorem Headed.founded (headed : Headed db) (families : Families db)
    {displayName subject : String} {provider : AuthProvider} {passwordHash : Option String}
    {response : TokenResponse}
    (founded : foundFamily db displayName provider subject passwordHash =
      .ok (response, next)) : Headed next := by
  unfold foundFamily at founded
  split at founded
  · cases founded
  · cases founded
    have elsewhere : ∀ member ∈ db.members.rows,
        member.householdId ≠ db.households.freshKey := by
      intro member stored
      obtain ⟨household, householdStored, named⟩ := families.homes member stored
      have older : household.id < db.households.freshKey := Table.key_lt_freshKey householdStored
      rw [← named]
      exact Nat.ne_of_lt older
    refine ⟨?_, ?_⟩
    · intro household stored
      rcases Table.mem_append.mp stored with old | rfl
      · obtain ⟨parent, parentStored, role, home, active⟩ := headed.present household old
        exact ⟨parent, List.mem_append_left _ parentStored, role, home, active⟩
      · exact ⟨_, List.mem_append_right _ (List.mem_singleton.mpr rfl), rfl, rfl, rfl⟩
    · intro first firstStored second secondStored role otherRole together
      rcases Table.mem_append.mp firstStored with firstOld | rfl
      · rcases Table.mem_append.mp secondStored with secondOld | rfl
        · exact headed.alone first firstOld second secondOld role otherRole together
        · exact absurd together (elsewhere first firstOld)
      · rcases Table.mem_append.mp secondStored with secondOld | rfl
        · exact absurd together.symm (elsewhere second secondOld)
        · rfl

/-- An edit leaves the parent of a household: nobody else could have removed them. -/
theorem Headed.saved (headed : Headed db) {member edited : Member}
    (stored : member ∈ db.members.rows) (sameId : edited.id = member.id)
    (sameHousehold : edited.householdId = member.householdId)
    (sameRole : edited.role = member.role)
    (removal : Removable db member ∨ edited.archivedAt = member.archivedAt) :
    Headed { db with members := db.members.save edited } := by
  have keepsActive : edited.role = .parent → member.archivedAt = none →
      edited.archivedAt = none := by
    intro role active
    rcases removal with removable | same
    · obtain ⟨other, beside, different⟩ := removable (sameRole.symm.trans role)
      have one := headed.alone other beside.parentStored member stored beside.role
        (sameRole.symm.trans role) beside.sameHousehold.symm
      exact absurd (congrArg Member.id one) different
    · exact same.trans active
  constructor
  · intro household householdStored
    obtain ⟨parent, parentStored, role, home, active⟩ := headed.present household householdStored
    by_cases own : parent.id = edited.id
    · have same : parent = member :=
        db.members.row_unique parentStored stored (own.trans sameId)
      rw [same] at role home active
      refine ⟨edited, Table.mem_save.mpr (Or.inl ⟨rfl, parent, parentStored, own⟩),
        sameRole.trans role, sameHousehold.trans home, ?_⟩
      exact keepsActive (sameRole.trans role) active
    · exact ⟨parent, Table.mem_save.mpr (Or.inr ⟨parentStored, own⟩), role, home, active⟩
  · intro first firstStored second secondStored role otherRole together
    rcases Table.mem_save.mp firstStored with ⟨rfl, _⟩ | ⟨firstOld, firstOther⟩
    · rcases Table.mem_save.mp secondStored with ⟨rfl, _⟩ | ⟨secondOld, secondOther⟩
      · rfl
      · have one := headed.alone member stored second secondOld (sameRole.symm.trans role)
          otherRole (sameHousehold.symm.trans together)
        exact absurd ((congrArg Member.id one).symm.trans sameId.symm) secondOther
    · rcases Table.mem_save.mp secondStored with ⟨rfl, _⟩ | ⟨secondOld, _⟩
      · have one := headed.alone first firstOld member stored role
          (sameRole.symm.trans otherRole) (together.trans sameHousehold)
        exact absurd ((congrArg Member.id one).trans sameId.symm) firstOther
      · exact headed.alone first firstOld second secondOld role otherRole together

theorem Headed.write (headed : Headed db) (families : Families db) (write : Write db next) :
    Headed next := by
  cases write with
  | familyFounded founded => exact headed.founded families founded
  | @householdSaved household edited stored sameId =>
      refine ⟨fun other otherStored => ?_, headed.alone⟩
      rcases Table.mem_save.mp otherStored with ⟨rfl, _⟩ | ⟨old, _⟩
      · rw [sameId]
        exact headed.present household stored
      · exact headed.present other old
  | @teenAdded build household keyed stored home free teen =>
      refine ⟨fun other otherStored => ?_, ?_⟩
      · obtain ⟨parent, parentStored, held⟩ := headed.present other otherStored
        exact ⟨parent, List.mem_append_left _ parentStored, held⟩
      · intro first firstStored second secondStored role otherRole together
        have old : ∀ member ∈ (db.members.append build keyed).rows, member.role = .parent →
            member ∈ db.members.rows := by
          intro member listed parent
          rcases Table.mem_append.mp listed with earlier | rfl
          · exact earlier
          · rw [teen] at parent
            cases parent
        exact headed.alone first (old first firstStored role) second
          (old second secondStored otherRole) role otherRole together
  | memberSaved stored sameId sameHousehold sameRole _ removal =>
      exact headed.saved stored sameId sameHousehold sameRole removal
  | called | generated | swept | adjusted | claimed | claimResolved | definitionAdded
  | definitionSaved | seriesAdded | seriesSaved => exact ⟨headed.present, headed.alone⟩

end Writes

/-- In every state of a run each household has exactly one parent, who is not archived. -/
theorem households_headed (pytz : String → Option TzInfo)
    (verifyPassword : String → String → Bool) (events : List ServerEvent) :
    Always (serverStep pytz verifyPassword) (fun server => Headed server.world.db)
      emptyServer events := by
  have always := @writes_always pytz verifyPassword (fun db => Families db ∧ Headed db)
    ⟨families_empty, List.forall_mem_nil _, List.forall_mem_nil _⟩ ?_ events
  · exact always.imp fun _ held => held.2
  · rintro db next _ ⟨families, headed⟩ write
    exact ⟨⟨write_homes families write, write_parents families write⟩,
      headed.write families write⟩

end KidsChores.Properties
