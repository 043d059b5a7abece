import KidsChores.Properties.ChoreCards

/-!
# Where an entry comes from

Every entry of the ledger can be accounted for from the rows that are stored: who wrote
it, in which role, and for which task, claim or adjustment.  Nothing that happens later
takes that evidence away.
-/

set_option autoImplicit false

namespace KidsChores.Properties

open KidsChores.Api
open KidsChores.Library
open KidsChores.Library.PyDatetime
open KidsChores.Library.Runs
open KidsChores.Library.Tenancy
open KidsChores.Models
open KidsChores.Routers.Wallet
open KidsChores.Server
open KidsChores.Services.Ledger
open KidsChores.Services.StateMachine
open KidsChores.Session

/-- The entry is of a member of the household of whoever wrote it. -/
structure SignedBy (db : Database) (entry : LedgerEntry) (creator : Member) : Prop where
  stored : creator ∈ db.members.rows
  signed : entry.createdBy = creator.id
  sameHousehold : ∃ owner ∈ db.members.rows,
    owner.id = entry.memberId ∧ owner.householdId = creator.householdId

structure PaysFor (db : Database) (entry : LedgerEntry) (task : TaskInstance) : Prop where
  stored : task ∈ db.instances.rows
  named : entry.taskInstanceId = some task.id
  owner : entry.memberId = task.assigneeId

inductive Authorized (db : Database) (entry : LedgerEntry) : Prop where
  | completed {creator : Member} {task : TaskInstance} (signed : SignedBy db entry creator)
      (entitled : creator.role = .parent ∨ creator.id = entry.memberId)
      (pays : PaysFor db entry task) (done : task.status = .complete)
      (entryType : entry.entryType = .taskCompleted) (delta : entry.delta = task.pointValue)
  | excusedFull {creator : Member} {task : TaskInstance} (signed : SignedBy db entry creator)
      (parent : creator.role = .parent) (pays : PaysFor db entry task)
      (excused : task.status = .excused) (entryType : entry.entryType = .taskCompleted)
      (delta : entry.delta = task.pointValue)
  | excusedPartial {creator : Member} {task : TaskInstance}
      (signed : SignedBy db entry creator) (parent : creator.role = .parent)
      (pays : PaysFor db entry task) (excused : task.status = .excused)
      (entryType : entry.entryType = .excusedPartial)
      (delta : entry.delta = task.pointValue / 2)
  | fulfilled {creator : Member} {claim : Claim} (signed : SignedBy db entry creator)
      (parent : creator.role = .parent) (stored : claim ∈ db.claims.rows)
      (named : entry.claimId = some claim.id) (owner : entry.memberId = claim.memberId)
      (noTask : entry.taskInstanceId = none) (entryType : entry.entryType = .claimFulfilled)
      (delta : entry.delta = -claim.points)
  | adjusted {creator : Member} (signed : SignedBy db entry creator)
      (parent : creator.role = .parent) (noTask : entry.taskInstanceId = none)
      (entryType : entry.entryType = .manualAdjustment)

/-! ## Evidence stays -/

section Stays

variable {db next : Database} {entry : LedgerEntry}

def ClaimsStay (db next : Database) : Prop :=
  ∀ claim ∈ db.claims.rows, ∃ later ∈ next.claims.rows, later.id = claim.id ∧
    later.memberId = claim.memberId ∧ later.points = claim.points

theorem ClaimsStay.of_eq (same : next.claims = db.claims) : ClaimsStay db next := by
  intro claim stored
  exact ⟨claim, by rw [same]; exact stored, rfl, rfl, rfl⟩

theorem resolveClaim_points {clock : Clock} {parent : Member} {body : ClaimResolveRequest}
    {claim resolved : Claim} {ledger nextLedger : Ledger}
    (returned : resolveClaim clock parent body claim ledger = .ok (resolved, nextLedger)) :
    resolved.points = claim.points := by
  simp only [resolveClaim, bind, Except.bind, pure, Except.pure] at returned
  split at returned
  · cases paid : fulfilClaim ledger clock claim parent with
    | error raised =>
        rw [paid] at returned
        cases returned
    | ok posted =>
        rw [paid] at returned
        cases returned
        rfl
  · cases returned
    rfl

theorem Write.claimsStay (write : Write db next) : ClaimsStay db next := by
  cases write with
  | claimed stored =>
      intro claim claimStored
      exact ⟨claim, List.mem_append_left _ claimStored, rfl, rfl, rfl⟩
  | @claimResolved clock body parent member claim resolved ledger byParent stored own
      resolution =>
      obtain ⟨sameId, sameMember, _, _⟩ := resolveClaim_same resolution
      have samePoints := resolveClaim_points resolution
      intro other otherStored
      by_cases hit : other.id = resolved.id
      · have one : other = claim :=
          db.claims.row_unique otherStored stored (hit.trans sameId)
        refine ⟨resolved, Table.mem_save.mpr (Or.inl ⟨rfl, other, otherStored, hit⟩),
          hit.symm, ?_⟩
        rw [one]
        exact ⟨sameMember, samePoints⟩
      · exact ⟨other, Table.mem_save.mpr (Or.inr ⟨otherStored, hit⟩), rfl, rfl, rfl⟩
  | familyFounded founded =>
      refine .of_eq ?_
      rw [(foundFamily_rows founded).1]
  | called | generated | swept | adjusted | definitionAdded | definitionSaved | seriesAdded
  | seriesSaved | householdSaved | teenAdded | memberSaved => exact .of_eq rfl

theorem SignedBy.later {creator : Member} (signed : SignedBy db entry creator)
    (stay : MembersStay db next) :
    ∃ later, SignedBy next entry later ∧ later.id = creator.id ∧ later.role = creator.role := by
  obtain ⟨later, laterStored, sameId, sameHousehold, sameRole⟩ := stay creator signed.stored
  obtain ⟨owner, ownerStored, named, home⟩ := signed.sameHousehold
  obtain ⟨stays, staysStored, staysId, staysHousehold, _⟩ := stay owner ownerStored
  refine ⟨later, ⟨laterStored, signed.signed.trans sameId.symm, stays, staysStored,
    staysId.trans named, ?_⟩, sameId, sameRole⟩
  rw [staysHousehold, home, sameHousehold]

theorem PaysFor.later {task : TaskInstance} (pays : PaysFor db entry task)
    (closed : Closed task.status) (kept : ClosedKept db next) : PaysFor next entry task :=
  ⟨(kept task pays.stored closed).1, pays.named, pays.owner⟩

theorem Authorized.later (authorized : Authorized db entry) (stay : MembersStay db next)
    (kept : ClosedKept db next) (claims : ClaimsStay db next) : Authorized next entry := by
  cases authorized with
  | completed signed entitled pays done entryType delta =>
      obtain ⟨later, stillSigned, sameId, sameRole⟩ := signed.later stay
      rw [← sameId, ← sameRole] at entitled
      exact .completed stillSigned entitled (pays.later (Or.inl done) kept) done entryType
        delta
  | excusedFull signed parent pays excused entryType delta =>
      obtain ⟨later, stillSigned, _, sameRole⟩ := signed.later stay
      exact .excusedFull stillSigned (sameRole.trans parent)
        (pays.later (Or.inr (Or.inl excused)) kept) excused entryType delta
  | excusedPartial signed parent pays excused entryType delta =>
      obtain ⟨later, stillSigned, _, sameRole⟩ := signed.later stay
      exact .excusedPartial stillSigned (sameRole.trans parent)
        (pays.later (Or.inr (Or.inl excused)) kept) excused entryType delta
  | fulfilled signed parent stored named owner noTask entryType delta =>
      obtain ⟨later, stillSigned, _, sameRole⟩ := signed.later stay
      obtain ⟨claim, claimStored, sameId, sameMember, samePoints⟩ := claims _ stored
      rw [← sameId] at named
      rw [← sameMember] at owner
      rw [← samePoints] at delta
      exact .fulfilled stillSigned (sameRole.trans parent) claimStored named owner noTask
        entryType delta
  | adjusted signed parent noTask entryType =>
      obtain ⟨later, stillSigned, _, sameRole⟩ := signed.later stay
      exact .adjusted stillSigned (sameRole.trans parent) noTask entryType

end Stays

/-! ## What a write adds -/

section Writes

variable {db next : Database}

theorem mem_record {ledger posted : Ledger} {clock : Clock} {posting : Posting}
    (recorded : record ledger clock posting = .ok posted) {entry : LedgerEntry}
    (member : entry ∈ posted.entries) :
    entry ∈ ledger.entries ∨
      entry = posting.entry (currentBalance ledger posting.memberId) clock.transaction := by
  rw [(record_ok recorded).1] at member
  rcases List.mem_append.mp member with old | new
  · exact Or.inl old
  · exact Or.inr (List.mem_singleton.mp new)

theorem acts_signed (settled : SettledRows db) {actor : Member} {household : Household}
    {definition : TaskDefinition} {task result : TaskInstance} {ledger : Ledger}
    {entry : LedgerEntry} (acts : ActsOn db actor household definition task)
    (owner : entry.memberId = task.assigneeId) (signed : entry.createdBy = actor.id) :
    SignedBy (storeCall db result ledger) entry actor := by
  have owned : owner? db (.definition task.definitionId) = some actor.householdId := by
    rw [← acts.definitionOfTask, owner?_definition acts.definitionStored, acts.sameHousehold]
  obtain ⟨assignee, stored, named, home⟩ :=
    ownerIn_eq_some.mp (settled.assignee acts.taskStored owned)
  exact ⟨acts.actorStored, signed, assignee, stored, named.trans owner.symm, home⟩

theorem call_authorized (settled : SettledRows db) {clock : Clock} {actor : Member}
    {household : Household} {definition : TaskDefinition} {task result : TaskInstance}
    {ledger : Ledger} {call : ServiceCall}
    (acts : ActsOn db actor household definition task)
    (entitled : Entitled actor task call)
    (effect : CallEffect clock household definition actor task db.ledger call result ledger)
    {entry : LedgerEntry} (member : entry ∈ ledger.entries) :
    entry ∈ db.ledger.entries ∨ Authorized (storeCall db result ledger) entry := by
  have stored : result ∈ (storeCall db result ledger).instances.rows :=
    Table.mem_save.mpr (Or.inl ⟨rfl, task, acts.taskStored, effect.sameTask.id.symm⟩)
  cases effect with
  | completed actionable auto paid =>
      refine (mem_record paid member).imp_right ?_
      rintro rfl
      have asked : actor.role = .parent ∨ task.assigneeId = actor.id := entitled
      exact .completed (acts_signed settled acts rfl rfl) (asked.imp_right Eq.symm)
        ⟨stored, rfl, rfl⟩ rfl rfl rfl
  | approved inReview paid =>
      refine (mem_record paid member).imp_right ?_
      rintro rfl
      exact .completed (acts_signed settled acts rfl rfl) (Or.inl entitled)
        ⟨stored, rfl, rfl⟩ rfl rfl rfl
  | excuseApproved submitted paid =>
      unfold awardExcuseIfPolicy at paid
      cases policy : household.excusedPayoutPolicy with
      | excusedPaysNothing =>
          simp only [policy, excusePosting] at paid
          cases paid
          exact Or.inl member
      | excusedPaysPartial =>
          simp only [policy, excusePosting] at paid
          refine (mem_record paid member).imp_right ?_
          rintro rfl
          exact .excusedPartial (acts_signed settled acts rfl rfl) entitled
            ⟨stored, rfl, rfl⟩ rfl rfl rfl
      | excusedPaysFull =>
          simp only [policy, excusePosting] at paid
          refine (mem_record paid member).imp_right ?_
          rintro rfl
          exact .excusedFull (acts_signed settled acts rfl rfl) entitled
            ⟨stored, rfl, rfl⟩ rfl rfl rfl
  | reversedBeforeDue | reversedAfterDue => exact entitled.elim
  | sentToReview | excusedWhilePending | excusedWhileOverdue | deniedBeforeDue
  | deniedAfterDue | excuseDeniedInGrace | excuseDeniedExpired | cancelled =>
      exact Or.inl member

theorem parent_signed {parent member : Member} (byParent : ParentOf db parent member)
    {entry : LedgerEntry} (signed : entry.createdBy = parent.id)
    (owner : entry.memberId = member.id) (sameMembers : next.members = db.members) :
    SignedBy next entry parent := by
  refine ⟨?_, signed, member, ?_, owner.symm, byParent.sameHousehold⟩
  · rw [sameMembers]
    exact byParent.parentStored
  · rw [sameMembers]
    exact byParent.memberStored

theorem write_authorized (settled : SettledRows db) (write : Write db next)
    {entry : LedgerEntry} (member : entry ∈ next.ledger.entries) :
    entry ∈ db.ledger.entries ∨ Authorized next entry := by
  cases write with
  | called acts entitled effect => exact call_authorized settled acts entitled effect member
  | adjusted byParent recorded =>
      refine (mem_record recorded member).imp_right ?_
      rintro rfl
      exact .adjusted (parent_signed byParent rfl rfl rfl) byParent.role rfl rfl
  | @claimResolved clock body parent claimant claim resolved ledger byParent stored own
      resolution =>
      obtain ⟨sameId, sameMember, _, unpaid | paid⟩ := resolveClaim_same resolution
      · rw [unpaid] at member
        exact Or.inl member
      · refine (mem_record paid member).imp_right ?_
        rintro rfl
        have saved : resolved ∈ (db.claims.save resolved).rows :=
          Table.mem_save.mpr (Or.inl ⟨rfl, claim, stored, sameId.symm⟩)
        refine .fulfilled (parent_signed byParent rfl own rfl) byParent.role saved ?_ ?_ rfl
          rfl ?_
        · rw [sameId]
          rfl
        · exact sameMember.symm
        · rw [resolveClaim_points resolution]
          rfl
  | familyFounded founded =>
      rw [(foundFamily_rows founded).1] at member
      exact Or.inl member
  | generated | swept | claimed | definitionAdded | definitionSaved | seriesAdded
  | seriesSaved | householdSaved | teenAdded | memberSaved => exact Or.inl member

end Writes

/-! ## Every run -/

def LedgerAuthorized (db : Database) : Prop :=
  ∀ entry ∈ db.ledger.entries, Authorized db entry

theorem LedgerAuthorized.write {db next : Database} (authorized : LedgerAuthorized db)
    (settled : SettledRows db) (write : Write db next) : LedgerAuthorized next := by
  intro entry member
  rcases write_authorized settled write member with old | new
  · exact (authorized entry old).later write.membersStay (write_closed write) write.claimsStay
  · exact new

/-- In every state of every run each entry was written by a member of the household it
belongs to: a parent for an adjustment, a fulfilled claim or an excuse, a parent or the
assignee for a completion, and each for the row it names. -/
theorem ledger_authorized (pytz : String → Option PyDatetime.TzInfo)
    (verifyPassword : String → String → Bool) (events : List ServerEvent) :
    Always (serverStep pytz verifyPassword)
      (fun server => LedgerAuthorized server.world.db) emptyServer events :=
  writes_always LedgerAuthorized (List.forall_mem_nil _)
    (fun _ _ settled authorized write => authorized.write settled write) events

end KidsChores.Properties
