import Mathlib.Data.List.Infix
import KidsChores.Properties.AtMostOnce
import KidsChores.Properties.LedgerProvenance
import KidsChores.Properties.NoDeadEnds
import KidsChores.Properties.SafeRetries

/-!
# Records that last

Nothing is deleted.  Whatever a run goes on with, each row is still there under its id,
with the columns that say what it is about, and the ledger has only grown at its end.
-/

set_option autoImplicit false

namespace KidsChores.Properties

open KidsChores.Library
open KidsChores.Library.PyDatetime
open KidsChores.Library.PyText
open KidsChores.Models
open KidsChores.Planning
open KidsChores.Routers
open KidsChores.Routers.Auth
open KidsChores.Routers.Household
open KidsChores.Routers.Series
open KidsChores.Routers.Wallet
open KidsChores.Server
open KidsChores.Services.Ledger
open KidsChores.Services.RateLimit
open KidsChores.Services.StateMachine

/-! ## What stays of a row -/

structure SameMember (member later : Member) : Prop where
  id : later.id = member.id
  householdId : later.householdId = member.householdId
  role : later.role = member.role
  person : SamePerson member later

/-- Whose a definition is; an archived one is never taken up again. -/
structure SameDefinition (definition later : TaskDefinition) : Prop where
  id : later.id = definition.id
  householdId : later.householdId = definition.householdId
  assigneeId : later.assigneeId = definition.assigneeId
  createdBy : later.createdBy = definition.createdBy
  archived : definition.archivedAt.isSome → later.archivedAt.isSome

/-- What was asked for, by whom and for how much. -/
structure SameClaim (claim later : Claim) : Prop where
  id : later.id = claim.id
  memberId : later.memberId = claim.memberId
  points : later.points = claim.points
  requestedItem : later.requestedItem = claim.requestedItem

theorem SameMember.refl (member : Member) : SameMember member member :=
  ⟨rfl, rfl, rfl, rfl, rfl, rfl⟩

theorem SameMember.trans {first second third : Member} (early : SameMember first second)
    (late : SameMember second third) : SameMember first third :=
  ⟨late.id.trans early.id, late.householdId.trans early.householdId,
    late.role.trans early.role, late.person.displayName.trans early.person.displayName,
    late.person.birthdate.trans early.person.birthdate,
    late.person.pinHash.trans early.person.pinHash⟩

theorem SameDefinition.refl (definition : TaskDefinition) :
    SameDefinition definition definition :=
  ⟨rfl, rfl, rfl, rfl, fun archived => archived⟩

theorem SameDefinition.trans {first second third : TaskDefinition}
    (early : SameDefinition first second) (late : SameDefinition second third) :
    SameDefinition first third :=
  ⟨late.id.trans early.id, late.householdId.trans early.householdId,
    late.assigneeId.trans early.assigneeId, late.createdBy.trans early.createdBy,
    fun archived => late.archived (early.archived archived)⟩

theorem SameClaim.refl (claim : Claim) : SameClaim claim claim := ⟨rfl, rfl, rfl, rfl⟩

theorem SameClaim.trans {first second third : Claim} (early : SameClaim first second)
    (late : SameClaim second third) : SameClaim first third :=
  ⟨late.id.trans early.id, late.memberId.trans early.memberId, late.points.trans early.points,
    late.requestedItem.trans early.requestedItem⟩

theorem resolveClaim_sameClaim {clock : Clock} {parent : Member} {body : ClaimResolveRequest}
    {claim resolved : Claim} {ledger nextLedger : Ledger}
    (returned : resolveClaim clock parent body claim ledger = .ok (resolved, nextLedger)) :
    SameClaim claim resolved := by
  simp only [resolveClaim, bind, Except.bind, pure, Except.pure] at returned
  split at returned
  · cases paid : fulfilClaim ledger clock claim parent with
    | error raised =>
        rw [paid] at returned
        cases returned
    | ok posted =>
        rw [paid] at returned
        cases returned
        exact ⟨rfl, rfl, rfl, rfl⟩
  · cases returned
    exact ⟨rfl, rfl, rfl, rfl⟩

/-! ## What stays of a database -/

structure RecordsLast (db next : Database) : Prop where
  rows : RowsStay db next
  members : db.members.Stays SameMember next.members
  definitions : db.definitions.Stays SameDefinition next.definitions
  series : db.series.Stays SameSeries next.series
  windows : db.seriesInstances.Stays Eq next.seriesInstances
  claims : db.claims.Stays SameClaim next.claims
  ledger : db.ledger.entries <+: next.ledger.entries

section Writes

variable {db middle next : Database}

theorem RecordsLast.refl (db : Database) : RecordsLast db db where
  rows := .refl db
  members := .refl SameMember.refl _
  definitions := .refl SameDefinition.refl _
  series := .refl SameSeries.refl _
  windows := .refl (fun _ => rfl) _
  claims := .refl SameClaim.refl _
  ledger := List.prefix_rfl

theorem RecordsLast.trans (early : RecordsLast db middle) (late : RecordsLast middle next) :
    RecordsLast db next where
  rows := early.rows.trans late.rows
  members := early.members.trans (fun _ _ _ first second => first.trans second) late.members
  definitions := early.definitions.trans (fun _ _ _ first second => first.trans second)
    late.definitions
  series := early.series.trans (fun _ _ _ first second => first.trans second) late.series
  windows := early.windows.trans (fun _ _ _ first second => first.trans second) late.windows
  claims := early.claims.trans (fun _ _ _ first second => first.trans second) late.claims
  ledger := early.ledger.trans late.ledger

theorem foundFamily_grown {displayName subject : String} {provider : AuthProvider}
    {passwordHash : Option String} {response : TokenResponse}
    (founded : foundFamily db displayName provider subject passwordHash =
      .ok (response, next)) : ∀ member ∈ db.members.rows, member ∈ next.members.rows := by
  unfold foundFamily at founded
  split at founded
  · cases founded
  · cases founded
    exact fun member stored => List.mem_append_left _ stored

theorem record_prefix {ledger nextLedger : Ledger} {clock : Clock} {posting : Posting}
    (recorded : record ledger clock posting = .ok nextLedger) :
    ledger.entries <+: nextLedger.entries :=
  ⟨_, (record_ok recorded).1.symm⟩

theorem Write.recordsLast (write : Write db next) : RecordsLast db next := by
  have same := RecordsLast.refl db
  have rows := write.rowsStay
  cases write with
  | called acts _ effect =>
      refine { same with rows := rows, ledger := ?_ }
      rcases effect.posts with unpaid | ⟨_, recorded, _⟩
      · rw [unpaid]
        exact List.prefix_rfl
      · exact record_prefix recorded
  | generated | swept | householdSaved => exact { same with rows := rows }
  | teenAdded keyed =>
      exact { same with rows := rows, members := .append keyed SameMember.refl }
  | memberSaved stored sameId sameHousehold sameRole _ _ person =>
      exact { same with
        rows := rows
        members := .save SameMember.refl stored sameId
          ⟨sameId, sameHousehold, sameRole, person⟩ }
  | adjusted _ recorded => exact { same with rows := rows, ledger := record_prefix recorded }
  | claimed =>
      exact { same with rows := rows, claims := .append (fun _ => rfl) SameClaim.refl }
  | claimResolved _ stored _ resolution =>
      have sameClaim := resolveClaim_sameClaim resolution
      refine { same with
        rows := rows
        claims := .save SameClaim.refl stored sameClaim.id sameClaim
        ledger := ?_ }
      obtain ⟨_, _, _, unpaid | paid⟩ := resolveClaim_same resolution
      · rw [unpaid]
      · exact record_prefix paid
  | definitionAdded =>
      exact { same with
        rows := rows
        definitions := .append (fun _ => rfl) SameDefinition.refl }
  | definitionSaved stored parties archived =>
      exact { same with
        rows := rows
        definitions := .save SameDefinition.refl stored parties.id
          ⟨parties.id, parties.householdId, parties.assigneeId, parties.createdBy, archived⟩ }
  | seriesAdded =>
      exact { same with
        rows := rows
        definitions := .updateWhere (linkTo_id _) SameDefinition.refl
          fun _ => ⟨rfl, rfl, rfl, rfl, fun archived => archived⟩
        series := .append (fun _ => rfl) SameSeries.refl
        windows := .append (fun _ => rfl) fun _ => rfl }
  | seriesSaved stored sameSeries =>
      exact { same with
        rows := rows
        series := .save SameSeries.refl stored sameSeries.id sameSeries }
  | familyFounded founded =>
      have grown := foundFamily_grown founded
      obtain ⟨rest, _, _⟩ := foundFamily_rows founded
      rw [rest] at rows ⊢
      exact { same with
        rows := rows
        members := fun member stored => ⟨member, grown member stored, .refl member⟩ }

end Writes

/-- Between any two states of a run every record lasts. -/
theorem records_last (pytz : String → Option TzInfo)
    (verifyPassword : String → String → Bool) (before after : List ServerEvent) :
    RecordsLast (served pytz verifyPassword before).world.db
      (served pytz verifyPassword (before ++ after)).world.db :=
  served_relates RecordsLast.refl (fun _ _ _ early write => early.trans write.recordsLast)
    before after

/-! ## The PIN of a profile -/

/-- What `verify_member_pin` should answer for a profile with that PIN. -/
def pinAnswerFor (request : VerifyMemberPin) (pinHash : Option String) : VerifyPinResponse :=
  match pinHash with
  | none => ⟨false, false⟩
  | some pinHash => ⟨request.hashPin request.pin = pinHash, true⟩

section Pins

variable {db next : Database} {create : CreateTeenProfile} {verify : VerifyMemberPin}

theorem teen_pinHash (body : TeenProfileCreate) (hashPin : String → String)
    (household : Models.Household) (id : Uuid) :
    (body.teen hashPin household id).pinHash = body.pin.map hashPin := by
  unfold TeenProfileCreate.teen
  dsimp only
  cases sent : body.pin with
  | none => rfl
  | some text =>
      have digits := body.pinDigits text sent
      have some_ : text ≠ "" := by
        rintro rfl
        revert digits
        decide
      simp [truthy, some_]

theorem createTeenProfile_stored (returned : createTeenProfile create db = .ok next) :
    ∃ parent household, loadParent db create.memberId = .ok (parent, household) ∧
      ∃ teen ∈ next.members.rows, teen.id = db.members.freshKey ∧
        teen.householdId = household.id ∧ teen.pinHash = create.body.pin.map create.hashPin := by
  unfold createTeenProfile at returned
  obtain ⟨⟨parent, household⟩, loaded, returned⟩ := bind_ok returned
  refine ⟨parent, household, loaded, create.body.teen create.hashPin household
    db.members.freshKey, ?_, rfl, rfl, teen_pinHash _ _ _ _⟩
  dsimp only at returned
  split at returned
  · cases returned
  split at returned
  · cases returned
  split at returned
  · cases returned
  split at returned
  · cases returned
  · cases returned
    exact List.mem_append_right _ (List.mem_singleton.mpr rfl)

theorem verifyMemberPin_stored {caller target : Member} {counters : Counters}
    (families : Families db) (callerStored : caller ∈ db.members.rows)
    (asks : verify.memberId = caller.id) (targetStored : target ∈ db.members.rows)
    (names : verify.targetId = target.id) (sameHome : caller.householdId = target.householdId)
    (admitted : (checkRateLimit counters verify.now
      ("verify-pin:member:" ++ toString verify.targetId) verifyPinLimit).1 = true) :
    (verifyMemberPin verify db counters).1 = .ok (pinAnswerFor verify target.pinHash) := by
  obtain ⟨household, householdStored, home⟩ := families.homes caller callerStored
  have callerFound := db.members.find?_self callerStored
  have targetFound := db.members.find?_self targetStored
  have householdFound := db.households.find?_self householdStored
  rw [← asks] at callerFound
  rw [← names] at targetFound
  rw [home] at householdFound
  have own : target.householdId = household.id := sameHome.symm.trans home.symm
  simp only [verifyMemberPin, getCurrentMember, getCurrentHousehold, callerFound,
    householdFound, targetFound, admitted, own, bind, Except.bind, not_true, if_false, ne_eq,
    pinAnswerFor]
  cases target.pinHash with
  | none => rfl
  | some pinHash => rfl

end Pins

section Runs

variable (pytz : String → Option TzInfo) (verifyPassword : String → String → Bool)

/-- At any later time whoever asks in that household is answered by the PIN the profile was
made with: neither a link nor a new password nor a removal changes it. -/
theorem pins_answer (before between : List ServerEvent) (create : CreateTeenProfile)
    (next : Database) (parent : Member) (household : Models.Household) (caller : Member)
    (verify : VerifyMemberPin)
    (created : createTeenProfile create (served pytz verifyPassword before).world.db = .ok next)
    (loaded : loadParent (served pytz verifyPassword before).world.db create.memberId =
      .ok (parent, household))
    (names : verify.targetId = (served pytz verifyPassword before).world.db.members.freshKey) :
    let server := served pytz verifyPassword
      (before ++ .api (.createTeenProfile create) :: between)
    caller ∈ server.world.db.members.rows → caller.id = verify.memberId →
      caller.householdId = household.id →
      (checkRateLimit server.redis.counters verify.now
        ("verify-pin:member:" ++ toString verify.targetId) verifyPinLimit).1 = true →
      (verifyMemberPin verify server.world.db server.redis.counters).1 =
        .ok (pinAnswerFor verify (create.body.pin.map create.hashPin)) := by
  intro server callerStored asks home admitted
  obtain ⟨_, _, loadedToo, teen, stored, fresh, teenHome, hashed⟩ :=
    createTeenProfile_stored created
  rw [loaded] at loadedToo
  cases loadedToo
  have lasts := @served_relates pytz verifyPassword _ RecordsLast.refl
    (fun _ _ _ early write => early.trans write.recordsLast)
    (before ++ [.api (.createTeenProfile create)]) between
  rw [served_snoc, List.append_assoc] at lasts
  have committed : (serverStep pytz verifyPassword (served pytz verifyPassword before)
      (.api (.createTeenProfile create))).world.db = next := by
    simp only [serverStep, Api.apiStep, created, Api.commit]
  rw [committed] at lasts
  obtain ⟨later, laterStored, same⟩ := lasts.members teen stored
  rw [← hashed, ← same.person.pinHash]
  exact verifyMemberPin_stored (families_always pytz verifyPassword _).at_end callerStored
    asks.symm laterStored (names.trans (fresh.symm.trans same.id.symm))
    (home.trans (teenHome.symm.trans same.householdId.symm)) admitted

end Runs

def askPin : VerifyMemberPin where
  now := nightOf 2
  memberId := 1
  targetId := 2
  hashPin := id
  pin := "2468"

theorem pins_answer_sample :
    let server := served utcOnly (fun _ _ => false)
      ([registration] ++ .api (.createTeenProfile teenRequest) ::
        [.api (.createDefinition ⟨nightOf 1, nightOf 1, 1, dailyDishes⟩)])
    (verifyMemberPin askPin server.world.db server.redis.counters).1 = .ok ⟨true, true⟩ := by
  obtain ⟨next, created⟩ : ∃ next, createTeenProfile teenRequest
      (served utcOnly (fun _ _ => false) [registration]).world.db = .ok next :=
    isOk_iff.mp (by decide +kernel)
  exact pins_answer utcOnly (fun _ _ => false) [registration] _ teenRequest next
    registeredParent registeredFamily registeredParent askPin created (by decide +kernel)
    (by decide +kernel) (by decide +kernel) rfl rfl (by decide +kernel)

end KidsChores.Properties
