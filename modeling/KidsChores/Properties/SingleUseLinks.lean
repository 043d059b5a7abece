import Mathlib.Data.Fintype.Basic
import KidsChores.Library.Runs
import KidsChores.Routers.LinkRaces

/-!
# One link for each profile

A redemption reads its code and then deletes it, and the check that a profile has no
login looks at a text that the user chooses.  Every code and every profile is used once
as long as each update finds the row it read and an email that is no placeholder.
-/

set_option autoImplicit false

namespace KidsChores.Properties

open KidsChores.Library
open KidsChores.Library.Expiring
open KidsChores.Library.PyDatetime
open KidsChores.Library.Runs
open KidsChores.Models
open KidsChores.Routers
open KidsChores.Routers.Auth
open KidsChores.Routers.Household
open KidsChores.Routers.LinkRaces
open KidsChores.Services.Linking

/-- Each issued code led to one successful `link_account` at most, and each profile was
given credentials once at most. -/
structure SingleUse {Id : Type} (config : LinkConfig Id) : Prop where
  codes : ∀ issue, config.links.countP (fun link => link.1 = issue) ≤ 1
  profiles : ∀ memberId, config.links.countP (fun link => link.2 = memberId) ≤ 1

def checked? (request : LinkRequest) (phase : LinkPhase) : Option Uuid :=
  match request, phase with
  | .link _, .redeemed memberId _ => some memberId
  | .generate _ targetId _, .arrived => some targetId
  | _, _ => none

section Runs

variable {Id : Type} [DecidableEq Id] [Fintype Id]

def RefusesLinked (requests : Id → LinkRequest) (config : LinkConfig Id)
    (step : LinkStep Id) : Prop :=
  ∀ memberId ∈ checked? (requests step.id) (config.phase step.id),
    (∃ link ∈ config.links, link.2 = memberId) →
      (linkRaceStep requests config step).phase step.id = .refused

/-- An update that goes through finds the row as the request read it, and its email does
not begin like a placeholder. -/
def CleanUpdate (requests : Id → LinkRequest) (config : LinkConfig Id)
    (step : LinkStep Id) : Prop :=
  match requests step.id, config.phase step.id with
  | .link body, .emailFree member _ =>
      ∀ current ∈ config.db.members.find? member.id,
        ¬ UpdateWaits config step.id (withCredentials current body.email body.passwordHash) →
          ¬ SubjectTakenElsewhere config.db
              (withCredentials current body.email body.passwordHash) →
            current = member ∧ ¬ Pending member.householdId
              (withCredentials member body.email body.passwordHash)
  | _, _ => True

instance (requests : Id → LinkRequest) (config : LinkConfig Id) (step : LinkStep Id) :
    Decidable (CleanUpdate requests config step) := by
  unfold CleanUpdate
  split <;> infer_instance

end Runs

/-! ## The invariant -/

def claim? : LinkPhase → Option (Uuid × Nat)
  | .found memberId issue => some (memberId, issue)
  | .codeDeleted memberId issue => some (memberId, issue)
  | .redeemed memberId issue => some (memberId, issue)
  | .selected member issue => some (member.id, issue)
  | .emailFree member issue => some (member.id, issue)
  | .updated edited issue => some (edited.id, issue)
  | _ => none

def checkedRow? : LinkPhase → Option Member
  | .selected member _ => some member
  | .emailFree member _ => some member
  | _ => none

def ClaimsOwned (issues : List Uuid) (phase : LinkPhase) : Prop :=
  ∀ claim ∈ claim? phase, issues[claim.2]? = some claim.1

def CheckedPending (phase : LinkPhase) : Prop :=
  ∀ member ∈ checkedRow? phase, Pending member.householdId member

theorem CheckedPending.of_none {phase : LinkPhase} (unchecked : checkedRow? phase = none) :
    CheckedPending phase := by
  intro member checked
  rw [unchecked] at checked
  cases checked

/-- The open row will show that the profile is linked, and it was not linked before. -/
def OpensUnlinked (links : List (Nat × Uuid)) (phase : LinkPhase) : Prop :=
  ∀ row ∈ phase.row?, ¬ Pending row.householdId row ∧ ∀ link ∈ links, link.2 ≠ row.id

theorem OpensUnlinked.of_none {links : List (Nat × Uuid)} {phase : LinkPhase}
    (closed : phase.row? = none) : OpensUnlinked links phase := by
  intro row opened
  rw [closed] at opened
  cases opened

structure LinksRight {Id : Type} (config : LinkConfig Id) : Prop where
  codes : ∀ code cell, config.keys.codeKeys code = some cell →
    config.issues[config.lastIssue code]? = some cell.value
  claims : ∀ id, ClaimsOwned config.issues (config.phase id)
  listed : ∀ link ∈ config.links, config.issues[link.1]? = some link.2
  chosen : ∀ id, CheckedPending (config.phase id)
  settled : ∀ link ∈ config.links, ∀ row ∈ config.db.members.find? link.2,
    ¬ Pending row.householdId row
  rows : ∀ id, OpensUnlinked config.links (config.phase id)
  apart : ∀ id other, id ≠ other → ∀ row ∈ (config.phase id).row?,
    ∀ otherRow ∈ (config.phase other).row?, row.id ≠ otherRow.id
  once : ∀ memberId, config.links.countP (fun link => link.2 = memberId) ≤ 1

theorem LinksRight.singleUse {Id : Type} {config : LinkConfig Id}
    (right : LinksRight config) : SingleUse config := by
  refine ⟨fun issue => ?_, right.once⟩
  cases owner : config.issues[issue]? with
  | none =>
      have unused : config.links.countP (fun link => link.1 = issue) = 0 := by
        rw [List.countP_eq_zero]
        intro link member same
        have listed := right.listed link member
        rw [of_decide_eq_true same, owner] at listed
        cases listed
      omega
  | some memberId =>
      refine le_trans (List.countP_mono_left ?_) (right.once memberId)
      intro link member same
      have listed := right.listed link member
      rw [of_decide_eq_true same, owner] at listed
      exact decide_eq_true (Option.some.inj listed).symm

theorem linksRight_before {Id : Type} (db : Database) :
    LinksRight (beforeLinks db : LinkConfig Id) where
  codes _ _ stored := by cases stored
  claims _ _ claimed := by cases claimed
  listed _ member := by cases member
  chosen _ _ chosen := by cases chosen
  settled _ member := by cases member
  rows _ _ row := by cases row
  apart _ _ _ _ row := by cases row
  once _ := Nat.zero_le 1

section Steps

variable {Id : Type} [DecidableEq Id] {config : LinkConfig Id} {id : Id}

theorem phase_enter_self (phase : LinkPhase) : (config.enter id phase).phase id = phase :=
  Function.update_self ..

theorem phase_enter_other {other : Id} (different : other ≠ id) (phase : LinkPhase) :
    (config.enter id phase).phase other = config.phase other :=
  Function.update_of_ne different ..

theorem forall_phase_enter (motive : LinkPhase → Prop) {phase : LinkPhase}
    (old : ∀ other, motive (config.phase other)) (new : motive phase) :
    ∀ other, motive ((config.enter id phase).phase other) := by
  intro other
  by_cases same : other = id
  · rw [same, phase_enter_self]
    exact new
  · rw [phase_enter_other same]
    exact old other

/-- Distinct rows are open where the new phase opens none that another one has. -/
theorem apart_enter (right : LinksRight config) {phase : LinkPhase}
    (new : ∀ row ∈ phase.row?, ∀ other, other ≠ id → ∀ otherRow ∈ (config.phase other).row?,
      otherRow.id ≠ row.id) :
    ∀ first second, first ≠ second →
      ∀ row ∈ ((config.enter id phase).phase first).row?,
        ∀ otherRow ∈ ((config.enter id phase).phase second).row?,
          row.id ≠ otherRow.id := by
  intro first second different row member otherRow otherMember
  by_cases isFirst : first = id
  · subst isFirst
    rw [phase_enter_self] at member
    rw [phase_enter_other different.symm] at otherMember
    exact (new row member second different.symm otherRow otherMember).symm
  · rw [phase_enter_other isFirst] at member
    by_cases isSecond : second = id
    · subst isSecond
      rw [phase_enter_self] at otherMember
      exact new otherRow otherMember first isFirst row member
    · rw [phase_enter_other isSecond] at otherMember
      exact right.apart first second different row member otherRow otherMember

theorem apart_closed (right : LinksRight config) {phase : LinkPhase}
    (closed : phase.row? = none) :
    ∀ first second, first ≠ second →
      ∀ row ∈ ((config.enter id phase).phase first).row?,
        ∀ otherRow ∈ ((config.enter id phase).phase second).row?,
          row.id ≠ otherRow.id := by
  refine apart_enter right fun row opened => ?_
  rw [closed] at opened
  cases opened

/-- A command that stores no code and leaves no update open. -/
theorem LinksRight.moved (right : LinksRight config) {phase : LinkPhase} {keys : LinkKeys}
    (fewer : ∀ code cell, keys.codeKeys code = some cell →
      config.keys.codeKeys code = some cell)
    (claims : ClaimsOwned config.issues phase) (chosen : CheckedPending phase)
    (closed : phase.row? = none) :
    LinksRight { config.enter id phase with keys := keys } where
  codes code cell stored := right.codes code cell (fewer code cell stored)
  claims := forall_phase_enter _ right.claims claims
  listed := right.listed
  chosen := forall_phase_enter _ right.chosen chosen
  settled := right.settled
  rows := forall_phase_enter _ right.rows (.of_none closed)
  apart := apart_closed right closed
  once := right.once

theorem LinksRight.entered (right : LinksRight config) {phase : LinkPhase}
    (claims : ClaimsOwned config.issues phase) (chosen : CheckedPending phase)
    (closed : phase.row? = none) : LinksRight (config.enter id phase) :=
  right.moved (fun _ _ stored => stored) claims chosen closed

theorem LinksRight.refused (right : LinksRight config) :
    LinksRight (config.enter id .refused) :=
  right.entered nofun (.of_none rfl) rfl

theorem delete_fewer {store : Store String Uuid Instant} {deleted code : String}
    {cell : Cell Uuid Instant} (stored : store.delete deleted code = some cell) :
    store code = some cell := by
  unfold Store.delete at stored
  by_cases same : code = deleted
  · rw [same, Function.update_self] at stored
    cases stored
  · rwa [Function.update_of_ne same] at stored

theorem issue_kept {issues : List Uuid} {issue : Nat} {memberId later : Uuid}
    (listed : issues[issue]? = some memberId) :
    (issues ++ [later])[issue]? = some memberId := by
  obtain ⟨below, _⟩ := List.getElem?_eq_some_iff.mp listed
  rw [List.getElem?_append_left below]
  exact listed

theorem LinksRight.issued (right : LinksRight config) {target : Member} {code : String}
    {now : Instant} :
    LinksRight { config.enter id (.codeStored target) with
      keys := config.keys.setCode now code target.id
      issues := config.issues ++ [target.id]
      lastIssue := Function.update config.lastIssue code config.issues.length } where
  codes asked cell stored := by
    simp only [LinkKeys.setCode, Store.set] at stored
    by_cases same : asked = code
    · rw [same, Function.update_self] at stored
      cases stored
      simp [same]
    · rw [Function.update_of_ne same] at stored
      simp only [Function.update_of_ne same]
      exact issue_kept (right.codes asked cell stored)
  claims := forall_phase_enter (ClaimsOwned (config.issues ++ [target.id]))
    (fun other claim claimed => issue_kept (right.claims other claim claimed)) nofun
  listed link member := issue_kept (right.listed link member)
  chosen := forall_phase_enter _ right.chosen (.of_none rfl)
  settled := right.settled
  rows := forall_phase_enter _ right.rows (.of_none rfl)
  apart := apart_closed right rfl
  once := right.once

/-- An update that finds the row it read opens a row that was never linked. -/
theorem LinksRight.updated (right : LinksRight config) {body : LinkBody} {member : Member}
    {issue : Nat} (phase : config.phase id = .emailFree member issue)
    (found : config.db.members.find? member.id = some member)
    (free : ¬ UpdateWaits config id (withCredentials member body.email body.passwordHash))
    (real : ¬ Pending member.householdId
      (withCredentials member body.email body.passwordHash)) :
    LinksRight (config.enter id
      (.updated (withCredentials member body.email body.passwordHash) issue)) where
  codes := right.codes
  claims := by
    refine forall_phase_enter _ right.claims ?_
    have claimed := right.claims id
    rw [phase] at claimed
    exact claimed
  listed := right.listed
  chosen := forall_phase_enter _ right.chosen (.of_none rfl)
  settled := right.settled
  rows := by
    refine forall_phase_enter _ right.rows ?_
    rintro row opened
    cases Option.some.inj opened
    refine ⟨real, fun link member_ same => ?_⟩
    have pending := right.chosen id
    rw [phase] at pending
    refine right.settled link member_ member ?_ (pending member rfl)
    rw [same]
    exact found
  apart := by
    refine apart_enter right ?_
    intro row opened other different otherRow otherOpened same
    cases Option.some.inj opened
    exact free ⟨other, different, otherRow, otherOpened, Or.inl same⟩
  once := right.once

theorem LinksRight.committed (right : LinksRight config) {edited : Member} {issue : Nat}
    (phase : config.phase id = .updated edited issue) :
    LinksRight { config.enter id .linked with
      db := { config.db with members := config.db.members.save edited }
      links := config.links ++ [(issue, edited.id)] } where
  settled link member row found := by
    obtain ⟨real, _⟩ := right.rows id edited (by rw [phase]; rfl)
    by_cases own : link.2 = edited.id
    · obtain ⟨stored, rowId⟩ := Table.find?_eq_some_iff.mp (Option.mem_def.mp found)
      rcases Table.mem_save.mp stored with ⟨rfl, _⟩ | ⟨_, different⟩
      · exact real
      · exact absurd (rowId.trans own) different
    · have old : link ∈ config.links := by
        rcases List.mem_append.mp member with old | new
        · exact old
        · exact absurd (by rw [List.mem_singleton.mp new]) own
      rw [Option.mem_def, Table.find?_save_other (Ne.symm own)] at found
      exact right.settled link old row found
  rows other row opened := by
    by_cases same : other = id
    · subst same
      rw [show ({ config.enter other .linked with
        db := { config.db with members := config.db.members.save edited }
        links := config.links ++ [(issue, edited.id)] } : LinkConfig Id).phase other =
          .linked from phase_enter_self _] at opened
      cases opened
    · have before : row ∈ (config.phase other).row? := by
        rw [← phase_enter_other same .linked]
        exact opened
      obtain ⟨real, unlinked⟩ := right.rows other row before
      refine ⟨real, fun link member => ?_⟩
      rcases List.mem_append.mp member with old | new
      · exact unlinked link old
      · rw [List.mem_singleton.mp new]
        exact right.apart id other (Ne.symm same) edited (by rw [phase]; rfl) row before
  once memberId := by
    obtain ⟨_, unlinked⟩ := right.rows id edited (by rw [phase]; rfl)
    rw [List.countP_append]
    by_cases own : edited.id = memberId
    · have none_before : config.links.countP (fun link => link.2 = memberId) = 0 := by
        rw [List.countP_eq_zero]
        intro link member same
        exact unlinked link member ((of_decide_eq_true same).trans own.symm)
      rw [none_before]
      simp [own]
    · simpa [own] using right.once memberId
  codes := right.codes
  claims := forall_phase_enter _ right.claims nofun
  listed link member := by
    rcases List.mem_append.mp member with old | new
    · exact right.listed link old
    · rw [List.mem_singleton.mp new]
      exact right.claims id (edited.id, issue) (by rw [phase]; rfl)
  chosen := forall_phase_enter _ right.chosen (.of_none rfl)
  apart := apart_closed right rfl

theorem LinksRight.generateNext (right : LinksRight config) {now : Instant}
    {memberId targetId : Uuid} {drawn : Fin 1000000} :
    LinksRight (LinkRaces.generateNext config id now memberId targetId drawn
      (config.phase id)) := by
  cases config.phase id with
  | arrived =>
      simp only [LinkRaces.generateNext]
      split
      · exact right.refused
      · exact right.entered nofun (.of_none rfl) rfl
  | targeted target => exact right.entered nofun (.of_none rfl) rfl
  | previousRead target previous =>
      refine right.moved ?_ nofun (.of_none rfl) rfl
      intro code cell stored
      cases previous with
      | none => exact stored
      | some previousCode => exact delete_fewer stored
  | cleared target => exact right.issued
  | codeStored target =>
      exact right.moved (fun _ _ stored => stored) nofun (.of_none rfl) rfl
  | _ => exact right

variable [Fintype Id]

theorem LinksRight.linkNext (right : LinksRight config) {body : LinkBody} {now : Instant}
    (clean : ∀ member issue, config.phase id = .emailFree member issue →
      ∀ current ∈ config.db.members.find? member.id,
        ¬ UpdateWaits config id (withCredentials current body.email body.passwordHash) →
          ¬ SubjectTakenElsewhere config.db
              (withCredentials current body.email body.passwordHash) →
            current = member ∧ ¬ Pending member.householdId
              (withCredentials member body.email body.passwordHash)) :
    LinksRight (LinkRaces.linkNext config id now body (config.phase id)) := by
  have claimed := right.claims id
  cases phase : config.phase id with
  | arrived =>
      simp only [LinkRaces.linkNext]
      split
      · exact right.refused
      · split
        · exact right.refused
        · rename_i memberId found
          refine right.entered ?_ (.of_none rfl) rfl
          rintro claim ⟨⟩
          obtain ⟨cell, stored, rfl⟩ := Store.stored_of_get found
          exact right.codes body.code cell stored
  | found memberId issue =>
      rw [phase] at claimed
      exact right.moved (fun _ _ => delete_fewer) claimed (.of_none rfl) rfl
  | codeDeleted memberId issue =>
      rw [phase] at claimed
      exact right.moved (fun _ _ stored => stored) claimed (.of_none rfl) rfl
  | redeemed memberId issue =>
      rw [phase] at claimed
      simp only [LinkRaces.linkNext]
      split
      · exact right.refused
      · rename_i member found
        split
        · rename_i checked
          obtain rfl : member.id = memberId := Table.key_of_find? found
          refine right.entered claimed ?_ rfl
          rintro _ ⟨⟩
          exact checked.2
        · exact right.refused
  | selected member issue =>
      rw [phase] at claimed
      have chosen := right.chosen id
      rw [phase] at chosen
      simp only [LinkRaces.linkNext]
      split
      · exact right.refused
      · exact right.entered claimed chosen rfl
  | emailFree member issue =>
      simp only [LinkRaces.linkNext, updateRow]
      split
      · exact right.refused
      · rename_i current found
        split
        · exact right
        · rename_i free
          split
          · exact right.refused
          · rename_i untaken
            obtain ⟨rfl, real⟩ := clean member issue phase current found free untaken
            exact right.updated phase found free real
  | updated edited issue => exact right.committed phase
  | _ => exact right

variable {requests : Id → LinkRequest}

theorem LinksRight.step (right : LinksRight config) {step : LinkStep Id}
    (clean : CleanUpdate requests config step) :
    LinksRight (linkRaceStep requests config step) := by
  unfold linkRaceStep
  cases request : requests step.id with
  | link body =>
      refine right.linkNext fun member issue phase => ?_
      simpa only [CleanUpdate, request, phase] using clean
  | generate memberId targetId drawn => exact right.generateNext

theorem LinksRight.refusesLinked (right : LinksRight config) (step : LinkStep Id) :
    RefusesLinked requests config step := by
  rintro memberId checked ⟨link, member, rfl⟩
  have settled := right.settled link member
  unfold linkRaceStep
  cases request : requests step.id with
  | link body =>
      cases phase : config.phase step.id with
      | redeemed memberId issue =>
          rw [request, phase] at checked
          cases checked
          simp only [LinkRaces.linkNext]
          split
          · exact phase_enter_self _
          · rename_i row found
            rw [if_neg fun good => settled row found good.2]
            exact phase_enter_self _
      | _ =>
          rw [request, phase] at checked
          cases checked
  | generate memberId targetId drawn =>
      cases phase : config.phase step.id with
      | arrived =>
          rw [request, phase] at checked
          cases checked
          simp only [LinkRaces.generateNext]
          split
          · exact phase_enter_self _
          · rename_i target loaded
            simp only [bind, Except.bind] at loaded
            split at loaded
            · cases loaded
            · obtain ⟨found, own, _, _, pending⟩ := linkTarget_ok loaded
              rw [← own] at pending
              exact absurd pending (settled target found)
      | _ =>
          rw [request, phase] at checked
          cases checked

end Steps

/-- In every interleaving whose updates are clean, each code and each profile is used
once, and requests for a linked profile are refused. -/
theorem links_single_use {Id : Type} [DecidableEq Id] [Fintype Id]
    (requests : Id → LinkRequest) (db : Database) {schedule : List (LinkStep Id)}
    (clean : EachMeets (linkRaceStep requests) (CleanUpdate requests) (beforeLinks db)
      schedule) :
    Always (linkRaceStep requests) SingleUse (beforeLinks db) schedule ∧
      EachMeets (linkRaceStep requests) (RefusesLinked requests) (beforeLinks db)
        schedule :=
  ⟨(guarded_always LinksRight (fun _ _ right meets => right.step meets)
      (linksRight_before db) clean).imp fun _ right => right.singleUse,
    guarded_eachMeets LinksRight (fun _ _ right meets => right.step meets)
      (fun _ step right _ => right.refusesLinked step) (linksRight_before db) clean⟩

/-! ## Three requests -/

/-- The sample family with the teen's placeholder. -/
def pendingFamily : Database :=
  { sampleDatabase sampleDefinition sampleTask with
    members := ⟨[sampleParent, { sampleTeen with authSubject := "pending-1-Teen" }],
      by decide⟩ }

/-- A code for the teen and two redemptions of it, the first one with the email. -/
def codeAndTwoLinks (email : String) : Fin 3 → LinkRequest
  | 0 => .generate 1 2 7
  | 1 => .link ⟨true, "000007", email, "a"⟩
  | 2 => .link ⟨true, "000007", "teen@example.com", "b"⟩

/-- Each request takes its steps, in the order of the list. -/
def turns (ids : List (Fin 3)) : List (LinkStep (Fin 3)) := ids.map fun id => ⟨id, 0⟩

def inTurn : List (LinkStep (Fin 3)) :=
  turns [0, 0, 0, 0, 0, 1, 1, 1, 1, 1, 1, 1, 2, 2, 2, 2, 2, 2, 2]

theorem links_single_use_in_turn :
    let requests := codeAndTwoLinks "first@example.com"
    Always (linkRaceStep requests) SingleUse (beforeLinks pendingFamily) inTurn ∧
      EachMeets (linkRaceStep requests) (RefusesLinked requests) (beforeLinks pendingFamily)
        inTurn :=
  links_single_use (codeAndTwoLinks "first@example.com") pendingFamily (by decide +kernel)

/-- Both redemptions read the code before either deletes it. -/
def bothRedeem : List (LinkStep (Fin 3)) :=
  turns [0, 0, 0, 0, 0, 1, 2, 1, 1, 1, 1, 2, 2, 2, 2, 1, 1, 2, 2]

/-- A second code for the teen, who was linked under the first one. -/
def twoCodes : Fin 4 → LinkRequest
  | 0 => .generate 1 2 7
  | 1 => .link ⟨true, "000007", "pending-1-teen@example.com", "a"⟩
  | 2 => .generate 1 2 8
  | 3 => .link ⟨true, "000008", "teen@example.com", "b"⟩

/-- One code links the profile twice, and so do two codes after an email that begins
like the placeholder. -/
theorem links_used_twice :
    (∃ config, config = runFrom (linkRaceStep (codeAndTwoLinks "first@example.com"))
        (beforeLinks pendingFamily) bothRedeem ∧
      config.links = [(0, 2), (0, 2)] ∧ ¬ SingleUse config) ∧
    ∃ config, config = runFrom (linkRaceStep twoCodes) (beforeLinks pendingFamily)
        ([0, 0, 0, 0, 0, 1, 1, 1, 1, 1, 1, 1, 2, 2, 2, 2, 2, 3, 3, 3, 3, 3, 3, 3].map
          fun id => ⟨id, 0⟩) ∧
      config.links = [(0, 2), (1, 2)] ∧ ¬ SingleUse config := by
  refine ⟨⟨_, rfl, by decide +kernel, fun single => ?_⟩,
    ⟨_, rfl, by decide +kernel, fun single => ?_⟩⟩
  · have once := single.profiles 2
    revert once
    decide +kernel
  · have once := single.profiles 2
    revert once
    decide +kernel

end KidsChores.Properties
