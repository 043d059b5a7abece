import KidsChores.Routers.Wallet

/-!
# Claims and their debits

A claim's row and its `claim_fulfilled` entries, over every interleaving of
resolve requests.  A claim stays debited as its status says exactly as long as
no request commits over a fulfilled claim.
-/

set_option autoImplicit false

namespace KidsChores.Properties

open KidsChores.Models
open KidsChores.Library
open KidsChores.Library.ReadCommitted
open KidsChores.Library.Runs
open KidsChores.Services.Ledger
open KidsChores.Session
open KidsChores.Routers.Wallet

def debits (ledger : Ledger) (claimId : Uuid) : List (Uuid × Int) :=
  (ledger.entries.filter fun entry =>
      entry.entryType = .claimFulfilled ∧ entry.claimId = some claimId).map
    fun entry => (entry.memberId, entry.delta)

abbrev ClaimView := Option Claim × List (Uuid × Int)

def claimView (claimId : Uuid) (db : Database) : ClaimView :=
  (db.claims.find? claimId, debits db.ledger claimId)

/-- At most one debit; one of the claim's points when it is fulfilled, and none
when it is pending or declined. -/
def DebitedAsStatusSays (_ : Uuid) (view : ClaimView) : Prop :=
  ∀ claim ∈ view.1, view.2.length ≤ 1 ∧
    (claim.status = .fulfilled → view.2 = [(claim.memberId, -claim.points)]) ∧
    (claim.status = .pending ∨ claim.status = .declined → view.2 = [])

instance (claimId : Uuid) (view : ClaimView) :
    Decidable (DebitedAsStatusSays claimId view) := by
  unfold DebitedAsStatusSays
  infer_instance

theorem debitedAsStatusSays_some {claimId : Uuid} {claim : Claim}
    {posted : List (Uuid × Int)} :
    DebitedAsStatusSays claimId (some claim, posted) ↔
      posted = if claim.status = .fulfilled then
        [(claim.memberId, -claim.points)] else [] := by
  constructor
  · intro debited
    obtain ⟨_, fulfilled, open_⟩ := debited claim rfl
    cases status : claim.status with
    | fulfilled => exact fulfilled status
    | pending => exact open_ (Or.inl status)
    | declined => exact open_ (Or.inr status)
  · rintro rfl other same
    cases same
    cases claim.status <;> simp

/-! ## The ledger at a commit -/

theorem debits_appended {ledger next : Ledger} {posted : List LedgerEntry}
    (appended : next.entries = ledger.entries ++ posted) (claimId : Uuid) :
    debits next claimId = debits ledger claimId ++
      (posted.filter fun entry =>
          entry.entryType = .claimFulfilled ∧ entry.claimId = some claimId).map
        fun entry => (entry.memberId, entry.delta) := by
  simp only [debits, appended, List.filter_append, List.map_append]

/-- A claim's entry has no key in either unique index, so it is never refused. -/
theorem appendPosted_resolution (request : ResolveRequest) (claim : Claim)
    (balance : Int) (ledger : Ledger) :
    (appendPosted ledger (resolution request claim balance).2).entries =
      ledger.entries ++ (resolution request claim balance).2 := by
  unfold resolution
  split
  · apply appendPosted_free
    rintro earlier member ⟨_, ⟨isSome, same⟩ | ⟨isSome, same⟩⟩
    · rw [same] at isSome
      cases isSome
    · rw [same] at isSome
      cases isSome
  · simp [appendPosted]

def debitOf (request : ResolveRequest) (claim : Claim) : List (Uuid × Int) :=
  if request.body.approve then [(claim.memberId, -claim.points)] else []

theorem debits_resolution (request : ResolveRequest) (claim : Claim)
    (balance : Int) (ledger : Ledger) (claimId : Uuid) :
    debits (appendPosted ledger (resolution request claim balance).2) claimId =
      debits ledger claimId ++
        if claim.id = claimId then debitOf request claim else [] := by
  rw [debits_appended (appendPosted_resolution request claim balance ledger)]
  unfold resolution debitOf
  cases request.body.approve with
  | true =>
      by_cases own : claim.id = claimId
      · simp [own, fulfilClaimPosting, Posting.entry]
      · simp [own, fulfilClaimPosting, Posting.entry]
  | false => simp

/-! ## The discipline of the requests -/

/-- A copy and the committed claim agree on whom the claim debits, and for how
much. -/
def ClaimCopy (claimId : Uuid) (seen : Option Claim) (view : ClaimView) : Prop :=
  ∀ claim, seen = some claim → claim.id = claimId ∧
    ∃ row, view.1 = some row ∧ row.memberId = claim.memberId ∧
      row.points = claim.points

/-- The commit of a staged resolution, seen from its claim and from the others. -/
structure ClaimCommitted (request : ResolveRequest) (seen : Option Claim)
    (db next : Database) (claim resolved row : Claim) (balance : Int) : Prop where
  copied : seen = some claim
  status : resolved.status = (resolution request claim balance).1
  found : db.claims.find? request.claimId = some row
  sameMember : row.memberId = claim.memberId
  samePoints : row.points = claim.points
  ownView : claimView request.claimId next =
    (some (updateClaim claim resolved row),
      debits db.ledger request.claimId ++ debitOf request claim)
  others : ∀ claimId, claimId ≠ request.claimId →
    claimView claimId next = claimView claimId db

theorem claim_commit_staged {request : ResolveRequest} {seen : Option Claim}
    {before db : Database} {change : Database → Database}
    (staged : request.stage seen before = some change)
    (copy : ClaimCopy request.claimId seen (claimView request.claimId db)) :
    ∃ claim resolved row balance,
      ClaimCommitted request seen db (change db) claim resolved row balance := by
  obtain ⟨claim, resolved, balance, copied, status, rfl⟩ := resolve_stage_ok staged
  obtain ⟨ownId, row, found, sameMember, samePoints⟩ := copy claim copied
  have rowFound : db.claims.find? request.claimId = some row := found
  have rowKey : row.id = request.claimId := Table.key_of_find? rowFound
  refine ⟨claim, resolved, row, balance, copied, status, rowFound, sameMember,
    samePoints, ?_, ?_⟩
  · have saved : (db.claims.save (updateClaim claim resolved row)).find?
        request.claimId = some (updateClaim claim resolved row) :=
      Table.find?_save_same rowFound rowKey
    simp only [claimView, writeClaim, rowFound, debits_resolution, ownId, if_true,
      saved]
  · intro claimId different
    have apart : (updateClaim claim resolved row).id ≠ claimId := by
      change row.id ≠ claimId
      rw [rowKey]
      exact Ne.symm different
    have other : claim.id ≠ claimId := by
      rw [ownId]
      exact Ne.symm different
    simp only [claimView, writeClaim, rowFound, debits_resolution, other, if_false,
      List.append_nil]
    rw [Table.find?_save_other apart]

def claimDiscipline {Id : Type} (requests : Id → ResolveRequest) :
    Discipline (fun id => (requests id).transaction) ClaimView where
  view := claimView
  Linked := ClaimCopy
  loads := by
    intro id db claim found
    have stored := (findClaim?_ok found).1
    exact ⟨Table.key_of_find? stored, claim, stored, rfl, rfl⟩
  frame := by
    intro id seen before change db staged _ copy
    obtain ⟨claim, resolved, row, balance, committed⟩ :=
      claim_commit_staged staged copy
    exact committed.others
  kept := by
    intro id seen before change db staged _ copy other otherCopy
    obtain ⟨claim, resolved, row, balance, committed⟩ :=
      claim_commit_staged staged copy
    intro otherClaim otherCopied
    obtain ⟨ownId, otherRow, found, sameMember, samePoints⟩ :=
      otherCopy otherClaim otherCopied
    have sameRow : otherRow = row :=
      Option.some.inj (found.symm.trans committed.found)
    subst sameRow
    exact ⟨ownId, updateClaim claim resolved otherRow,
      congrArg Prod.fst committed.ownView, sameMember, samePoints⟩

/-! ## Every schedule -/

/-- An approval neither read nor overwrites a fulfilled claim; a decline
overwrites one only when its copy was declined, so that it writes no status. -/
def ResolvesOpen (request : ResolveRequest) (seen : Option Claim)
    (view : ClaimView) : Prop :=
  ∀ claim ∈ seen, ∀ row ∈ view.1,
    if request.body.approve then
      claim.status ≠ .fulfilled ∧ row.status ≠ .fulfilled
    else row.status ≠ .fulfilled ∨ claim.status = .declined

instance (request : ResolveRequest) (seen : Option Claim) (view : ClaimView) :
    Decidable (ResolvesOpen request seen view) := by
  unfold ResolvesOpen
  infer_instance

/-- Claims as `submit_claim` leaves them. -/
def ClaimsSubmitted (db : Database) : Prop :=
  ∀ claim ∈ db.claims.rows, claim.status = .pending ∧
    debits db.ledger claim.id = []

theorem ClaimsSubmitted.debited {db : Database} (submitted : ClaimsSubmitted db)
    (claimId : Uuid) : DebitedAsStatusSays claimId (claimView claimId db) := by
  cases found : db.claims.find? claimId with
  | none =>
      intro claim member
      simp [claimView, found] at member
  | some claim =>
      obtain ⟨member, rfl⟩ := Table.find?_eq_some_iff.mp found
      obtain ⟨pending, none_yet⟩ := submitted claim member
      rw [claimView, found, debitedAsStatusSays_some, none_yet, pending]
      rfl

theorem resolve_commit_exact {Id : Type} (requests : Id → ResolveRequest) :
    CommitStep (claimDiscipline requests) fun id seen old new =>
      DebitedAsStatusSays (requests id).claimId old →
        (DebitedAsStatusSays (requests id).claimId new ↔
          ResolvesOpen (requests id) seen old) := by
  intro id seen before change db staged _ copy debited
  obtain ⟨claim, resolved, row, balance, committed⟩ :=
    claim_commit_staged staged copy
  have oldView : claimView (requests id).claimId db =
      (some row, debits db.ledger (requests id).claimId) := by
    simp only [claimView, committed.found]
  change DebitedAsStatusSays _ (claimView (requests id).claimId db) at debited
  change DebitedAsStatusSays _ (claimView (requests id).claimId (change db)) ↔
    ResolvesOpen _ seen (claimView (requests id).claimId db)
  rw [oldView, debitedAsStatusSays_some] at debited
  rw [committed.ownView, debitedAsStatusSays_some, oldView, committed.copied,
    debited]
  have status : (updateClaim claim resolved row).status =
      written claim.status (resolution (requests id) claim balance).1 row.status := by
    rw [← committed.status]
    rfl
  have member : (updateClaim claim resolved row).memberId = claim.memberId :=
    committed.sameMember
  have points : (updateClaim claim resolved row).points = claim.points :=
    committed.samePoints
  rw [status, member, points, committed.sameMember, committed.samePoints]
  unfold resolution debitOf ResolvesOpen written
  cases (requests id).body.approve with
  | true => cases read : claim.status <;> cases old : row.status <;> simp [read, old]
  | false => cases read : claim.status <;> cases old : row.status <;> simp [read, old]

theorem debited_as_status_says_iff {Id : Type} [DecidableEq Id]
    (requests : Id → ResolveRequest) (db : Database) (submitted : ClaimsSubmitted db)
    (schedule : List Id) :
    Always (step fun id => (requests id).transaction)
        (EveryRow (claimDiscipline requests) DebitedAsStatusSays) (opening db)
        schedule ↔
      EachMeets (step fun id => (requests id).transaction)
        (CommitMeets (claimDiscipline requests) fun id => ResolvesOpen (requests id))
        (opening db) schedule :=
  always_rows_iff (resolve_commit_exact requests) submitted.debited schedule

/-! ## A claim approved twice -/

def sampleClaim : Claim :=
  { id := 1, memberId := 2, points := 5, requestedItem := "Cinema" }

def claimDatabase : Database where
  members := sampleMembers
  claims := ⟨[sampleClaim], List.nodup_singleton _⟩

def approveTwice (second : Bool) : ResolveRequest where
  clock := if second then ⟨2, 2⟩ else ⟨1, 1⟩
  parent := sampleParent
  household := sampleHousehold
  claimId := 1
  body := { approve := true }

theorem claimsSubmitted_claimDatabase : ClaimsSubmitted claimDatabase := by
  unfold ClaimsSubmitted
  decide

/-- One after the other, no interleaving: two debits for one claim. -/
theorem approving_twice_debits_twice :
    ClaimsSubmitted claimDatabase ∧
      ¬ Always (step fun id => (approveTwice id).transaction)
        (EveryRow (claimDiscipline approveTwice) DebitedAsStatusSays)
        (opening claimDatabase) [false, false, false, true, true, true] := by
  refine ⟨claimsSubmitted_claimDatabase, ?_⟩
  intro debited
  have doubled := debited.at_end 1
  exact absurd doubled (by decide)

theorem approving_once_debits_once :
    Always (step fun id => (approveTwice id).transaction)
      (EveryRow (claimDiscipline approveTwice) DebitedAsStatusSays)
      (opening claimDatabase) [false, false, false] := by
  refine (debited_as_status_says_iff approveTwice _ claimsSubmitted_claimDatabase
    _).mpr ⟨?_, ?_, ?_, trivial⟩
  · intro seen change phase
    cases phase
  · intro seen change phase
    cases phase
  · intro seen change phase
    cases phase
    decide

end KidsChores.Properties
