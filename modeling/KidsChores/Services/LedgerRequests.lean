import Mathlib.Data.Fintype.Defs
import KidsChores.Library.RunningTotal
import KidsChores.Services.Ledger

/-!
# Overlapping ledger writers

The requests that write to the ledger, statement by statement: each writer sends
the `SUM` and later the `INSERT`, and the request commits at its end.  An index
key that another open transaction has inserted makes the insert wait for it.
-/

set_option autoImplicit false

namespace KidsChores.Services.LedgerRequests

open KidsChores.Models
open KidsChores.Library.PyText
open KidsChores.Library.RunningTotal
open KidsChores.Library.Runs
open KidsChores.Services.Ledger

/-- A call of one of the writers. -/
inductive LedgerWrite where
  | awardTaskCompletion (definition : TaskDefinition) (actor : Member)
      (task : TaskInstance)
  | awardExcuseIfPolicy (definition : TaskDefinition) (actor : Member)
      (household : Household) (task : TaskInstance)
  | awardSeriesBonus (series : Series) (seriesInstance : SeriesInstance)
      (memberId : Uuid) (actor : Member) (bonusPoints : Int)
  | awardAllOrNothingSeries (series : Series) (seriesInstance : SeriesInstance)
      (memberId : Uuid) (actor : Member) (totalPoints : Int)
  | fulfilClaim (claim : Claim) (actor : Member)
  | manualAdjustment (memberId : Uuid) (delta : Int) (reason : String)
      (actor : Member)
  | writeReversal (actor : Member) (reason : String) (task : TaskInstance)

/-- What the writer posts, if it gets to its insert. -/
def LedgerWrite.posting? : LedgerWrite → Option Posting
  | .awardTaskCompletion definition actor task =>
      some (taskCompletedPosting definition actor task)
  | .awardExcuseIfPolicy definition actor household task =>
      excusePosting definition actor household.excusedPayoutPolicy task
  | .awardSeriesBonus series seriesInstance memberId actor bonusPoints =>
      some (seriesPosting seriesInstance memberId actor bonusPoints
        ("Series bonus: " ++ series.name))
  | .awardAllOrNothingSeries series seriesInstance memberId actor totalPoints =>
      some (seriesPosting seriesInstance memberId actor totalPoints
        ("Series complete (all-or-nothing): " ++ series.name))
  | .fulfilClaim claim actor => some (fulfilClaimPosting claim actor)
  | .manualAdjustment memberId delta reason actor =>
      if strip reason = [] then none
      else some (manualAdjustmentPosting memberId delta reason actor)
  | .writeReversal actor reason task => some (reversalPosting actor reason task)

structure LedgerRequest where
  clock : Clock
  writes : List LedgerWrite

def ledgerColumns : Columns LedgerEntry Uuid Int where
  account := LedgerEntry.memberId
  delta := LedgerEntry.delta
  total := LedgerEntry.balanceAfter

def draft (clock : Clock) (posting : Posting) : Draft ledgerColumns where
  account := posting.memberId
  build := fun balance => posting.entry balance clock.transaction
  sameAccount := fun _ => rfl
  sumsUp := fun _ => rfl

def LedgerRequest.drafts (request : LedgerRequest) : List (Draft ledgerColumns) :=
  (request.writes.filterMap LedgerWrite.posting?).map (draft request.clock)

/-- The entries a transaction has inserted and not committed. -/
def openEntries : Phase ledgerColumns → List LedgerEntry
  | .active own _ _ => own.map Prod.fst
  | .committed => []
  | .rolledBack => []

section Interleaved

variable {Id : Type} [Fintype Id] [DecidableEq Id]

/-- `INSERT INTO ledger_entries`: the columns' ranges and the unique indexes. -/
def admission (config : Config ledgerColumns Id) (id : Id) (entry : LedgerEntry) :
    Admission :=
  if ¬ (FitsInteger entry.delta ∧ FitsInteger entry.balanceAfter) then .refused
  else if ∃ earlier ∈ config.entries ++ openEntries (config.phase id),
      earlier.Clashes entry then .refused
  else if ∃ other, other ≠ id ∧ ∃ earlier ∈ openEntries (config.phase other),
      earlier.Clashes entry then .waits
  else .admitted

def ledgerStep : Config ledgerColumns Id → Id → Config ledgerColumns Id := step admission

/-- Without other open entries the database takes what the ledger accepts. -/
theorem admission_alone {config : Config ledgerColumns Id} {ledger : Ledger}
    (committed : config.entries = ledger.entries)
    (alone : ∀ id, openEntries (config.phase id) = []) (clock : Clock) (id : Id)
    (posting : Posting) :
    admission config id (posting.entry (currentBalance ledger posting.memberId)
        clock.transaction) =
      if posting.Accepted ledger then .admitted else .refused := by
  unfold admission
  by_cases fits : FitsInteger posting.delta ∧
      FitsInteger (currentBalance ledger posting.memberId + posting.delta)
  · have fitsEntry : ¬ ¬ (FitsInteger (posting.entry (currentBalance ledger
        posting.memberId) clock.transaction).delta ∧ FitsInteger (posting.entry
          (currentBalance ledger posting.memberId) clock.transaction).balanceAfter) :=
      not_not.mpr fits
    rw [if_neg fitsEntry, alone id, List.append_nil, committed]
    by_cases free : posting.Free ledger
    · have accepted : posting.Accepted ledger := ⟨fits.1, fits.2, free⟩
      rw [if_pos accepted, if_neg, if_neg]
      · rintro ⟨other, _, earlier, member, _⟩
        rw [alone other] at member
        cases member
      · rintro ⟨earlier, member, clash⟩
        exact free earlier member clash
    · have refused : ¬ posting.Accepted ledger := fun accepted => free accepted.free
      rw [if_neg refused, if_pos]
      unfold Posting.Free at free
      push Not at free
      exact free
  · have refused : ¬ posting.Accepted ledger :=
      fun accepted => fits ⟨accepted.fits, accepted.balanceFits⟩
    rw [if_neg refused, if_pos]
    exact fits

/-- A request with one posting and no other open transaction leaves the ledger
that `record` leaves. -/
theorem ledgerStep_record (ledger : Ledger) (clock : Clock) (posting : Posting)
    {drafts : Id → List (Draft ledgerColumns)} {id : Id}
    (own : drafts id = [draft clock posting]) :
    (runFrom ledgerStep (opening ledger.entries drafts) [id, id, id]).entries =
      match record ledger clock posting with
      | .ok next => next.entries
      | .error _ => ledger.entries := by
  have read : ledgerStep (opening ledger.entries drafts) id =
      (opening ledger.entries drafts).enter id (.active []
        (some ⟨currentBalance ledger posting.memberId,
          currentBalance ledger posting.memberId⟩) [draft clock posting]) := by
    simp only [ledgerStep, step, opening, own, List.map_nil, List.append_nil]
    rfl
  simp only [runFrom]
  rw [read]
  generalize asked : (opening ledger.entries drafts).enter id (.active [] _ _) = config
  have phase : config.phase id = .active [] (some ⟨currentBalance ledger posting.memberId,
      currentBalance ledger posting.memberId⟩) [draft clock posting] := by
    rw [← asked]
    exact Function.update_self ..
  have committed : config.entries = ledger.entries := by
    rw [← asked]
    rfl
  have alone : ∀ other, openEntries (config.phase other) = [] := by
    intro other
    rw [← asked]
    by_cases same : other = id
    · rw [same]
      simp [Config.enter, openEntries]
    · simp [Config.enter, same, opening, openEntries]
  have answer : admission config id ((draft clock posting).build
      (currentBalance ledger posting.memberId)) =
        if posting.Accepted ledger then .admitted else .refused :=
    admission_alone committed alone clock id posting
  by_cases accepted : posting.Accepted ledger
  · obtain ⟨next, recorded⟩ := (@record_isOk_iff _ clock _).mpr accepted
    rw [if_pos accepted] at answer
    have inserted : ledgerStep config id = config.enter id (.active
        [(posting.entry (currentBalance ledger posting.memberId) clock.transaction,
          currentBalance ledger posting.memberId)] none []) := by
      simp only [ledgerStep, step, phase, answer]
      rfl
    rw [recorded, inserted]
    simp only [ledgerStep, step, Config.enter, Function.update_self, List.map_cons,
      List.map_nil, committed]
    exact (record_ok recorded).1.symm
  · rw [if_neg accepted] at answer
    have refused : ledgerStep config id = config.enter id .rolledBack := by
      simp only [ledgerStep, step, phase, answer]
    rw [refused]
    simp only [ledgerStep, step, Config.enter, Function.update_self, committed]
    cases recorded : record ledger clock posting with
    | error raised => rfl
    | ok next => exact (accepted (record_isOk_iff.mp ⟨next, recorded⟩)).elim

end Interleaved

end KidsChores.Services.LedgerRequests
