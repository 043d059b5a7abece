import KidsChores.Services.LedgerRequests

/-!
# The balance column

`balance_after` is computed from a sum that was read before the insert, and no
lock keeps the sum from moving.  The column is a running sum exactly as long as
every commit finds the sums it was computed from unmoved.
-/

set_option autoImplicit false

namespace KidsChores.Properties

open KidsChores.Models
open KidsChores.Library.RunningTotal
open KidsChores.Library.Runs
open KidsChores.Services.Ledger
open KidsChores.Services.LedgerRequests

/-- The integrity check: each entry's `balance_after` against the sum of its
member's entries up to and including it. -/
def BalancesRun (entries : List LedgerEntry) : Prop :=
  ∀ before entry after, entries = before ++ entry :: after →
    entry.balanceAfter = (((before ++ [entry]).filter fun earlier =>
      earlier.memberId = entry.memberId).map LedgerEntry.delta).sum

theorem balancesRun_iff {entries : List LedgerEntry} :
    BalancesRun entries ↔ Running ledgerColumns entries := by
  have total : ∀ before entry, (((before ++ [entry]).filter fun earlier =>
      earlier.memberId = entry.memberId).map LedgerEntry.delta).sum =
        sumFor ledgerColumns before (ledgerColumns.account entry) +
          ledgerColumns.delta entry := by
    intro before entry
    have own : sumFor ledgerColumns [entry] entry.memberId = entry.delta := by
      simp [sumFor, ledgerColumns]
    exact (@sumFor_append _ _ _ _ _ ledgerColumns before [entry] _).trans
      (congrArg (sumFor ledgerColumns before entry.memberId + ·) own)
  constructor
  · intro run before entry after split
    exact (run before entry after split).trans (total before entry)
  · intro run before entry after split
    exact (run before entry after split).trans (total before entry).symm

section Requests

variable {Id : Type} [Fintype Id] [DecidableEq Id]

def ledgerOpening (entries : List LedgerEntry) (requests : Id → LedgerRequest) :
    Config ledgerColumns Id :=
  opening entries fun id => (requests id).drafts

/-- Along any schedule of ledger-writing requests the balances run exactly when
every commit finds the committed sums its entries were computed from as they
were. -/
theorem balances_run_iff (requests : Id → LedgerRequest) {entries : List LedgerEntry}
    (running : BalancesRun entries) (schedule : List Id) :
    Always ledgerStep (fun config => BalancesRun config.entries)
        (ledgerOpening entries requests) schedule ↔
      EachMeets ledgerStep CommitsUnmoved (ledgerOpening entries requests)
        schedule := by
  rw [balancesRun_iff] at running
  have library := always_running_iff admission running (fun id => (requests id).drafts)
    schedule
  refine Iff.trans ⟨fun always => ?_, fun always => ?_⟩ library
  · exact always.imp fun _ run => balancesRun_iff.mp run
  · exact always.imp fun _ run => balancesRun_iff.mpr run

end Requests

/-- A parent grants ten points in one request and five in another. -/
def twoGrants (second : Bool) : LedgerRequest where
  clock := ⟨0, 0⟩
  writes := [.manualAdjustment sampleTeen.id (if second then 5 else 10) "Extra help"
    sampleParent]

/-- One request after the other. -/
theorem balances_run_in_turn :
    Always ledgerStep (fun config => BalancesRun config.entries)
      (ledgerOpening [] twoGrants) [false, false, false, true, true, true] :=
  (balances_run_iff twoGrants (fun before _ _ split => by cases before <;> cases split)
    _).mpr (by decide +kernel)

/-- Both requests read the sum before either commits, and the later entry's
balance leaves the earlier one out. -/
theorem overlapping_grants_break_balance :
    let final := runFrom ledgerStep (ledgerOpening [] twoGrants)
      [false, true, false, true, false, true]
    final.entries.map (fun entry => (entry.delta, entry.balanceAfter)) =
        [(10, 10), (5, 5)] ∧
      ¬ BalancesRun final.entries := by
  intro final
  have entries : final.entries =
      [(manualAdjustmentPosting sampleTeen.id 10 "Extra help" sampleParent).entry 0 0,
        (manualAdjustmentPosting sampleTeen.id 5 "Extra help" sampleParent).entry 0 0] :=
    by decide +kernel
  rw [entries]
  refine ⟨rfl, fun run => ?_⟩
  have second := run [_] _ [] rfl
  revert second
  decide

end KidsChores.Properties
