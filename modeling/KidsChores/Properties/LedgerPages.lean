import Mathlib.Data.Fintype.Basic
import KidsChores.Library.Pagination
import KidsChores.Properties.RunningBalance
import KidsChores.Routers.Listings

/-!
# Pages of the ledger

`get_ledger` sorts by `created_at` alone, and all entries of one transaction have
the same `created_at`.  Paging through a member's ledger shows every entry once
exactly when no two of its entries do.
-/

set_option autoImplicit false

namespace KidsChores.Properties

open KidsChores.Models
open KidsChores.Library
open KidsChores.Library.Pagination
open KidsChores.Library.PyDatetime
open KidsChores.Library.RunningTotal
open KidsChores.Library.Runs
open KidsChores.Services.Ledger
open KidsChores.Services.LedgerRequests

/-- A stored entry and its place in the table, which stands for its primary key. -/
abbrev LedgerRow := LedgerEntry × Nat

def createdAt (row : LedgerRow) : Instant := row.1.createdAt

/-- `WHERE member_id = …`. -/
def memberRows (entries : List LedgerEntry) (memberId : Uuid) : List LedgerRow :=
  entries.zipIdx.filter fun row => row.1.memberId = memberId

/-- `get_ledger`, from the order in which this query finds the member's rows. -/
def getLedger (shown : List LedgerRow) (limit offset : Nat) : List LedgerRow :=
  page shown limit offset

/-- The pages at offsets 0, `limit`, 2 · `limit`, … one after the other. -/
def ledgerWalk (shown : Nat → List LedgerRow) (limit count : Nat) : List LedgerRow :=
  (List.range count).flatMap fun query => getLedger (shown query) limit (query * limit)

def Continues (newer older : LedgerRow) : Prop :=
  newer.1.balanceAfter = older.1.balanceAfter + newer.1.delta

/-- Whatever order each query finds, the pages hold every entry once and every
balance continues the one below it. -/
def PagesRight (entries : List LedgerEntry) (memberId : Uuid) : Prop :=
  ∀ limit, 1 ≤ limit → ∀ shown : Nat → List LedgerRow,
    (∀ query, Arranged createdAt (memberRows entries memberId) (shown query)) →
      ∀ count, (memberRows entries memberId).length ≤ count * limit →
        (ledgerWalk shown limit count).Perm (memberRows entries memberId) ∧
          (ledgerWalk shown limit count).IsChain Continues

def StampsDistinct (entries : List LedgerEntry) (memberId : Uuid) : Prop :=
  ((memberRows entries memberId).map createdAt).Nodup

instance (entries : List LedgerEntry) (memberId : Uuid) :
    Decidable (StampsDistinct entries memberId) :=
  inferInstanceAs (Decidable (List.Nodup _))

/-- Of two entries with none between them in `created_at`, the newer one was
computed from the older one's balance. -/
def BalancesFollowStamps (entries : List LedgerEntry) (memberId : Uuid) : Prop :=
  ∀ newer ∈ memberRows entries memberId, ∀ older ∈ memberRows entries memberId,
    createdAt older < createdAt newer →
      (∀ row ∈ memberRows entries memberId,
        ¬ (createdAt older < createdAt row ∧ createdAt row < createdAt newer)) →
          Continues newer older

theorem memberRows_nodup (entries : List LedgerEntry) (memberId : Uuid) :
    (memberRows entries memberId).Nodup := by
  have places : (entries.zipIdx.map Prod.snd).Nodup := by
    rw [List.zipIdx_map_snd]
    exact List.nodup_range'
  exact (places.of_map _).filter _

section Member

variable {entries : List LedgerEntry} {memberId : Uuid}

/-- A tie lets two queries show one entry twice. -/
theorem PagesRight.distinct (right : PagesRight entries memberId) :
    StampsDistinct entries memberId := by
  by_contra tied
  obtain ⟨before, first, second, after, arranged, tie⟩ := exists_tie tied
  have length := arranged.all.length_eq
  have nodup : (before ++ first :: second :: after).Nodup :=
    arranged.all.nodup_iff.mpr (memberRows_nodup entries memberId)
  let shown : Nat → List LedgerRow := fun query =>
    if query = before.length + 1 then before ++ second :: first :: after
    else before ++ first :: second :: after
  have allArranged : ∀ query, Arranged createdAt (memberRows entries memberId)
      (shown query) := by
    intro query
    by_cases turned : query = before.length + 1
    · simp only [shown, if_pos turned]
      exact arranged.swap tie
    · simp only [shown, if_neg turned]
      exact arranged
  have repeated : pages shown 1 (before.length + 2) = before ++ [first, first] := by
    apply pages_repeat
    · intro query early
      exact if_neg (by omega)
    · exact if_pos rfl
  have walked := (right 1 le_rfl shown allArranged
    (memberRows entries memberId).length (by omega)).1
  have inWalk : pages shown 1 (before.length + 2) <+:
      ledgerWalk shown 1 (memberRows entries memberId).length := by
    apply pages_isPrefix
    simp only [List.length_append, List.length_cons] at length
    omega
  have twice : (before ++ [first, first]).Nodup := by
    rw [← repeated]
    exact (walked.nodup_iff.mpr (memberRows_nodup entries memberId)).sublist
      inWalk.sublist
  simp [List.nodup_append] at twice

/-- With distinct stamps there is one order, and the pages are its rows. -/
theorem pagesRight_iff_isChain (distinct : StampsDistinct entries memberId)
    {order : List LedgerRow}
    (arranged : Arranged createdAt (memberRows entries memberId) order) :
    PagesRight entries memberId ↔ order.IsChain Continues := by
  have walk : ∀ (shown : Nat → List LedgerRow) (limit count : Nat),
      (∀ query, Arranged createdAt (memberRows entries memberId) (shown query)) →
        (memberRows entries memberId).length ≤ count * limit →
          ledgerWalk shown limit count = order := by
    intro shown limit count allArranged enough
    have whole : pages shown limit count = order.take (count * limit) :=
      pages_const (fun query => (allArranged query).unique distinct arranged) _ _
    refine whole.trans (List.take_of_length_le ?_)
    rw [arranged.all.length_eq]
    exact enough
  constructor
  · intro right
    have enough : (memberRows entries memberId).length ≤
        (memberRows entries memberId).length * 1 := by omega
    rw [← walk (fun _ => order) 1 _ (fun _ => arranged) enough]
    exact (right 1 le_rfl (fun _ => order) (fun _ => arranged) _ enough).2
  · intro chain limit _ shown allArranged count enough
    rw [walk shown limit count allArranged enough]
    exact ⟨arranged.all, chain⟩

theorem pagesRight_iff : PagesRight entries memberId ↔
    StampsDistinct entries memberId ∧ BalancesFollowStamps entries memberId := by
  obtain ⟨order, arranged⟩ := exists_arranged createdAt (memberRows entries memberId)
  have chainIff : StampsDistinct entries memberId →
      (order.IsChain Continues ↔ BalancesFollowStamps entries memberId) :=
    fun distinct => arranged.isChain_iff distinct
  constructor
  · intro right
    have distinct := right.distinct
    exact ⟨distinct, (chainIff distinct).mp
      ((pagesRight_iff_isChain distinct arranged).mp right)⟩
  · rintro ⟨distinct, follow⟩
    exact (pagesRight_iff_isChain distinct arranged).mpr ((chainIff distinct).mpr follow)

/-! ## Ledgers whose balances run -/

theorem memberRows_entries : (memberRows entries memberId).map Prod.fst =
    entries.filter fun entry => entry.memberId = memberId := by
  have composed : (fun row : LedgerRow => decide (row.1.memberId = memberId)) =
      (fun entry : LedgerEntry => decide (entry.memberId = memberId)) ∘ Prod.fst := rfl
  rw [memberRows, composed, ← List.filter_map, List.zipIdx_map_fst]

theorem getLedger_page {request : Routers.Listings.GetLedger} {db : Database}
    {answer : List Routers.LedgerEntryResponse}
    (returned : Routers.Listings.getLedger request db = .ok answer) :
    ∃ shown, Arranged createdAt (memberRows db.ledger.entries request.targetId) shown ∧
      answer = (getLedger shown request.limit.toNat request.offset.toNat).map fun row =>
        .of row.1 := by
  unfold Routers.Listings.getLedger at returned
  obtain ⟨_, _, returned⟩ := bind_ok returned
  obtain ⟨_, _, returned⟩ := bind_ok returned
  split at returned
  · cases returned
    let newest : LedgerRow → LedgerRow → Prop := fun first second =>
      createdAt second ≤ createdAt first
    refine ⟨(memberRows db.ledger.entries request.targetId).insertionSort newest,
      ⟨List.perm_insertionSort _ _, List.pairwise_insertionSort _ _⟩, ?_⟩
    have sorted := List.map_insertionSort newest
      (fun first second : LedgerEntry => second.createdAt ≤ first.createdAt) Prod.fst
      (memberRows db.ledger.entries request.targetId) fun _ _ _ _ => Iff.rfl
    rw [memberRows_entries] at sorted
    rw [← sorted, ← List.map_drop, ← List.map_take, List.map_map]
    rfl
  · cases returned

/-- In the order of writing each balance of the member continues the one before. -/
theorem BalancesRun.isChain (running : BalancesRun entries) :
    (memberRows entries memberId).IsChain fun older newer => Continues newer older := by
  rw [List.isChain_iff_forall_rel_of_append_cons_cons]
  intro older newer front back split
  have own : entries.filter (fun entry => entry.memberId = memberId) =
      front.map Prod.fst ++ older.1 :: newer.1 :: back.map Prod.fst := by
    rw [← memberRows_entries, split]
    simp
  obtain ⟨start, rest, rfl, startOwn, restOwn⟩ := List.filter_eq_append_iff.mp own
  obtain ⟨gap, rest, rfl, gapOther, olderMember, restOwn⟩ :=
    List.filter_eq_cons_iff.mp restOwn
  obtain ⟨nextGap, rest, rfl, nextOther, newerMember, _⟩ :=
    List.filter_eq_cons_iff.mp restOwn
  have gapNil : gap.filter (fun entry => entry.memberId = memberId) = [] :=
    List.filter_eq_nil_iff.mpr gapOther
  have nextNil : nextGap.filter (fun entry => entry.memberId = memberId) = [] :=
    List.filter_eq_nil_iff.mpr nextOther
  have olderTotal := running (start ++ gap) older.1 (nextGap ++ newer.1 :: rest)
    (by simp)
  have newerTotal := running (start ++ gap ++ older.1 :: nextGap) newer.1 rest (by simp)
  rw [of_decide_eq_true olderMember] at olderTotal
  rw [of_decide_eq_true newerMember] at newerTotal
  simp only [List.filter_append, List.filter_cons, olderMember, newerMember, gapNil,
    nextNil, startOwn] at olderTotal newerTotal
  unfold Continues
  rw [olderTotal, newerTotal]
  simp [Int.add_assoc]

theorem arranged_reverse
    (inOrder : entries.Pairwise fun earlier later =>
      earlier.createdAt ≤ later.createdAt) :
    Arranged createdAt (memberRows entries memberId)
      (memberRows entries memberId).reverse := by
  refine ⟨List.reverse_perm _, ?_⟩
  rw [List.pairwise_reverse]
  have numbered : entries.zipIdx.Pairwise fun earlier later =>
      createdAt earlier ≤ createdAt later := by
    rw [← List.zipIdx_map_fst 0 entries, List.pairwise_map] at inOrder
    exact inOrder
  exact numbered.filter _

theorem pagesRight_iff_distinct (running : BalancesRun entries)
    (inOrder : entries.Pairwise fun earlier later =>
      earlier.createdAt ≤ later.createdAt) :
    PagesRight entries memberId ↔ StampsDistinct entries memberId := by
  constructor
  · exact fun right => right.distinct
  · intro distinct
    rw [pagesRight_iff_isChain distinct (arranged_reverse inOrder), List.isChain_reverse]
    exact running.isChain

end Member

section Requests

variable {Id : Type} [Fintype Id] [DecidableEq Id]

/-- Paging through any ledger is right exactly when the member's stamps differ and
its balances were computed in the order of the stamps; a ledger that requests wrote
in that order, each from unmoved sums, only needs the stamps to differ. -/
theorem ledger_pages_right_iff (requests : Id → LedgerRequest) (schedule : List Id) :
    let written := (runFrom ledgerStep (ledgerOpening [] requests) schedule).entries
    (∀ entries memberId, PagesRight entries memberId ↔
        StampsDistinct entries memberId ∧ BalancesFollowStamps entries memberId) ∧
      (EachMeets ledgerStep CommitsUnmoved (ledgerOpening [] requests) schedule →
        written.Pairwise (fun earlier later => earlier.createdAt ≤ later.createdAt) →
          ∀ memberId, PagesRight written memberId ↔ StampsDistinct written memberId) := by
  intro written
  refine ⟨fun _ _ => pagesRight_iff, fun unmoved inOrder memberId => ?_⟩
  have started : Running ledgerColumns ([] : List LedgerEntry) := by
    intro before _ _ split
    cases before <;> cases split
  have running := ((always_running_iff admission started _ schedule).mpr unmoved).at_end
  exact pagesRight_iff_distinct (balancesRun_iff.mpr running) inOrder

end Requests

def grantsApart (second : Bool) : LedgerRequest :=
  let now : Instant := if second then timedeltaSeconds 60 else 0
  { twoGrants second with clock := ⟨now, now⟩ }

theorem grants_apart_page_right :
    PagesRight (runFrom ledgerStep (ledgerOpening [] grantsApart)
      [false, false, false, true, true, true]).entries sampleTeen.id :=
  ((ledger_pages_right_iff grantsApart [false, false, false, true, true, true]).2
    (by decide +kernel) (by decide +kernel) sampleTeen.id).mpr (by decide +kernel)

/-- One request of bulk approval: two tasks of the teen, ten points and five. -/
def bulkApproval (_ : Unit) : LedgerRequest where
  clock := ⟨0, 0⟩
  writes := [.awardTaskCompletion sampleDefinition sampleParent sampleTask,
    .awardTaskCompletion sampleDefinition sampleParent
      { sampleTask with id := 2, pointValue := 5 }]

/-- Two tasks approved at once: the second page may show the first one's entry
again. -/
theorem bulk_approval_repeats :
    ¬ PagesRight (runFrom ledgerStep (ledgerOpening [] bulkApproval)
      [(), (), (), (), ()]).entries sampleTeen.id := by
  intro right
  have distinct := right.distinct
  revert distinct
  decide +kernel

end KidsChores.Properties
