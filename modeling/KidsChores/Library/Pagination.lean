import Mathlib.Data.List.Chain
import Mathlib.Data.List.Sort

/-!
# Paging through sorted rows

Every query of a paged listing sorts by a key and returns a slice.  Rows with
the same key stand in an order of the database's choosing, and it may choose
differently for the next page.
-/

set_option autoImplicit false

namespace KidsChores.Library.Pagination

universe u v

variable {Row : Type u} {Key : Type v} [LinearOrder Key] {key : Row → Key}

/-- An order the database may show: every row, the greatest key first. -/
structure Arranged (key : Row → Key) (rows shown : List Row) : Prop where
  all : shown.Perm rows
  descending : shown.Pairwise fun first second => key second ≤ key first

/-- `LIMIT limit OFFSET offset`. -/
def page (shown : List Row) (limit offset : Nat) : List Row :=
  (shown.drop offset).take limit

/-- The first `count` pages, each from a query of its own. -/
def pages (shown : Nat → List Row) (limit count : Nat) : List Row :=
  (List.range count).flatMap fun query => page (shown query) limit (query * limit)

theorem pages_succ (shown : Nat → List Row) (limit count : Nat) :
    pages shown limit (count + 1) =
      pages shown limit count ++ page (shown count) limit (count * limit) := by
  simp [pages, List.range_succ]

theorem exists_arranged (key : Row → Key) (rows : List Row) :
    ∃ shown, Arranged key rows shown := by
  have sorted : (rows.mergeSort fun first second => key second ≤ key first).Pairwise
      fun first second => decide (key second ≤ key first) = true := by
    apply List.pairwise_mergeSort
    · intro first second third left right
      simp only [decide_eq_true_eq] at left right ⊢
      exact right.trans left
    · intro first second
      simp only [Bool.or_eq_true, decide_eq_true_eq]
      exact le_total _ _
  exact ⟨_, List.mergeSort_perm _ _, sorted.imp fun ordered => of_decide_eq_true ordered⟩

/-- With distinct keys there is one order to show. -/
theorem Arranged.unique {rows first second : List Row}
    (distinct : (rows.map key).Nodup) (left : Arranged key rows first)
    (right : Arranged key rows second) : first = second := by
  apply List.Perm.eq_of_pairwise _ left.descending right.descending
    (left.all.trans right.all.symm)
  intro one other oneMember otherMember later earlier
  exact List.inj_on_of_nodup_map distinct (left.all.mem_iff.mp oneMember)
    (right.all.mem_iff.mp otherMember) (le_antisymm earlier later)

/-- Pages of one order are its beginning. -/
theorem pages_const {shown : Nat → List Row} {order : List Row}
    (same : ∀ query, shown query = order) (limit count : Nat) :
    pages shown limit count = order.take (count * limit) := by
  induction count with
  | zero => simp [pages]
  | succ count ih =>
      rw [pages_succ, ih, same count, page, Nat.succ_mul, List.take_add]

theorem pages_congr {first second : Nat → List Row} {limit count : Nat}
    (same : ∀ query < count, first query = second query) :
    pages first limit count = pages second limit count := by
  induction count with
  | zero => rfl
  | succ count ih =>
      rw [pages_succ, pages_succ, same count (Nat.lt_succ_self count),
        ih fun query before => same query (Nat.lt_succ_of_lt before)]

theorem pages_isPrefix (shown : Nat → List Row) (limit : Nat) {fewer more : Nat}
    (fewerMore : fewer ≤ more) : pages shown limit fewer <+: pages shown limit more := by
  induction fewerMore with
  | refl => exact List.prefix_refl _
  | step _ ih =>
      rw [pages_succ]
      exact ih.trans (List.prefix_append _ _)

/-- Rows next to each other can change places between two queries where their keys
are the same. -/
theorem Arranged.swap {rows before after : List Row} {first second : Row}
    (arranged : Arranged key rows (before ++ first :: second :: after))
    (tie : key first = key second) :
    Arranged key rows (before ++ second :: first :: after) := by
  obtain ⟨all, descending⟩ := arranged
  refine ⟨((List.Perm.swap _ _ _).append_left before).trans all, ?_⟩
  simp only [List.pairwise_append, List.pairwise_cons, List.mem_cons] at descending ⊢
  obtain ⟨front, ⟨firstAbove, secondAbove, back⟩, across⟩ := descending
  refine ⟨front, ⟨?_, fun row member => firstAbove row (Or.inr member), back⟩, ?_⟩
  · rintro row (rfl | member)
    · exact tie.le
    · exact secondAbove row member
  · rintro row member other (rfl | rfl | later)
    · exact across row member _ (Or.inr (Or.inl rfl))
    · exact across row member _ (Or.inl rfl)
    · exact across row member other (Or.inr (Or.inr later))

/-- Where two rows share a key, some order shows them next to each other. -/
theorem exists_tie {rows : List Row} (tied : ¬ (rows.map key).Nodup) :
    ∃ before first second after,
      Arranged key rows (before ++ first :: second :: after) ∧
        key first = key second := by
  obtain ⟨shown, arranged⟩ := exists_arranged key rows
  have shownTied : ¬ (shown.map key).Nodup := by
    rw [(arranged.all.map key).nodup_iff]
    exact tied
  by_contra none
  push Not at none
  apply shownTied
  have strict : shown.IsChain fun first second => key second < key first := by
    rw [List.isChain_iff_forall_rel_of_append_cons_cons]
    intro first second before after split
    have ordered := arranged.descending
    rw [split, List.pairwise_append, List.pairwise_cons] at ordered
    have below := ordered.2.1.1 second List.mem_cons_self
    exact lt_of_le_of_ne below (none before first second after (split ▸ arranged)).symm
  have trans : IsTrans Row fun first second => key second < key first :=
    ⟨fun _ _ _ one two => two.trans one⟩
  rw [List.Nodup, List.pairwise_map]
  exact (List.isChain_iff_pairwise.mp strict).imp fun below => below.ne'

/-- Walked in pages of one row, a tie that is turned before the query for its lower
row shows the upper row twice. -/
theorem pages_repeat {shown : Nat → List Row} {before after : List Row}
    {first second : Row}
    (usual : ∀ query ≤ before.length, shown query = before ++ first :: second :: after)
    (turned : shown (before.length + 1) = before ++ second :: first :: after) :
    pages shown 1 (before.length + 2) = before ++ [first, first] := by
  have lead : pages shown 1 (before.length + 1) =
      pages (fun _ => before ++ first :: second :: after) 1 (before.length + 1) :=
    pages_congr fun query early => usual query (Nat.le_of_lt_succ early)
  rw [pages_succ, lead, pages_const fun _ => rfl, page, turned]
  simp [List.take_append, List.drop_append, List.take_of_length_le,
    List.drop_eq_nil_of_le]

/-- Neighbours in a strictly descending order are the rows with no row between
them. -/
theorem Arranged.isChain_iff {rows shown : List Row} (distinct : (rows.map key).Nodup)
    (arranged : Arranged key rows shown) {related : Row → Row → Prop} :
    shown.IsChain related ↔ ∀ above ∈ rows, ∀ below ∈ rows, key below < key above →
      (∀ row ∈ rows, ¬ (key below < key row ∧ key row < key above)) →
        related above below := by
  have strict : shown.Pairwise fun first second => key second < key first := by
    have shownDistinct : (shown.map key).Nodup :=
      ((arranged.all.map key).nodup_iff).mpr distinct
    rw [List.Nodup, List.pairwise_map] at shownDistinct
    exact (arranged.descending.and shownDistinct).imp fun ⟨below, apart⟩ =>
      lt_of_le_of_ne below apart.symm
  constructor
  · intro chain above aboveMember below belowMember ordered between
    obtain ⟨before, rest, split⟩ :=
      List.append_of_mem (arranged.all.mem_iff.mpr aboveMember)
    rw [split, List.pairwise_append, List.pairwise_cons] at strict
    obtain ⟨_, ⟨firstAbove, restOrdered⟩, across⟩ := strict
    have later : below ∈ rest := by
      have member := arranged.all.mem_iff.mpr belowMember
      rw [split, List.mem_append, List.mem_cons] at member
      rcases member with early | rfl | late
      · exact absurd (across below early above List.mem_cons_self) ordered.not_gt
      · exact absurd ordered (lt_irrefl _)
      · exact late
    obtain ⟨middle, after, restSplit⟩ := List.append_of_mem later
    cases middle with
    | nil =>
        rw [split, restSplit, List.nil_append, List.isChain_append_cons_cons] at chain
        exact chain.2.1
    | cons row middle =>
        rw [restSplit, List.cons_append, List.pairwise_cons] at restOrdered
        have member : row ∈ rows := by
          rw [← arranged.all.mem_iff, split, restSplit]
          simp
        refine absurd ⟨restOrdered.1 below (by simp), firstAbove row ?_⟩
          (between row member)
        rw [restSplit]
        exact List.mem_cons_self
  · intro neighbours
    rw [List.isChain_iff_forall_rel_of_append_cons_cons]
    intro above below before after split
    have inRows : ∀ row ∈ before ++ above :: below :: after, row ∈ rows :=
      fun row member => arranged.all.mem_iff.mp (split ▸ member)
    rw [split, List.pairwise_append, List.pairwise_cons, List.pairwise_cons] at strict
    obtain ⟨_, ⟨aboveFirst, belowFirst, _⟩, across⟩ := strict
    refine neighbours above (inRows _ (by simp)) below (inRows _ (by simp))
      (aboveFirst below List.mem_cons_self) ?_
    rintro row member ⟨beyond, under⟩
    have shownMember := arranged.all.mem_iff.mpr member
    rw [split, List.mem_append, List.mem_cons, List.mem_cons] at shownMember
    rcases shownMember with early | rfl | rfl | late
    · exact (across row early above List.mem_cons_self).asymm under
    · exact lt_irrefl _ under
    · exact lt_irrefl _ beyond
    · exact (belowFirst row late).asymm beyond

end KidsChores.Library.Pagination
