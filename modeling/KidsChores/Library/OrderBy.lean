import Mathlib.Data.List.Sort
import Mathlib.Data.Prod.Basic

/-!
# `ORDER BY`

A query may return its rows in any order that its sort keys allow.  What holds of every
such order is a statement about pairs of rows.
-/

set_option autoImplicit false

namespace KidsChores.Library.OrderBy

universe u

variable {Row : Type u}

/-- The rows in an order that the relation allows. -/
structure Arranged (before : Row → Row → Prop) (rows listed : List Row) : Prop where
  perm : listed.Perm rows
  sorted : listed.Pairwise before

/-- The first row of a listing is no later than any other. -/
theorem Arranged.head {before : Row → Row → Prop} {rows listed : List Row} {row : Row}
    (arranged : Arranged before rows listed) (stored : row ∈ rows) :
    ∃ first ∈ rows, listed.head? = some first ∧ (row = first ∨ before first row) := by
  have shown := arranged.perm.mem_iff.mpr stored
  have sorted := arranged.sorted
  cases listed with
  | nil => cases shown
  | cons first rest =>
      refine ⟨first, arranged.perm.mem_iff.mp List.mem_cons_self, rfl, ?_⟩
      rcases List.mem_cons.mp shown with same | later
      · exact Or.inl same
      · exact Or.inr ((List.pairwise_cons.mp sorted).1 row later)

section Total

variable {before : Row → Row → Prop} [DecidableRel before] [Std.Total before]
  [IsTrans Row before] {rows : List Row}

theorem arranged_insertionSort (rows : List Row) :
    Arranged before rows (rows.insertionSort before) :=
  ⟨List.perm_insertionSort before rows, List.pairwise_insertionSort before rows⟩

/-- Of two rows, the one that may come first does so in some order. -/
theorem exists_arranged_pair {first second : Row} (stored : first ∈ rows)
    (other : second ∈ rows) (different : second ≠ first) (may : before first second) :
    ∃ listed, Arranged before rows listed ∧ [first, second].Sublist listed := by
  obtain ⟨earlier, later, split⟩ := List.append_of_mem stored
  have moved : (first :: (earlier ++ later)).Perm rows := by
    rw [split]
    exact List.perm_middle.symm
  have rest : second ∈ earlier ++ later := by
    rcases List.mem_cons.mp (moved.mem_iff.mpr other) with same | rest
    · exact absurd same different
    · exact rest
  have sorted : Arranged before (first :: (earlier ++ later)) _ := arranged_insertionSort _
  refine ⟨_, ⟨sorted.perm.trans moved, sorted.sorted⟩, ?_⟩
  exact List.pair_sublist_insertionSort may
    (List.Sublist.cons_cons first (List.singleton_sublist.mpr rest))

/-- Every order is as wanted exactly if no row may come before one that it should come
after. -/
theorem arranged_pairwise_iff {wanted : Row → Row → Prop} (refl : ∀ row, wanted row row) :
    (∀ listed, Arranged before rows listed → listed.Pairwise wanted) ↔
      ∀ first ∈ rows, ∀ second ∈ rows, before first second → wanted first second := by
  constructor
  · intro always first stored second other may
    by_cases different : second = first
    · rw [different]
      exact refl first
    · obtain ⟨listed, arranged, inOrder⟩ := exists_arranged_pair stored other different may
      have pair := (always listed arranged).sublist inOrder
      exact (List.pairwise_cons.mp pair).1 second List.mem_cons_self
  · intro agree listed arranged
    refine arranged.sorted.imp_of_mem ?_
    intro first second stored other may
    exact agree first (arranged.perm.mem_iff.mp stored) second
      (arranged.perm.mem_iff.mp other) may

end Total

/-! ## Columns that may be null -/

section Nulls

variable {Key : Type u} {lt le : Key → Key → Prop}

/-- `ASC NULLS FIRST`, strictly. -/
def nullsFirst (lt : Key → Key → Prop) : Option Key → Option Key → Prop
  | _, none => False
  | none, some _ => True
  | some first, some second => lt first second

/-- `ASC NULLS LAST`. -/
def nullsLast (le : Key → Key → Prop) : Option Key → Option Key → Prop
  | _, none => True
  | none, some _ => False
  | some first, some second => le first second

instance nullsFirst_trans [IsTrans Key lt] : IsTrans (Option Key) (nullsFirst lt) where
  trans first second third before after := by
    cases third with
    | none => exact after.elim
    | some third =>
        cases second with
        | none => exact before.elim
        | some second =>
            cases first with
            | none => trivial
            | some first => exact IsTrans.trans first second third before after

instance nullsFirst_trichotomous [Std.Trichotomous lt] :
    Std.Trichotomous (nullsFirst lt) where
  trichotomous first second notBefore notAfter := by
    cases first with
    | none =>
        cases second with
        | none => rfl
        | some second => exact (notBefore trivial).elim
    | some first =>
        cases second with
        | none => exact (notAfter trivial).elim
        | some second =>
            exact congrArg some (Std.Trichotomous.trichotomous first second notBefore notAfter)

instance nullsLast_trans [IsTrans Key le] : IsTrans (Option Key) (nullsLast le) where
  trans first second third before after := by
    cases third with
    | none => trivial
    | some third =>
        cases second with
        | none => exact after.elim
        | some second =>
            cases first with
            | none => exact before.elim
            | some first => exact IsTrans.trans first second third before after

instance nullsLast_total [Std.Total le] : Std.Total (nullsLast le) where
  total first second := by
    cases first with
    | none => exact Or.inr trivial
    | some first =>
        cases second with
        | none => exact Or.inl trivial
        | some second => exact Std.Total.total first second

end Nulls

end KidsChores.Library.OrderBy
