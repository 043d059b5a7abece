import Mathlib.Data.List.Nodup

/-!
# Tables with a primary key

A table is the list of its rows in insertion order, with the proof that no two
rows share a key.  Every operation here is one SQL statement on it: a select by
key, an insert under a generated key, an update of the row with a given
key, and an update of every row that matches a `WHERE` clause.
-/

set_option autoImplicit false

namespace KidsChores.Library

universe u v

structure Table {Row : Type u} {Key : Type v} (key : Row → Key) where
  rows : List Row
  keysNodup : (rows.map key).Nodup

namespace Table

variable {Row : Type u} {Key : Type v} {key : Row → Key}

def empty : Table key := ⟨[], List.nodup_nil⟩

theorem row_unique (table : Table key) {first second : Row}
    (firstMember : first ∈ table.rows) (secondMember : second ∈ table.rows)
    (sameKey : key first = key second) : first = second :=
  List.inj_on_of_nodup_map table.keysNodup firstMember secondMember sameKey

section Update

variable (key) in
theorem map_key_updateRows (matching : Row → Bool) (update : Row → Row)
    (keeps : ∀ row, key (update row) = key row) (rows : List Row) :
    (rows.map fun row => if matching row then update row else row).map key =
      rows.map key := by
  rw [List.map_map]
  apply List.map_congr_left
  intro row _
  by_cases hit : matching row = true
  · simp [hit, keeps row]
  · simp [hit]

/-- `UPDATE … WHERE matching`: every matching row is rewritten in place. -/
def updateWhere (table : Table key) (matching : Row → Bool) (update : Row → Row)
    (keeps : ∀ row, key (update row) = key row) : Table key :=
  ⟨table.rows.map fun row => if matching row then update row else row, by
    rw [map_key_updateRows key matching update keeps]
    exact table.keysNodup⟩

theorem mem_updateWhere {table : Table key} {matching : Row → Bool}
    {update : Row → Row} {keeps : ∀ row, key (update row) = key row} {row : Row} :
    row ∈ (table.updateWhere matching update keeps).rows ↔
      ∃ old ∈ table.rows, row = if matching old then update old else old := by
  simp only [updateWhere, List.mem_map]
  constructor
  · rintro ⟨old, member, same⟩
    exact ⟨old, member, same.symm⟩
  · rintro ⟨old, member, same⟩
    exact ⟨old, member, same.symm⟩

end Update

variable [DecidableEq Key]

def find? (table : Table key) (wanted : Key) : Option Row :=
  table.rows.find? fun row => decide (key row = wanted)

theorem find?_eq_some_iff {table : Table key} {wanted : Key} {row : Row} :
    table.find? wanted = some row ↔ row ∈ table.rows ∧ key row = wanted := by
  constructor
  · intro found
    have hit := List.find?_some found
    exact ⟨List.mem_of_find?_eq_some found, of_decide_eq_true hit⟩
  · rintro ⟨member, hit⟩
    cases found : table.find? wanted with
    | none =>
        have missing := List.find?_eq_none.mp found row member
        simp [hit] at missing
    | some other =>
        have chosen := List.find?_some found
        have otherHit : key other = wanted := of_decide_eq_true chosen
        have same : other = row := table.row_unique
          (List.mem_of_find?_eq_some found) member (otherHit.trans hit.symm)
        rw [same]

theorem find?_self (table : Table key) {row : Row} (member : row ∈ table.rows) :
    table.find? (key row) = some row :=
  find?_eq_some_iff.mpr ⟨member, rfl⟩

theorem mem_of_find? {table : Table key} {wanted : Key} {row : Row}
    (found : table.find? wanted = some row) : row ∈ table.rows :=
  (find?_eq_some_iff.mp found).1

theorem key_of_find? {table : Table key} {wanted : Key} {row : Row}
    (found : table.find? wanted = some row) : key row = wanted :=
  (find?_eq_some_iff.mp found).2

/-- A row is all that a filter by its key selects. -/
theorem filter_key (table : Table key) {row : Row} (member : row ∈ table.rows) :
    (table.rows.filter fun other => key other = key row) = [row] := by
  obtain ⟨before, after, split⟩ := List.append_of_mem member
  have distinct := table.keysNodup
  rw [split, List.map_append, List.map_cons, List.nodup_middle, List.nodup_cons,
    List.mem_append] at distinct
  have apart : ∀ rows : List Row, key row ∉ rows.map key →
      (rows.filter fun other => key other = key row) = [] := by
    intro rows absent
    rw [List.filter_eq_nil_iff]
    intro other otherMember same
    exact absent (List.mem_map.mpr ⟨other, otherMember, of_decide_eq_true same⟩)
  have own : ((row :: after).filter fun other => key other = key row) =
      row :: after.filter fun other => key other = key row :=
    List.filter_cons_of_pos (decide_eq_true rfl)
  rw [split, List.filter_append, own, apart before fun early => distinct.1 (Or.inl early),
    apart after fun late => distinct.1 (Or.inr late)]
  exact List.nil_append _

theorem find?_eq_none_iff {table : Table key} {wanted : Key} :
    table.find? wanted = none ↔ ∀ row ∈ table.rows, key row ≠ wanted := by
  simp [find?, List.find?_eq_none]

/-- `UPDATE … WHERE key = key row`: the row with that key becomes `row`. -/
def save (table : Table key) (row : Row) : Table key :=
  ⟨table.rows.map fun old => if key old = key row then row else old, by
    have sameKeys : (table.rows.map fun old =>
        if key old = key row then row else old).map key = table.rows.map key := by
      rw [List.map_map]
      apply List.map_congr_left
      intro old _
      by_cases hit : key old = key row
      · simp [hit]
      · simp [hit]
    rw [sameKeys]
    exact table.keysNodup⟩

theorem mem_save {table : Table key} {row other : Row} :
    other ∈ (table.save row).rows ↔
      (other = row ∧ ∃ old ∈ table.rows, key old = key row) ∨
        (other ∈ table.rows ∧ key other ≠ key row) := by
  simp only [save, List.mem_map]
  constructor
  · rintro ⟨old, member, same⟩
    by_cases hit : key old = key row
    · rw [if_pos hit] at same
      exact Or.inl ⟨same.symm, old, member, hit⟩
    · rw [if_neg hit] at same
      subst same
      exact Or.inr ⟨member, hit⟩
  · rintro (⟨rfl, old, member, hit⟩ | ⟨member, miss⟩)
    · exact ⟨old, member, if_pos hit⟩
    · exact ⟨other, member, if_neg miss⟩

theorem find?_save_same {table : Table key} {row old : Row} {wanted : Key}
    (present : table.find? wanted = some old) (same : key row = wanted) :
    (table.save row).find? wanted = some row := by
  obtain ⟨member, hit⟩ := find?_eq_some_iff.mp present
  apply find?_eq_some_iff.mpr
  exact ⟨mem_save.mpr (Or.inl ⟨rfl, old, member, hit.trans same.symm⟩), same⟩

theorem find?_save_other {table : Table key} {row : Row} {wanted : Key}
    (different : key row ≠ wanted) :
    (table.save row).find? wanted = table.find? wanted := by
  cases found : table.find? wanted with
  | none =>
      rw [find?_eq_none_iff] at found ⊢
      intro other member
      rcases mem_save.mp member with ⟨rfl, _⟩ | ⟨member, _⟩
      · exact different
      · exact found other member
  | some other =>
      obtain ⟨member, hit⟩ := find?_eq_some_iff.mp found
      apply find?_eq_some_iff.mpr
      refine ⟨mem_save.mpr (Or.inr ⟨member, ?_⟩), hit⟩
      rw [hit]
      exact Ne.symm different

/-! ## Generated keys -/

section Generated

variable {numbered : Row → Nat}

/-- A key no row of the table has. -/
def freshKey (table : Table numbered) : Nat :=
  (table.rows.map numbered).foldr max 0 + 1

theorem key_lt_freshKey {table : Table numbered} {row : Row}
    (member : row ∈ table.rows) : numbered row < table.freshKey := by
  have below : ∀ keys : List Nat, ∀ k ∈ keys, k < keys.foldr max 0 + 1 := by
    intro keys
    induction keys with
    | nil => intro k absent; cases absent
    | cons first rest ih =>
        intro k member
        rw [List.foldr_cons]
        rcases List.mem_cons.mp member with rfl | later
        · omega
        · have := ih k later
          omega
  exact below _ _ (List.mem_map_of_mem member)

/-- `INSERT` of a row whose key is generated. -/
def append (table : Table numbered) (build : Nat → Row)
    (keyed : ∀ k, numbered (build k) = k) : Table numbered :=
  ⟨table.rows ++ [build table.freshKey], by
    rw [List.map_append, List.map_singleton, keyed]
    refine List.nodup_append.mpr
      ⟨table.keysNodup, List.nodup_singleton _, ?_⟩
    intro first firstMember second secondMember same
    rw [List.mem_singleton] at secondMember
    subst secondMember
    obtain ⟨row, member, rfl⟩ := List.mem_map.mp firstMember
    exact absurd same (Nat.ne_of_lt (key_lt_freshKey member))⟩

theorem mem_append {table : Table numbered} {build : Nat → Row}
    {keyed : ∀ k, numbered (build k) = k} {row : Row} :
    row ∈ (table.append build keyed).rows ↔
      row ∈ table.rows ∨ row = build table.freshKey := by
  simp [append]

end Generated

/-! ## Rows that stay -/

/-- Each row is still there, as far as `same` looks at it. -/
def Stays (same : Row → Row → Prop) (table later : Table key) : Prop :=
  ∀ row ∈ table.rows, ∃ after ∈ later.rows, same row after

namespace Stays

omit [DecidableEq Key]

variable {same : Row → Row → Prop} {table middle later : Table key}

theorem refl (reflexive : ∀ row, same row row) (table : Table key) : table.Stays same table :=
  fun row stored => ⟨row, stored, reflexive row⟩

theorem trans (transitive : ∀ first second third, same first second → same second third →
    same first third) (early : table.Stays same middle) (late : middle.Stays same later) :
    table.Stays same later := by
  intro row stored
  obtain ⟨between, betweenStored, before⟩ := early row stored
  obtain ⟨after, afterStored, follows⟩ := late between betweenStored
  exact ⟨after, afterStored, transitive row between after before follows⟩

theorem updateWhere {matching : Row → Bool} {update : Row → Row}
    (keeps : ∀ row, key (update row) = key row) (reflexive : ∀ row, same row row)
    (edits : ∀ row, same row (update row)) :
    table.Stays same (table.updateWhere matching update keeps) := by
  intro row stored
  refine ⟨_, mem_updateWhere.mpr ⟨row, stored, rfl⟩, ?_⟩
  split
  · exact edits row
  · exact reflexive row

theorem append {numbered : Row → Nat} {table : Table numbered} {build : Nat → Row}
    (keyed : ∀ k, numbered (build k) = k) (reflexive : ∀ row, same row row) :
    table.Stays same (table.append build keyed) :=
  fun row stored => ⟨row, mem_append.mpr (Or.inl stored), reflexive row⟩

theorem save [DecidableEq Key] (reflexive : ∀ row, same row row) {row edited : Row}
    (stored : row ∈ table.rows) (sameKey : key edited = key row) (edits : same row edited) :
    table.Stays same (table.save edited) := by
  intro other otherStored
  by_cases hit : key other = key edited
  · rw [table.row_unique otherStored stored (hit.trans sameKey)]
    exact ⟨edited, mem_save.mpr (Or.inl ⟨rfl, row, stored, sameKey.symm⟩), edits⟩
  · exact ⟨other, mem_save.mpr (Or.inr ⟨otherStored, hit⟩), reflexive other⟩

end Stays

end Table

end KidsChores.Library
