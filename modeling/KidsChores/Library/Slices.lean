import KidsChores.Library.Tenancy

/-!
# The rows of one owner

Where rows have owners, those of one owner are a slice of the table.  A query that
matches only the owner's rows can be answered from the slice, and a write to one owner's
row moves that owner's slice only.
-/

set_option autoImplicit false

namespace KidsChores.Library.Slices

open KidsChores.Library.Tenancy

universe u v w

variable {Row : Type u} {Owner : Type v} [DecidableEq Owner]

def slice (owner? : Row → Option Owner) (home : Owner) (rows : List Row) : List Row :=
  rows.filter fun row => owner? row = some home

/-- The owner is a column of the row. -/
def column (owner : Row → Owner) (row : Row) : Option Owner := some (owner row)

omit [DecidableEq Owner] in
@[simp] theorem column_eq_some {owner : Row → Owner} {row : Row} {home : Owner} :
    column owner row = some home ↔ owner row = home := by
  simp [column]

section Rows

variable {owner? later? : Row → Option Owner} {home : Owner} {rows others : List Row}
  {row : Row}

theorem mem_slice :
    row ∈ slice owner? home rows ↔ row ∈ rows ∧ owner? row = some home := by
  simp [slice]

/-- Rows that had owners, none of which is taken back, stay in their slices. -/
theorem slice_kept (owned : ∀ row ∈ rows, ∃ owner, owner? row = some owner)
    (keeps : OwnersKept owner? later?) :
    slice later? home rows = slice owner? home rows := by
  apply List.filter_congr
  intro row member
  obtain ⟨owner, found⟩ := owned row member
  rw [keeps row owner found, found]

theorem slice_map {update : Row → Row}
    (keeps : ∀ row ∈ rows, later? (update row) = owner? row) :
    slice later? home (rows.map update) = (slice owner? home rows).map update := by
  unfold slice
  rw [List.filter_map]
  congr 1
  apply List.filter_congr
  intro row member
  simp only [Function.comp, keeps row member]

theorem slice_append_own {added : List Row}
    (owned : ∀ row ∈ added, owner? row = some home) :
    slice owner? home (rows ++ added) = slice owner? home rows ++ added := by
  have all : added.filter (fun row => owner? row = some home) = added :=
    List.filter_eq_self.mpr fun row member => decide_eq_true (owned row member)
  rw [slice, List.filter_append, all]
  rfl

theorem slice_append_other {added : List Row}
    (foreign : ∀ row ∈ added, owner? row ≠ some home) :
    slice owner? home (rows ++ added) = slice owner? home rows := by
  have none : added.filter (fun row => owner? row = some home) = [] :=
    List.filter_eq_nil_iff.mpr fun row member => by simpa using foreign row member
  rw [slice, List.filter_append, none, List.append_nil]
  rfl

/-- Rows added, all of one owner. -/
theorem slice_added (owner? : Row → Option Owner) (rows : List Row) {added : List Row}
    {owner : Owner} (owned : ∀ row ∈ added, owner? row = some owner) (home : Owner) :
    slice owner? home (rows ++ added) =
      slice owner? home rows ++ if owner = home then added else [] := by
  by_cases own : owner = home
  · rw [if_pos own, slice_append_own]
    intro row member
    rw [owned row member, own]
  · rw [if_neg own, List.append_nil, slice_append_other]
    intro row member
    rw [owned row member]
    exact fun equal => own (Option.some.inj equal)

theorem slice_grown (owner? : Row → Option Owner) (rows : List Row) {row : Row}
    {owner : Owner} (owned : owner? row = some owner) (home : Owner) :
    slice owner? home (rows ++ [row]) =
      slice owner? home rows ++ if owner = home then [row] else [] :=
  slice_added owner? rows (List.forall_mem_singleton.mpr owned) home

/-! ## Queries -/

theorem filter_slice {matching : Row → Bool}
    (own : ∀ row ∈ rows, matching row = true → owner? row = some home) :
    (slice owner? home rows).filter matching = rows.filter matching := by
  unfold slice
  rw [List.filter_filter]
  apply List.filter_congr
  intro row member
  by_cases hit : matching row = true
  · simp [hit, own row member hit]
  · simp [hit]

theorem filter_eq {other? : Row → Option Owner} {matching otherMatching : Row → Bool}
    (same : slice owner? home rows = slice other? home others)
    (own : ∀ row ∈ rows, matching row = true → owner? row = some home)
    (otherOwn : ∀ row ∈ others, otherMatching row = true → other? row = some home)
    (agree : ∀ row ∈ slice owner? home rows, matching row = otherMatching row) :
    rows.filter matching = others.filter otherMatching := by
  rw [← filter_slice own, ← filter_slice otherOwn, ← same]
  exact List.filter_congr agree

/-- Where the owner is a column. -/
theorem filter_column {owner : Row → Owner} {matching : Row → Bool}
    (same : slice (column owner) home rows =
      slice (column owner) home others)
    (own : ∀ row, matching row = true → owner row = home) :
    rows.filter matching = others.filter matching :=
  filter_eq same (fun row _ hit => congrArg some (own row hit))
    (fun row _ hit => congrArg some (own row hit)) fun _ _ => rfl

theorem filterMap_slice {Answer : Type w} {answer : Row → Option Answer}
    (own : ∀ row ∈ rows, ∀ found, answer row = some found → owner? row = some home) :
    (slice owner? home rows).filterMap answer = rows.filterMap answer := by
  induction rows with
  | nil => rfl
  | cons row rest ih =>
      have later := ih fun other member => own other (List.mem_cons_of_mem _ member)
      have first := own row List.mem_cons_self
      unfold slice at later ⊢
      by_cases hit : owner? row = some home
      · simp [List.filterMap_cons, hit, later]
      · cases answered : answer row with
        | none => simp [hit, later, answered]
        | some found => exact absurd (first found answered) hit

theorem filterMap_eq {Answer : Type w} {other? : Row → Option Owner}
    {answer otherAnswer : Row → Option Answer}
    (same : slice owner? home rows = slice other? home others)
    (own : ∀ row ∈ rows, ∀ found, answer row = some found → owner? row = some home)
    (otherOwn : ∀ row ∈ others, ∀ found, otherAnswer row = some found →
      other? row = some home)
    (agree : ∀ row ∈ slice owner? home rows, answer row = otherAnswer row) :
    rows.filterMap answer = others.filterMap otherAnswer := by
  rw [← filterMap_slice own, ← filterMap_slice otherOwn, ← same]
  exact List.filterMap_congr agree

end Rows

/-! ## Tables -/

section Keyed

variable {Key : Type u} [DecidableEq Key] {key : Row → Key} {table other : Table key}
variable {owner? other? : Row → Option Owner} {home : Owner} {row old : Row}

/-- A row of the owner is found in both tables or in neither. -/
theorem find?_own_iff {wanted : Key}
    (same : slice owner? home table.rows = slice other? home other.rows) :
    (table.find? wanted = some row ∧ owner? row = some home) ↔
      (other.find? wanted = some row ∧ other? row = some home) := by
  have member : row ∈ slice owner? home table.rows ↔ row ∈ slice other? home other.rows := by
    rw [same]
  rw [mem_slice, mem_slice] at member
  simp only [Table.find?_eq_some_iff]
  constructor
  · rintro ⟨⟨stored, hit⟩, owned⟩
    obtain ⟨otherStored, otherOwned⟩ := member.mp ⟨stored, owned⟩
    exact ⟨⟨otherStored, hit⟩, otherOwned⟩
  · rintro ⟨⟨stored, hit⟩, owned⟩
    obtain ⟨otherStored, otherOwned⟩ := member.mpr ⟨stored, owned⟩
    exact ⟨⟨otherStored, hit⟩, otherOwned⟩

/-- The row under a key, if it is the owner's. -/
def findOwn? (table : Table key) (owner : Row → Owner) (home : Owner) (wanted : Key) :
    Option Row :=
  (table.find? wanted).filter fun row => owner row = home

theorem findOwn?_eq_some_iff {owner : Row → Owner} {wanted : Key} :
    findOwn? table owner home wanted = some row ↔
      table.find? wanted = some row ∧ owner row = home := by
  simp [findOwn?, Option.filter_eq_some_iff]

theorem findOwn?_same {owner : Row → Owner}
    (same : slice (column owner) home table.rows =
      slice (column owner) home other.rows) (wanted : Key) :
    findOwn? table owner home wanted = findOwn? other owner home wanted := by
  apply Option.ext
  intro row
  have found : (table.find? wanted = some row ∧ column owner row = some home) ↔
      (other.find? wanted = some row ∧ column owner row = some home) :=
    find?_own_iff same
  simp only [column_eq_some] at found
  rw [findOwn?_eq_some_iff, findOwn?_eq_some_iff, found]

/-- The owner's keys are the same where the slices are. -/
theorem ownerIn_same {owner : Row → Owner}
    (same : slice (column owner) home table.rows =
      slice (column owner) home other.rows) (wanted : Key) :
    ownerIn table owner wanted = some home ↔ ownerIn other owner wanted = some home := by
  have member : ∀ row, row ∈ slice (column owner) home table.rows ↔
      row ∈ slice (column owner) home other.rows := by
    intro row
    rw [same]
  simp only [mem_slice, column_eq_some] at member
  simp only [ownerIn_eq_some]
  constructor
  · rintro ⟨row, stored, hit, owned⟩
    exact ⟨row, ((member row).mp ⟨stored, owned⟩).1, hit, owned⟩
  · rintro ⟨row, stored, hit, owned⟩
    exact ⟨row, ((member row).mpr ⟨stored, owned⟩).1, hit, owned⟩

/-- What a save does to a slice. -/
def replace (key : Row → Key) (row : Row) (rows : List Row) : List Row :=
  rows.map fun old => if key old = key row then row else old

theorem slice_save (stored : old ∈ table.rows) (sameKey : key row = key old)
    (sameOwner : owner? row = owner? old) :
    slice owner? home (table.save row).rows =
      replace key row (slice owner? home table.rows) := by
  apply slice_map
  intro other member
  split
  · rename_i hit
    rw [table.row_unique member stored (hit.trans sameKey), sameOwner]
  · rfl

/-- The rows of the others have other keys. -/
theorem replace_other {away : Owner} (stored : old ∈ table.rows) (sameKey : key row = key old)
    (owned : owner? old = some home) (foreign : away ≠ home) :
    replace key row (slice owner? away table.rows) = slice owner? away table.rows := by
  apply (List.map_congr_left _).trans (List.map_id _)
  intro other member
  obtain ⟨otherStored, otherOwned⟩ := mem_slice.mp member
  rw [if_neg, id]
  intro hit
  rw [table.row_unique otherStored stored (hit.trans sameKey), owned] at otherOwned
  exact foreign (Option.some.inj otherOwned).symm

end Keyed

end KidsChores.Library.Slices
