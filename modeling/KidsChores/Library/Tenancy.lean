import KidsChores.Library.Table

/-!
# Rows of one owner

A reference leads to something that may have an owner.  A row is at home when all
its references lead to things of one owner, the owner of its anchor.  What is at
home stays there while no owner is taken back.
-/

set_option autoImplicit false

namespace KidsChores.Library.Tenancy

universe u v w

variable {Ref : Type u} {Owner : Type v} {Row : Type w}

/-- Every reference has the owner of the anchor. -/
def AtHome (owner? : Ref → Option Owner) (anchor : Ref) (refs : List Ref) : Prop :=
  ∃ owner ∈ owner? anchor, ∀ ref ∈ refs, owner? ref = some owner

instance [DecidableEq Owner] (owner? : Ref → Option Owner) (anchor : Ref)
    (refs : List Ref) : Decidable (AtHome owner? anchor refs) :=
  inferInstanceAs (Decidable (∃ owner ∈ owner? anchor, _))

/-- No owner is taken back. -/
def OwnersKept (owner? later? : Ref → Option Owner) : Prop :=
  ∀ ref owner, owner? ref = some owner → later? ref = some owner

theorem OwnersKept.refl (owner? : Ref → Option Owner) : OwnersKept owner? owner? :=
  fun _ _ owned => owned

section Home

variable {owner? later? : Ref → Option Owner} {anchor : Ref} {refs : List Ref}

theorem AtHome.later (home : AtHome owner? anchor refs) (keeps : OwnersKept owner? later?) :
    AtHome later? anchor refs := by
  obtain ⟨owner, owned, all⟩ := home
  exact ⟨owner, keeps anchor owner owned, fun ref member => keeps ref owner (all ref member)⟩

theorem AtHome.of_subset {fewer : List Ref} (home : AtHome owner? anchor refs)
    (subset : fewer ⊆ refs) : AtHome owner? anchor fewer := by
  obtain ⟨owner, owned, all⟩ := home
  exact ⟨owner, owned, fun ref member => all ref (subset member)⟩

/-- Another reference of the anchor's owner. -/
theorem AtHome.cons {owner : Owner} {ref : Ref} (home : AtHome owner? anchor refs)
    (owned : owner? anchor = some owner) (same : owner? ref = some owner) :
    AtHome owner? anchor (ref :: refs) := by
  obtain ⟨found, anchorOwned, all⟩ := home
  have one : found = owner := Option.some.inj (anchorOwned.symm.trans owned)
  rw [one] at all
  exact ⟨owner, owned, List.forall_mem_cons.mpr ⟨same, all⟩⟩

theorem AtHome.owner_eq {owner : Owner} {ref : Ref} (home : AtHome owner? anchor refs)
    (owned : owner? anchor = some owner) (member : ref ∈ refs) :
    owner? ref = some owner := by
  obtain ⟨found, anchorOwned, all⟩ := home
  have one : found = owner := Option.some.inj (anchorOwned.symm.trans owned)
  rw [← one]
  exact all ref member

end Home

/-! ## The rows of a table -/

/-- The references of a kind of row. -/
structure References (Row : Type w) (Ref : Type u) where
  anchor : Row → Ref
  refs : Row → List Ref

def AllHome (owner? : Ref → Option Owner) (references : References Row Ref)
    (rows : List Row) : Prop :=
  ∀ row ∈ rows, AtHome owner? (references.anchor row) (references.refs row)

instance [DecidableEq Owner] (owner? : Ref → Option Owner)
    (references : References Row Ref) (rows : List Row) :
    Decidable (AllHome owner? references rows) :=
  inferInstanceAs (Decidable (∀ row ∈ rows, _))

section Rows

variable {owner? later? : Ref → Option Owner} {references : References Row Ref}
variable {rows : List Row}

theorem AllHome.later (home : AllHome owner? references rows)
    (keeps : OwnersKept owner? later?) : AllHome later? references rows :=
  fun row member => (home row member).later keeps

theorem AllHome.appended {row : Row} (home : AllHome owner? references rows)
    (settled : AtHome owner? (references.anchor row) (references.refs row)) :
    AllHome owner? references (rows ++ [row]) := by
  intro other member
  rcases List.mem_append.mp member with old | new
  · exact home other old
  · rw [List.mem_singleton.mp new]
    exact settled

theorem AllHome.save {Key : Type u} [DecidableEq Key] {key : Row → Key} {table : Table key}
    {row : Row} (home : AllHome owner? references table.rows)
    (settled : AtHome owner? (references.anchor row) (references.refs row)) :
    AllHome owner? references (table.save row).rows := by
  intro other member
  rcases Table.mem_save.mp member with ⟨rfl, _⟩ | ⟨old, _⟩
  · exact settled
  · exact home other old

theorem AllHome.append {numbered : Row → Nat} {table : Table numbered} {build : Nat → Row}
    (home : AllHome owner? references table.rows) (keyed : ∀ k, numbered (build k) = k)
    (settled : AtHome owner? (references.anchor (build table.freshKey))
      (references.refs (build table.freshKey))) :
    AllHome owner? references (table.append build keyed).rows :=
  home.appended settled

end Rows

/-! ## Owners that are columns -/

section Owned

variable {Key : Type u} [DecidableEq Key] {key : Row → Key}

def ownerIn (table : Table key) (owner : Row → Owner) (wanted : Key) : Option Owner :=
  (table.find? wanted).map owner

theorem ownerIn_eq_some {table : Table key} {owner : Row → Owner} {wanted : Key}
    {home : Owner} :
    ownerIn table owner wanted = some home ↔
      ∃ row ∈ table.rows, key row = wanted ∧ owner row = home := by
  simp only [ownerIn, Option.map_eq_some_iff, Table.find?_eq_some_iff, and_assoc]

theorem ownerIn_row {table : Table key} {owner : Row → Owner} {row : Row}
    (member : row ∈ table.rows) : ownerIn table owner (key row) = some (owner row) :=
  ownerIn_eq_some.mpr ⟨row, member, rfl, rfl⟩

/-- Every row is still there, under its key and its owner. -/
theorem ownerIn_kept {table next : Table key} {owner : Row → Owner}
    (kept : ∀ row ∈ table.rows, ∃ later ∈ next.rows,
      key later = key row ∧ owner later = owner row) :
    OwnersKept (ownerIn table owner) (ownerIn next owner) := by
  intro wanted home owned
  obtain ⟨row, member, rfl, rfl⟩ := ownerIn_eq_some.mp owned
  obtain ⟨later, laterMember, sameKey, sameOwner⟩ := kept row member
  exact ownerIn_eq_some.mpr ⟨later, laterMember, sameKey, sameOwner⟩

theorem ownerIn_save {table : Table key} {owner : Row → Owner} {row old : Row}
    (stored : old ∈ table.rows) (sameKey : key row = key old)
    (sameOwner : owner row = owner old) :
    OwnersKept (ownerIn table owner) (ownerIn (table.save row) owner) := by
  refine ownerIn_kept fun other member => ?_
  by_cases hit : key other = key row
  · have same : other = old := table.row_unique member stored (hit.trans sameKey)
    refine ⟨row, Table.mem_save.mpr (Or.inl ⟨rfl, other, member, hit⟩), hit.symm, ?_⟩
    rw [same, sameOwner]
  · exact ⟨other, Table.mem_save.mpr (Or.inr ⟨member, hit⟩), rfl, rfl⟩

end Owned

theorem ownerIn_append {numbered : Row → Nat} {table : Table numbered}
    {owner : Row → Owner} {build : Nat → Row} (keyed : ∀ k, numbered (build k) = k) :
    OwnersKept (ownerIn table owner) (ownerIn (table.append build keyed) owner) :=
  ownerIn_kept fun row member => ⟨row, Table.mem_append.mpr (Or.inl member), rfl, rfl⟩

end KidsChores.Library.Tenancy
