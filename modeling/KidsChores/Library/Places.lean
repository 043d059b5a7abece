import Mathlib.Data.List.Nodup
import Mathlib.Data.List.Perm.Subperm
import Mathlib.Logic.Function.Basic

/-!
# Places in windows

Each call takes the next place in the open window of its key, or opens a new window and
takes its first place.  The places of a window are then taken one by one, by one call
each.
-/

set_option autoImplicit false

namespace KidsChores.Library

universe u v

theorem update_eq_iff {Key : Type u} {Value : Type v} [DecidableEq Key] {stored : Key → Value}
    {key asked : Key} {value seen : Value} :
    Function.update stored key value asked = seen ↔
      (asked = key ∧ value = seen) ∨ (asked ≠ key ∧ stored asked = seen) := by
  by_cases same : asked = key
  · subst same
    simp
  · simp [same]

/-- The window and the place each call took; for each key how many windows were opened,
and how many places of the last one are taken. -/
structure Places (Id : Type u) (Key : Type v) where
  hit : Id → Option (Nat × Nat)
  taken : Key → Nat
  opened : Key → Nat

namespace Places

variable {Id : Type u} {Key : Type v}

structure WellPlaced (keyOf : Id → Key) (places : Places Id Key) : Prop where
  past : ∀ id window place, places.hit id = some (window, place) →
    0 < place ∧ window ≤ places.opened (keyOf id)
  present : ∀ id place, places.hit id = some (places.opened (keyOf id), place) →
    place ≤ places.taken (keyOf id)
  distinct : ∀ id other spot, places.hit id = some spot → places.hit other = some spot →
    keyOf id = keyOf other → id = other
  filled : ∀ key place, 0 < place → place ≤ places.taken key →
    ∃ id, keyOf id = key ∧ places.hit id = some (places.opened key, place)
  gapless : ∀ id window count, places.hit id = some (window, count) →
    ∀ place, 0 < place → place ≤ count →
      ∃ other, keyOf other = keyOf id ∧ places.hit other = some (window, place)

variable {keyOf : Id → Key} {places : Places Id Key}

/-- At most `most` calls have one of the first `most` places of a window. -/
theorem WellPlaced.length_le (placed : WellPlaced keyOf places) {key : Key}
    {window most : Nat} {ids : List Id} (different : ids.Nodup)
    (early : ∀ id ∈ ids, keyOf id = key ∧
      ∃ place ≤ most, places.hit id = some (window, place)) : ids.length ≤ most := by
  let placeOf : Id → Nat := fun id => ((places.hit id).map Prod.snd).getD 0
  have placeOf_eq : ∀ {id place}, places.hit id = some (window, place) →
      placeOf id = place := by
    intro id place hit
    dsimp only [placeOf]
    rw [hit]
    rfl
  have apart : (ids.map placeOf).Nodup := by
    refine (List.nodup_map_iff_inj_on different).mpr ?_
    intro id member other otherMember same
    obtain ⟨sameKey, place, _, hit⟩ := early id member
    obtain ⟨otherKey, otherPlace, _, otherHit⟩ := early other otherMember
    rw [placeOf_eq hit, placeOf_eq otherHit] at same
    rw [← same] at otherHit
    exact placed.distinct id other _ hit otherHit (sameKey.trans otherKey.symm)
  have within : ids.map placeOf ⊆ List.range' 1 most := by
    intro place member
    obtain ⟨id, memberId, rfl⟩ := List.mem_map.mp member
    obtain ⟨_, place, bound, hit⟩ := early id memberId
    have positive := (placed.past id window place hit).1
    rw [placeOf_eq hit, List.mem_range'_1]
    omega
  have shorter := (apart.subperm within).length_le
  rw [List.length_map, List.length_range'] at shorter
  exact shorter

variable [DecidableEq Id] [DecidableEq Key]

omit [DecidableEq Key] in
/-- A call without a place takes one, and the others keep theirs. -/
theorem hit_update {call id : Id} {spot : Nat × Nat} {taken : Option (Nat × Nat)}
    (free : places.hit call = none) (hit : places.hit id = some spot) :
    Function.update places.hit call taken id = some spot := by
  have different : id ≠ call := by
    rintro rfl
    rw [free] at hit
    cases hit
  rw [Function.update_of_ne different]
  exact hit

omit [DecidableEq Key] in
theorem WellPlaced.distinct_update {call : Id} {taken : Nat × Nat}
    (placed : WellPlaced keyOf places)
    (unused : ∀ id, keyOf id = keyOf call → places.hit id ≠ some taken) {id other : Id}
    {spot : Nat × Nat} (hit : Function.update places.hit call (some taken) id = some spot)
    (otherHit : Function.update places.hit call (some taken) other = some spot)
    (sameKey : keyOf id = keyOf other) : id = other := by
  rcases update_eq_iff.mp hit with ⟨rfl, found⟩ | ⟨_, old⟩ <;>
    rcases update_eq_iff.mp otherHit with ⟨rfl, otherFound⟩ | ⟨_, otherOld⟩
  · rfl
  · exact absurd (otherOld.trans found.symm) (unused other sameKey.symm)
  · exact absurd (old.trans otherFound.symm) (unused id sameKey)
  · exact placed.distinct id other spot old otherOld sameKey

/-- The next place in the open window. -/
def take (places : Places Id Key) (call : Id) (key : Key) : Places Id Key where
  hit := Function.update places.hit call (some (places.opened key, places.taken key + 1))
  taken := Function.update places.taken key (places.taken key + 1)
  opened := places.opened

/-- The first place in a new window. -/
def openWindow (places : Places Id Key) (call : Id) (key : Key) : Places Id Key where
  hit := Function.update places.hit call (some (places.opened key + 1, 1))
  taken := Function.update places.taken key 1
  opened := Function.update places.opened key (places.opened key + 1)

theorem WellPlaced.take {call : Id} (placed : WellPlaced keyOf places)
    (free : places.hit call = none) : WellPlaced keyOf (places.take call (keyOf call)) where
  past := by
    intro id window place hit
    rcases update_eq_iff.mp hit with ⟨rfl, spot⟩ | ⟨_, old⟩
    · cases spot
      exact ⟨Nat.succ_pos _, Nat.le_refl _⟩
    · exact placed.past id window place old
  present := by
    intro id place hit
    dsimp only [Places.take]
    rcases update_eq_iff.mp hit with ⟨rfl, spot⟩ | ⟨_, old⟩
    · cases spot
      refine Nat.le_of_eq ?_
      rw [Function.update_self]
    · have bound := placed.present id place old
      by_cases same : keyOf id = keyOf call
      · rw [same, Function.update_self]
        rw [same] at bound
        omega
      · rw [Function.update_of_ne same]
        exact bound
  distinct := by
    have last : ∀ id, keyOf id = keyOf call →
        places.hit id ≠ some (places.opened (keyOf call), places.taken (keyOf call) + 1) := by
      intro id same hit
      have bound := placed.present id (places.taken (keyOf call) + 1) (by rw [hit, same])
      rw [same] at bound
      omega
    exact fun id other spot => placed.distinct_update last
  filled := by
    intro key place positive bound
    dsimp only [Places.take] at bound ⊢
    by_cases last : key = keyOf call ∧ place = places.taken key + 1
    · obtain ⟨rfl, rfl⟩ := last
      exact ⟨call, rfl, update_eq_iff.mpr (Or.inl ⟨rfl, rfl⟩)⟩
    · have within : place ≤ places.taken key := by
        by_cases same : key = keyOf call
        · rw [same, Function.update_self, ← same] at bound
          have before : place ≠ places.taken key + 1 := fun equal => last ⟨same, equal⟩
          omega
        · rw [Function.update_of_ne same] at bound
          exact bound
      obtain ⟨id, same, hit⟩ := placed.filled key place positive within
      exact ⟨id, same, hit_update free hit⟩
  gapless := by
    intro id window count hit place positive bound
    dsimp only [Places.take] at hit ⊢
    rcases update_eq_iff.mp hit with ⟨rfl, spot⟩ | ⟨_, old⟩
    · cases spot
      rcases Nat.lt_or_eq_of_le bound with before | rfl
      · obtain ⟨other, same, otherHit⟩ := placed.filled (keyOf id) place positive
          (Nat.le_of_lt_succ before)
        exact ⟨other, same, hit_update free otherHit⟩
      · exact ⟨id, rfl, hit⟩
    · obtain ⟨other, same, otherHit⟩ := placed.gapless id window count old place positive bound
      exact ⟨other, same, hit_update free otherHit⟩

theorem WellPlaced.openWindow {call : Id} (placed : WellPlaced keyOf places)
    (free : places.hit call = none) :
    WellPlaced keyOf (places.openWindow call (keyOf call)) where
  past := by
    intro id window place hit
    dsimp only [Places.openWindow]
    rcases update_eq_iff.mp hit with ⟨rfl, spot⟩ | ⟨_, old⟩
    · cases spot
      rw [Function.update_self]
      exact ⟨Nat.one_pos, Nat.le_refl _⟩
    · obtain ⟨positive, bound⟩ := placed.past id window place old
      refine ⟨positive, ?_⟩
      by_cases same : keyOf id = keyOf call
      · rw [same, Function.update_self]
        rw [same] at bound
        omega
      · rw [Function.update_of_ne same]
        exact bound
  present := by
    intro id place hit
    dsimp only [Places.openWindow] at hit ⊢
    rcases update_eq_iff.mp hit with ⟨rfl, spot⟩ | ⟨_, old⟩
    · rw [Function.update_self] at spot ⊢
      cases spot
      exact Nat.le_refl _
    · by_cases same : keyOf id = keyOf call
      · rw [same, Function.update_self] at old
        have bound := (placed.past id _ place old).2
        rw [same] at bound
        omega
      · rw [Function.update_of_ne same] at old ⊢
        exact placed.present id place old
  distinct := by
    have unopened : ∀ id place, keyOf id = keyOf call →
        places.hit id ≠ some (places.opened (keyOf call) + 1, place) := by
      intro id place same hit
      have bound := (placed.past id _ place hit).2
      rw [same] at bound
      omega
    exact fun id other spot => placed.distinct_update fun id => unopened id 1
  filled := by
    intro key place positive bound
    dsimp only [Places.openWindow] at bound ⊢
    by_cases same : key = keyOf call
    · subst same
      rw [Function.update_self] at bound ⊢
      have first : place = 1 := by omega
      subst first
      exact ⟨call, rfl, update_eq_iff.mpr (Or.inl ⟨rfl, rfl⟩)⟩
    · rw [Function.update_of_ne same] at bound ⊢
      obtain ⟨id, sameKey, hit⟩ := placed.filled key place positive bound
      exact ⟨id, sameKey, hit_update free hit⟩
  gapless := by
    intro id window count hit place positive bound
    dsimp only [Places.openWindow] at hit ⊢
    rcases update_eq_iff.mp hit with ⟨rfl, spot⟩ | ⟨_, old⟩
    · cases spot
      have first : place = 1 := by omega
      subst first
      exact ⟨id, rfl, hit⟩
    · obtain ⟨other, same, otherHit⟩ := placed.gapless id window count old place positive bound
      exact ⟨other, same, hit_update free otherHit⟩

end Places

end KidsChores.Library
