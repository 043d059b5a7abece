import Mathlib.Algebra.Order.Monoid.Defs
import Mathlib.Data.Finset.Max
import KidsChores.Library.Places

/-!
# Places taken within a span of time

A window lasts at least a span from the call that opened it on.  So a span meets at most
two windows, and the opener of the first is not in it: of the calls with one of the first
`most` places of their window, a span holds at most `2 * most - 1`.
-/

set_option autoImplicit false

namespace KidsChores.Library.Places

universe u v w

variable {Id : Type u} {Key : Type v} {Time : Type w}

/-- The place a call took, and when. -/
structure TookAt (places : Places Id Key) (hitAt : Id → Option Time) (id : Id)
    (window place : Nat) (time : Time) : Prop where
  hit : places.hit id = some (window, place)
  time : hitAt id = some time

variable [AddCommMonoid Time] [LinearOrder Time]

/-- Windows follow each other, and a later one starts no sooner than a span after the
earlier one was opened. -/
structure Spaced (keyOf : Id → Key) (span : Key → Time) (places : Places Id Key)
    (hitAt : Id → Option Time) (clock : Time) : Prop where
  timed : ∀ id, (hitAt id).isSome = (places.hit id).isSome
  past : ∀ id time, hitAt id = some time → time ≤ clock
  inOrder : ∀ id other window later place otherPlace time otherTime,
    places.TookAt hitAt id window place time →
    places.TookAt hitAt other later otherPlace otherTime →
    keyOf id = keyOf other → window < later → time ≤ otherTime
  apart : ∀ id other window later otherPlace time otherTime,
    places.TookAt hitAt id window 1 time →
    places.TookAt hitAt other later otherPlace otherTime →
    keyOf id = keyOf other → window < later → time + span (keyOf id) ≤ otherTime
  closed : ∀ id window time, places.TookAt hitAt id window 1 time →
    window < places.opened (keyOf id) → time + span (keyOf id) ≤ clock

section Count

variable {keyOf : Id → Key} {span : Key → Time} {places : Places Id Key}
  {hitAt : Id → Option Time} {clock since : Time} {key : Key}

/-- The window of a call. -/
def windowOf (places : Places Id Key) (id : Id) : Nat :=
  ((places.hit id).map Prod.fst).getD 0

omit [AddCommMonoid Time] [LinearOrder Time] in
theorem TookAt.windowOf {id : Id} {window place : Nat} {time : Time}
    (took : places.TookAt hitAt id window place time) : places.windowOf id = window := by
  unfold Places.windowOf
  rw [took.hit]
  rfl

/-- The call has one of the first places of a window of the key, and took it in the span
from `since` on. -/
structure TookWithin (keyOf : Id → Key) (span : Key → Time) (places : Places Id Key)
    (hitAt : Id → Option Time) (key : Key) (since : Time) (most : Nat) (id : Id) : Prop where
  under : keyOf id = key
  took : ∃ place time, place ≤ most ∧ places.TookAt hitAt id (places.windowOf id) place time ∧
    since ≤ time ∧ time < since + span key

variable {most : Nat} {id other last : Id}

/-- Where a later window has a call in the span, an earlier one was opened before it. -/
theorem Spaced.opened_before [IsOrderedCancelAddMonoid Time]
    (spaced : Spaced keyOf span places hitAt clock)
    (within : TookWithin keyOf span places hitAt key since most last) {window : Nat}
    {time : Time} (opener : places.TookAt hitAt id window 1 time) (under : keyOf id = key)
    (earlier : window < places.windowOf last) : time < since := by
  obtain ⟨place, lastTime, _, took, _, soon⟩ := within.took
  have late := spaced.apart id last _ _ _ _ _ opener took (under.trans within.under.symm) earlier
  rw [under] at late
  exact lt_of_add_lt_add_right (late.trans_lt soon)

/-- Every window with a call has an opener. -/
theorem Spaced.opener (spaced : Spaced keyOf span places hitAt clock)
    (placed : places.WellPlaced keyOf) {window place : Nat} {time : Time}
    (took : places.TookAt hitAt id window place time) :
    ∃ opener opening, keyOf opener = keyOf id ∧
      places.TookAt hitAt opener window 1 opening := by
  have positive := (placed.past id window place took.hit).1
  obtain ⟨opener, under, hit⟩ := placed.gapless id window place took.hit 1 Nat.one_pos positive
  have known := spaced.timed opener
  rw [hit] at known
  obtain ⟨opening, opened⟩ := Option.isSome_iff_exists.mp known
  exact ⟨opener, opening, under, hit, opened⟩

/-- A span meets no three windows. -/
theorem Spaced.not_between [IsOrderedCancelAddMonoid Time]
    (spaced : Spaced keyOf span places hitAt clock) (placed : places.WellPlaced keyOf)
    (first : TookWithin keyOf span places hitAt key since most id)
    (second : TookWithin keyOf span places hitAt key since most other)
    (third : TookWithin keyOf span places hitAt key since most last)
    (before : places.windowOf id < places.windowOf other) :
    ¬ places.windowOf other < places.windowOf last := by
  intro after
  obtain ⟨_, _, _, otherTook, _, _⟩ := second.took
  obtain ⟨opener, opening, under, opened⟩ := spaced.opener placed otherTook
  have early := spaced.opened_before third opened (under.trans second.under) after
  obtain ⟨_, time, _, took, late, _⟩ := first.took
  have order := spaced.inOrder id opener _ _ _ _ _ _ took opened
    (first.under.trans (second.under.symm.trans under.symm)) before
  exact absurd (late.trans order) (not_le.mpr early)

/-- The calls of a span that come before its last window are all of one window, and its
opener is not among them. -/
theorem Spaced.earlier_lt [IsOrderedCancelAddMonoid Time]
    (spaced : Spaced keyOf span places hitAt clock) (placed : places.WellPlaced keyOf)
    {ids : List Id} (different : ids.Nodup)
    (last_within : TookWithin keyOf span places hitAt key since most last)
    (within : ∀ id ∈ ids, TookWithin keyOf span places hitAt key since most id)
    (before : ∀ id ∈ ids, places.windowOf id < places.windowOf last) :
    ids = [] ∨ ids.length < most := by
  cases ids with
  | nil => exact Or.inl rfl
  | cons first rest =>
      right
      have firstWithin := within first List.mem_cons_self
      obtain ⟨_, _, _, firstTook, _, _⟩ := firstWithin.took
      obtain ⟨opener, opening, under, opened⟩ := spaced.opener placed firstTook
      have early := spaced.opened_before last_within opened (under.trans firstWithin.under)
        (before first List.mem_cons_self)
      have oneWindow : ∀ id ∈ first :: rest, places.windowOf id = places.windowOf first := by
        intro id member
        by_contra other
        rcases Nat.lt_or_gt_of_ne other with less | more
        · exact spaced.not_between placed (within id member) firstWithin last_within less
            (before first List.mem_cons_self)
        · exact spaced.not_between placed firstWithin (within id member) last_within more
            (before id member)
      have outside : opener ∉ first :: rest := by
        intro member
        obtain ⟨_, time, _, took, late, _⟩ := (within opener member).took
        rw [Option.some.inj (took.time.symm.trans opened.time)] at late
        exact absurd early (not_lt.mpr late)
      have positive : 1 ≤ most := by
        obtain ⟨place, _, bound, took, _, _⟩ := firstWithin.took
        have started := (placed.past first _ place took.hit).1
        omega
      refine @WellPlaced.length_le _ _ _ _ placed key (places.windowOf first) most
        (opener :: first :: rest) (List.nodup_cons.mpr ⟨outside, different⟩) ?_
      intro id member
      rcases List.mem_cons.mp member with rfl | member
      · exact ⟨under.trans firstWithin.under, 1, positive, opened.hit⟩
      · obtain ⟨place, _, bound, took, _, _⟩ := (within id member).took
        rw [oneWindow id member] at took
        exact ⟨(within id member).under, place, bound, took.hit⟩

theorem Spaced.length_le [IsOrderedCancelAddMonoid Time] [DecidableEq Id]
    (spaced : Spaced keyOf span places hitAt clock) (placed : places.WellPlaced keyOf)
    {ids : List Id} (different : ids.Nodup)
    (within : ∀ id ∈ ids, TookWithin keyOf span places hitAt key since most id) :
    ids.length ≤ 2 * most - 1 := by
  by_cases none : ids = []
  · rw [none]
    exact Nat.zero_le _
  obtain ⟨last, member, latest⟩ := ids.toFinset.exists_max_image places.windowOf
    (List.toFinset_nonempty_iff ids |>.mpr none)
  have lastWithin := within last (List.mem_toFinset.mp member)
  -- The calls of the last window, and those before it.
  let isLast : Id → Bool := fun id => places.windowOf id = places.windowOf last
  have atEnd : (ids.filter isLast).length ≤ most := by
    refine @WellPlaced.length_le _ _ _ _ placed key (places.windowOf last) most _
      (different.filter _) ?_
    intro id picked
    obtain ⟨listed, same⟩ := List.mem_filter.mp picked
    obtain ⟨place, _, bound, took, _, _⟩ := (within id listed).took
    rw [of_decide_eq_true same] at took
    exact ⟨(within id listed).under, place, bound, took.hit⟩
  have before := @Spaced.earlier_lt _ _ _ _ _ keyOf span places hitAt clock since key most last _
    spaced placed (ids.filter fun id => ! isLast id) (different.filter _) lastWithin
    (fun id picked => within id (List.mem_filter.mp picked).1) (by
      intro id picked
      obtain ⟨listed, other⟩ := List.mem_filter.mp picked
      have bound := latest id (List.mem_toFinset.mpr listed)
      have differs : places.windowOf id ≠ places.windowOf last := by
        simpa [isLast] using other
      omega)
  have parts := List.length_eq_length_filter_add isLast (l := ids)
  have some := List.length_pos_of_ne_nil none
  rcases before with nothing | fewer
  · rw [nothing] at parts
    simp only [List.length_nil, Nat.add_zero] at parts
    omega
  · omega

end Count

/-! ## One call after another -/

section Steps

variable {keyOf : Id → Key} {span : Key → Time} {places next : Places Id Key}
  {hitAt : Id → Option Time} {clock now : Time} {call : Id}

theorem Spaced.later (spaced : Spaced keyOf span places hitAt clock) (order : clock ≤ now) :
    Spaced keyOf span places hitAt now where
  timed := spaced.timed
  past id time hit := (spaced.past id time hit).trans order
  inOrder := spaced.inOrder
  apart := spaced.apart
  closed id window time opener early := (spaced.closed id window time opener early).trans order

variable [DecidableEq Id]

/-- A call takes a place in the last window, be it a new one. -/
structure Takes (keyOf : Id → Key) (places next : Places Id Key) (call : Id) (place : Nat) :
    Prop where
  free : places.hit call = none
  hit : next.hit = Function.update places.hit call (some (next.opened (keyOf call), place))
  opened : ∀ key, places.opened key ≤ next.opened key

omit [AddCommMonoid Time] [LinearOrder Time] in
/-- The place is the call's, or it was taken before. -/
theorem Takes.tookAt {place otherPlace window : Nat} {id : Id} {time : Time}
    (takes : Takes keyOf places next call place)
    (took : next.TookAt (Function.update hitAt call (some now)) id window otherPlace time) :
    (id = call ∧ window = next.opened (keyOf call) ∧ otherPlace = place ∧ time = now) ∨
      id ≠ call ∧ places.TookAt hitAt id window otherPlace time := by
  have hit := took.hit
  rw [takes.hit] at hit
  rcases update_eq_iff.mp hit with ⟨same, spot⟩ | ⟨other, old⟩
  · cases spot
    refine Or.inl ⟨same, rfl, rfl, ?_⟩
    have known := took.time
    rw [same, Function.update_self] at known
    exact (Option.some.inj known).symm
  · refine Or.inr ⟨other, old, ?_⟩
    have known := took.time
    rw [Function.update_of_ne other] at known
    exact known

/-- The windows stay spaced when those that were left before are over. -/
theorem Spaced.step {place : Nat} (spaced : Spaced keyOf span places hitAt clock)
    (placed : places.WellPlaced keyOf) (order : clock ≤ now)
    (takes : Takes keyOf places next call place)
    (passed : ∀ id window time, places.TookAt hitAt id window 1 time →
      window < next.opened (keyOf id) → time + span (keyOf id) ≤ now) :
    Spaced keyOf span next (Function.update hitAt call (some now)) now := by
  have bound : ∀ {id window place time}, places.TookAt hitAt id window place time →
      window ≤ next.opened (keyOf id) := by
    intro id window place time took
    exact (placed.past id window place took.hit).2.trans (takes.opened (keyOf id))
  refine ⟨?_, ?_, ?_, ?_, ?_⟩
  · intro id
    rw [takes.hit]
    by_cases own : id = call
    · subst own
      rw [Function.update_self, Function.update_self]
      rfl
    · rw [Function.update_of_ne own, Function.update_of_ne own]
      exact spaced.timed id
  · intro id time hit
    rcases update_eq_iff.mp hit with ⟨_, same⟩ | ⟨_, old⟩
    · exact (Option.some.inj same).symm.le
    · exact (spaced.past id time old).trans order
  · intro id other window later place otherPlace time otherTime took otherTook sameKey before
    rcases takes.tookAt otherTook with ⟨_, _, _, rfl⟩ | ⟨_, otherOld⟩
    · rcases takes.tookAt took with ⟨_, _, _, rfl⟩ | ⟨_, old⟩
      · exact le_rfl
      · exact (spaced.past id time old.time).trans order
    · rcases takes.tookAt took with ⟨own, rfl, _, _⟩ | ⟨_, old⟩
      · have late := bound otherOld
        rw [← sameKey, own] at late
        exact absurd before (Nat.not_lt_of_le late)
      · exact spaced.inOrder id other _ _ _ _ _ _ old otherOld sameKey before
  · intro id other window later otherPlace time otherTime took otherTook sameKey before
    rcases takes.tookAt took with ⟨own, rfl, _, _⟩ | ⟨_, old⟩
    · rcases takes.tookAt otherTook with ⟨_, rfl, _, _⟩ | ⟨_, otherOld⟩
      · exact absurd before (Nat.lt_irrefl _)
      · have late := bound otherOld
        rw [← sameKey, own] at late
        exact absurd before (Nat.not_lt_of_le late)
    · rcases takes.tookAt otherTook with ⟨otherOwn, rfl, _, rfl⟩ | ⟨_, otherOld⟩
      · rw [← otherOwn, ← sameKey] at before
        exact passed id window time old before
      · exact spaced.apart id other _ _ _ _ _ old otherOld sameKey before
  · intro id window time took early
    rcases takes.tookAt took with ⟨own, rfl, _, _⟩ | ⟨_, old⟩
    · rw [own] at early
      exact absurd early (Nat.lt_irrefl _)
    · exact passed id window time old early

end Steps

end KidsChores.Library.Places
