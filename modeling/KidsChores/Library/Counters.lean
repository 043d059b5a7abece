import Mathlib.Logic.Function.Basic
import KidsChores.Library.Expiring

/-!
# Counters that expire by a command of their own

`INCR` and `EXPIRE` of a key-value server.  A counter that `INCR` creates never expires
until an `EXPIRE` sets when.
-/

set_option autoImplicit false

namespace KidsChores.Library

universe u w

structure Counter (Time : Type w) where
  value : Nat
  expiresAt : Option Time := none
  deriving DecidableEq, Repr

/-- What is stored under each key, expired or not. -/
abbrev Counters (Key : Type u) (Time : Type w) := Key → Option (Counter Time)

namespace Counters

variable {Key : Type u} {Time : Type w} [LinearOrder Time]

/-- The counter that is seen: strictly before it expires, if it does. -/
def get (counters : Counters Key Time) (now : Time) (key : Key) : Option (Counter Time) :=
  (counters key).filter fun counter => ∀ expiry ∈ counter.expiresAt, now < expiry

theorem get_eq_some_iff {counters : Counters Key Time} {now : Time} {key : Key}
    {counter : Counter Time} :
    counters.get now key = some counter ↔
      counters key = some counter ∧ ∀ expiry ∈ counter.expiresAt, now < expiry := by
  unfold get
  rw [Option.filter_eq_some_iff, decide_eq_true_eq]

theorem get_unarmed {counters : Counters Key Time} {key : Key} {counter : Counter Time}
    (stored : counters key = some counter) (unarmed : counter.expiresAt = none) (now : Time) :
    counters.get now key = some counter := by
  refine get_eq_some_iff.mpr ⟨stored, ?_⟩
  rw [unarmed]
  nofun

theorem get_expired {counters : Counters Key Time} {now expiry : Time} {key : Key}
    {counter : Counter Time} (stored : counters key = some counter)
    (armed : counter.expiresAt = some expiry) (late : expiry ≤ now) :
    counters.get now key = none := by
  cases seen : counters.get now key with
  | none => rfl
  | some found =>
      obtain ⟨foundStored, live⟩ := get_eq_some_iff.mp seen
      rw [stored] at foundStored
      cases foundStored
      exact absurd (live expiry armed) (not_lt.mpr late)

/-- The counters of a store whose keys all expire. -/
def ofStore (store : Expiring.Store Key Nat Time) : Counters Key Time :=
  fun key => (store key).map fun cell => ⟨cell.value, some cell.expiresAt⟩

theorem get_ofStore {store : Expiring.Store Key Nat Time} {now : Time} {key : Key}
    {cell : Expiring.Cell Nat Time} (stored : store key = some cell) :
    (ofStore store).get now key =
      if now < cell.expiresAt then some ⟨cell.value, some cell.expiresAt⟩ else none := by
  unfold get ofStore
  rw [stored]
  by_cases live : now < cell.expiresAt
  · rw [if_pos live]
    exact Option.filter_some_pos (decide_eq_true fun expiry expires => by
      rw [← Option.some.inj expires]
      exact live)
  · rw [if_neg live]
    refine Option.filter_some_eq_none.mpr fun seen => live ?_
    exact of_decide_eq_true seen cell.expiresAt rfl

theorem get_ofStore_none {store : Expiring.Store Key Nat Time} {now : Time} {key : Key}
    (unstored : store key = none) : (ofStore store).get now key = none := by
  unfold get ofStore
  rw [unstored]
  rfl

variable [DecidableEq Key]

/-- `INCR`: the reply, and the counters with the one that was raised or created. -/
def incr (counters : Counters Key Time) (now : Time) (key : Key) :
    Nat × Counters Key Time :=
  match counters.get now key with
  | some counter => (counter.value + 1,
      Function.update counters key (some { counter with value := counter.value + 1 }))
  | none => (1, Function.update counters key (some { value := 1 }))

/-- `EXPIRE`, of a counter that is there. -/
def expire (counters : Counters Key Time) (now : Time) (key : Key) (expiry : Time) :
    Counters Key Time :=
  match counters.get now key with
  | some counter => Function.update counters key (some { counter with expiresAt := some expiry })
  | none => counters

variable {counters : Counters Key Time} {now expiry : Time} {key other : Key}

theorem incr_other (different : other ≠ key) :
    (counters.incr now key).2 other = counters other := by
  unfold incr
  cases counters.get now key with
  | none => exact Function.update_of_ne different _ _
  | some counter => exact Function.update_of_ne different _ _

theorem expire_other (different : other ≠ key) :
    counters.expire now key expiry other = counters other := by
  unfold expire
  cases counters.get now key with
  | none => rfl
  | some counter => exact Function.update_of_ne different _ _

theorem expire_value : (counters.expire now key expiry other).map Counter.value =
    (counters other).map Counter.value := by
  unfold expire
  cases seen : counters.get now key with
  | none => rfl
  | some counter =>
      dsimp only
      by_cases same : other = key
      · rw [same, Function.update_self, (get_eq_some_iff.mp seen).1]
        rfl
      · rw [Function.update_of_ne same]

theorem expire_unarmed {counter : Counter Time} (stored : counters key = some counter)
    (unarmed : counter.expiresAt = none) :
    counters.expire now key expiry =
      Function.update counters key (some { counter with expiresAt := some expiry }) := by
  unfold expire
  rw [get_unarmed stored unarmed]

/-- A counter that is gone is created anew, and one that is there is raised. -/
theorem incr_reply : (counters.incr now key).1 =
    ((counters.get now key).map Counter.value).getD 0 + 1 := by
  unfold incr
  cases counters.get now key <;> rfl

/-- Commands on counters that agree on their key leave them in agreement. -/
theorem incr_congr {others : Counters Key Time} (same : counters key = others key) :
    (counters.incr now key).1 = (others.incr now key).1 ∧
      (counters.incr now key).2 key = (others.incr now key).2 key := by
  have seen : counters.get now key = others.get now key := by
    unfold get
    rw [same]
  unfold incr
  rw [seen]
  cases others.get now key <;> simp

theorem expire_congr {others : Counters Key Time} (same : counters key = others key) :
    counters.expire now key expiry key = others.expire now key expiry key := by
  have seen : counters.get now key = others.get now key := by
    unfold get
    rw [same]
  unfold expire
  rw [seen]
  cases others.get now key with
  | none => exact same
  | some counter => simp

/-! ## `INCR` and `EXPIRE` at once -/

omit [LinearOrder Time] in
theorem update_ofStore (store : Expiring.Store Key Nat Time) (value : Nat) :
    Function.update (ofStore store) key (some ⟨value, some expiry⟩) =
      ofStore (store.set key value expiry) := by
  funext other
  unfold ofStore Expiring.Store.set
  by_cases hit : other = key
  · subst hit
    rw [Function.update_self, Function.update_self]
    rfl
  · rw [Function.update_of_ne hit, Function.update_of_ne hit]

/-- An `EXPIRE` right after the `INCR` that created the counter. -/
theorem expire_created {counters : Counters Key Time} (gone : counters.get now key = none) :
    (counters.incr now key).2.expire now key expiry =
      Function.update counters key (some ⟨1, some expiry⟩) := by
  have created : (counters.incr now key).2 =
      Function.update counters key (some { value := 1 }) := by
    unfold incr
    rw [gone]
  have seen : (counters.incr now key).2.get now key = some { value := 1 } := by
    rw [get_eq_some_iff, created]
    exact ⟨Function.update_self _ _ _, nofun⟩
  unfold expire
  rw [seen]
  dsimp only
  rw [created, Function.update_idem]

/-- An `INCR`, followed at once by the `EXPIRE` of a new counter, is the `INCR` of a store
that gives new counters their expiry. -/
theorem incr_expire {store : Expiring.Store Key Nat Time}
    (positive : ∀ cell ∈ store key, cell.value ≠ 0) :
    ((ofStore store).incr now key).1 = (store.incr now key expiry).1 ∧
      (if ((ofStore store).incr now key).1 = 1 then
          ((ofStore store).incr now key).2.expire now key expiry
        else ((ofStore store).incr now key).2) = ofStore (store.incr now key expiry).2 := by
  have created : (ofStore store).get now key = none → ((ofStore store).incr now key).1 = 1 := by
    intro gone
    rw [incr_reply, gone]
    rfl
  cases stored : store key with
  | none =>
      have gone : (ofStore store).get now key = none := get_ofStore_none stored
      rw [created gone, if_pos rfl, expire_created gone, update_ofStore]
      simp [Expiring.Store.incr, stored]
  | some cell =>
      have seen : (ofStore store).get now key = _ := get_ofStore stored
      by_cases live : now < cell.expiresAt
      · rw [if_pos live] at seen
        simp [incr, seen, Expiring.Store.incr, stored, live, update_ofStore,
          positive cell stored]
      · rw [if_neg live] at seen
        rw [created seen, if_pos rfl, expire_created seen, update_ofStore]
        simp [Expiring.Store.incr, stored, live]

end Counters

end KidsChores.Library
