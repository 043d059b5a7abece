import Mathlib.Logic.Function.Basic
import Mathlib.Order.Lattice

/-!
# A store whose keys expire

`GET`, `SET … EX`, `SET … NX EX`, `DEL` and `INCR` of a key-value server.  A key is seen
strictly before the instant it expires at.
-/

set_option autoImplicit false

namespace KidsChores.Library.Expiring

universe u v w

structure Cell (Value : Type v) (Time : Type w) where
  value : Value
  expiresAt : Time
  deriving DecidableEq, Repr

/-- What is stored under each key, expired or not. -/
abbrev Store (Key : Type u) (Value : Type v) (Time : Type w) :=
  Key → Option (Cell Value Time)

namespace Store

variable {Key : Type u} {Value : Type v} {Time : Type w} [LinearOrder Time]

def empty : Store Key Value Time := fun _ => none

def get (store : Store Key Value Time) (now : Time) (key : Key) : Option Value :=
  match store key with
  | none => none
  | some cell => if now < cell.expiresAt then some cell.value else none

/-- What is seen is stored. -/
theorem stored_of_get {store : Store Key Value Time} {now : Time} {key : Key}
    {found : Value} (seen : store.get now key = some found) :
    ∃ cell, store key = some cell ∧ cell.value = found := by
  unfold get at seen
  cases stored : store key with
  | none => simp [stored] at seen
  | some cell =>
      simp only [stored] at seen
      split at seen
      · exact ⟨cell, rfl, Option.some.inj seen⟩
      · cases seen

/-- What is seen later was already stored, and seen, before. -/
theorem get_earlier {store : Store Key Value Time} {now later : Time} {key : Key}
    {found : Value} (seen : store.get later key = some found) (before : now ≤ later) :
    store.get now key = some found := by
  unfold get at seen ⊢
  cases stored : store key with
  | none => simp [stored] at seen
  | some cell =>
      simp only [stored] at seen ⊢
      split at seen
      · rename_i live
        rw [if_pos (before.trans_lt live)]
        exact seen
      · cases seen

variable [DecidableEq Key]

def set (store : Store Key Value Time) (key : Key) (value : Value) (expiresAt : Time) :
    Store Key Value Time :=
  Function.update store key (some ⟨value, expiresAt⟩)

def delete (store : Store Key Value Time) (key : Key) : Store Key Value Time :=
  Function.update store key none

/-- Whether the key was free, and the store with the key taken. -/
def setNx (store : Store Key Value Time) (now : Time) (key : Key) (value : Value)
    (expiresAt : Time) : Bool × Store Key Value Time :=
  match store.get now key with
  | none => (true, store.set key value expiresAt)
  | some _ => (false, store)

/-- `INCR` of a counter, with the expiry that a new counter is given. -/
def incr (store : Store Key Nat Time) (now : Time) (key : Key) (fresh : Time) :
    Nat × Store Key Nat Time :=
  match store key with
  | some cell =>
      if now < cell.expiresAt then
        (cell.value + 1, store.set key (cell.value + 1) cell.expiresAt)
      else (1, store.set key 1 fresh)
  | none => (1, store.set key 1 fresh)

variable {store : Store Key Value Time} {now expiresAt : Time} {key other : Key}
  {value found : Value}

@[simp] theorem get_set_self : (store.set key value expiresAt).get now key =
    if now < expiresAt then some value else none := by
  simp [get, set]

@[simp] theorem get_set_other (different : other ≠ key) :
    (store.set key value expiresAt).get now other = store.get now other := by
  simp [get, set, different]

@[simp] theorem get_delete_self : (store.delete key).get now key = none := by
  simp [get, delete]

@[simp] theorem get_delete_other (different : other ≠ key) :
    (store.delete key).get now other = store.get now other := by
  simp [get, delete, different]

theorem setNx_granted (free : store.get now key = none) :
    store.setNx now key value expiresAt = (true, store.set key value expiresAt) := by
  simp [setNx, free]

theorem setNx_refused (taken : store.get now key = some found) :
    store.setNx now key value expiresAt = (false, store) := by
  simp [setNx, taken]

/-! ### Counters -/

section Counters

variable {counters others : Store Key Nat Time} {fresh : Time} {asked : Key}

theorem incr_count : (counters.incr now key fresh).1 = (counters.get now key).getD 0 + 1 := by
  unfold incr get
  cases counters key with
  | none => rfl
  | some cell =>
      dsimp only
      split <;> rfl

theorem incr_other (different : asked ≠ key) :
    (counters.incr now key fresh).2 asked = counters asked := by
  unfold incr
  cases counters key with
  | none => exact Function.update_of_ne different _ _
  | some cell =>
      dsimp only
      split <;> exact Function.update_of_ne different _ _

/-- The count goes up, or starts anew with a later expiry. -/
theorem incr_self_ne (lasts : now < fresh) :
    (counters.incr now key fresh).2 key ≠ counters key := by
  unfold incr
  cases stored : counters key with
  | none => simp [set]
  | some cell =>
      obtain ⟨count, expiresAt⟩ := cell
      by_cases live : now < expiresAt
      · simp [live, set]
      · have later : expiresAt < fresh := (not_lt.mp live).trans_lt lasts
        simp [live, set, later.ne']

/-- Counters that agree on the key and on the one asked for still do. -/
theorem incr_same (same : counters key = others key) (sameAsked : counters asked = others asked) :
    (counters.incr now key fresh).2 asked = (others.incr now key fresh).2 asked := by
  by_cases hit : asked = key
  · rw [hit]
    unfold incr
    rw [← same]
    cases counters key with
    | none => simp [set]
    | some cell =>
        dsimp only
        split <;> simp [set]
  · rw [incr_other hit, incr_other hit, sameAsked]

end Counters

end Store

end KidsChores.Library.Expiring
