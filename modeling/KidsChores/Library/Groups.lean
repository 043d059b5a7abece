import Mathlib.Algebra.BigOperators.Group.List.Basic
import Mathlib.Data.List.Nodup

/-!
# Sums by group

The rows of a list fall into groups by a key, and some rows into none.  Adding up
each group and then the groups is adding up the rows that are in one.
-/

set_option autoImplicit false

namespace KidsChores.Library.Groups

universe u v w

variable {Row : Type u} {Key : Type v} {Amount : Type w}

variable [DecidableEq Key] [AddCommMonoid Amount]

/-- The sum of one group. -/
def groupSum (key : Row → Option Key) (value : Row → Amount) (rows : List Row)
    (wanted : Key) : Amount :=
  ((rows.filter fun row => key row = some wanted).map value).sum

variable {key : Row → Option Key} {value : Row → Amount}

theorem groupSum_cons (row : Row) (rest : List Row) (wanted : Key) :
    groupSum key value (row :: rest) wanted =
      (if key row = some wanted then value row else 0) + groupSum key value rest wanted := by
  unfold groupSum
  by_cases own : key row = some wanted
  · simp [own]
  · simp [own]

/-- Each row counts once in the groups of distinct keys. -/
theorem sum_indicator {keys : List Key} (distinct : keys.Nodup) {named : Option Key}
    (listed : ∀ wanted ∈ named, wanted ∈ keys) (amount : Amount) :
    (keys.map fun wanted => if named = some wanted then amount else 0).sum =
      if named.isSome then amount else 0 := by
  cases named with
  | none => simp
  | some wanted =>
      have single := List.sum_map_eq_nsmul_single wanted
        (fun other => if some wanted = some other then amount else 0)
        (l := keys) (fun other different _ => by simp [Ne.symm different])
      rw [single, List.count_eq_one_of_mem distinct (listed wanted rfl), one_nsmul]
      simp

theorem sum_groupSum {keys : List Key} (distinct : keys.Nodup) {rows : List Row}
    (listed : ∀ row ∈ rows, ∀ wanted ∈ key row, wanted ∈ keys) :
    (keys.map (groupSum key value rows)).sum =
      ((rows.filter fun row => (key row).isSome).map value).sum := by
  induction rows with
  | nil =>
      have empty : groupSum key value [] = fun _ => 0 := rfl
      simp [empty]
  | cons row rest ih =>
      have later := ih fun other member => listed other (List.mem_cons_of_mem _ member)
      have first := sum_indicator distinct (listed row List.mem_cons_self) (value row)
      have split : (keys.map (groupSum key value (row :: rest))).sum =
          (keys.map fun wanted => if key row = some wanted then value row else 0).sum +
            (keys.map (groupSum key value rest)).sum := by
        rw [← List.sum_map_add]
        exact congrArg List.sum (List.map_congr_left fun wanted _ => groupSum_cons row rest wanted)
      rw [split, first, later]
      cases grouped : (key row).isSome with
      | true => simp [grouped]
      | false => simp [grouped]

end KidsChores.Library.Groups
