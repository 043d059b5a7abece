/-!
# Two computations side by side

Both raise the same error, or both return and what they return is related.  The rules
follow the two computations step by step.
-/

set_option autoImplicit false

namespace KidsChores.Library

universe u v w x y

variable {Error : Type u} {First : Type v} {Second : Type w} {Third : Type x}
  {Fourth : Type y}

inductive Alike (related : First → Second → Prop) :
    Except Error First → Except Error Second → Prop where
  | raised (error : Error) : Alike related (.error error) (.error error)
  | returned {first : First} {second : Second} (agree : related first second) :
      Alike related (.ok first) (.ok second)

namespace Alike

variable {related : First → Second → Prop} {after : Third → Fourth → Prop}

theorem bind {first : Except Error First} {second : Except Error Second}
    {next : First → Except Error Third} {otherNext : Second → Except Error Fourth}
    (results : Alike related first second)
    (rest : ∀ value other, first = .ok value → second = .ok other → related value other →
      Alike after (next value) (otherNext other)) :
    Alike after (first.bind next) (second.bind otherNext) := by
  cases results with
  | raised error => exact .raised error
  | returned agree => exact rest _ _ rfl rfl agree

/-- The two computations begin with the same one. -/
theorem bind_same {result : Except Error First} {next : First → Except Error Third}
    {otherNext : First → Except Error Fourth}
    (rest : ∀ value, result = .ok value → Alike after (next value) (otherNext value)) :
    Alike after (result.bind next) (result.bind otherNext) := by
  cases result with
  | error raised => exact .raised raised
  | ok value => exact rest value rfl

/-- Both check the same condition first. -/
theorem guard {refused : Prop} [Decidable refused] {error : Error}
    {first : Except Error First} {second : Except Error Second}
    (rest : ¬ refused → Alike related first second) :
    Alike related (if refused then .error error else first)
      (if refused then .error error else second) := by
  by_cases hit : refused
  · rw [if_pos hit, if_pos hit]
    exact .raised error
  · rw [if_neg hit, if_neg hit]
    exact rest hit

theorem map {first : Except Error First} {second : Except Error Second}
    {change : First → Third} {otherChange : Second → Fourth}
    (results : Alike related first second)
    (agree : ∀ value other, related value other → after (change value) (otherChange other)) :
    Alike after (first.map change) (second.map otherChange) := by
  cases results with
  | raised error => exact .raised error
  | returned both => exact .returned (agree _ _ both)

theorem mapError {Other : Type u} {first : Except Error First}
    {second : Except Error Second} (results : Alike related first second)
    (change : Error → Other) :
    Alike related (first.mapError change) (second.mapError change) := by
  cases results with
  | raised error => exact .raised (change error)
  | returned agree => exact .returned agree

end Alike

/-- The same computation, continued the same way where it returns. -/
theorem bind_same {result : Except Error First} {next otherNext : First → Except Error Third}
    (agree : ∀ value, result = .ok value → next value = otherNext value) :
    result.bind next = result.bind otherNext := by
  cases result with
  | error raised => rfl
  | ok value => exact agree value rfl

end KidsChores.Library
