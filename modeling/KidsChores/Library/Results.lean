/-!
# Steps of a computation that may raise

What the outcome of a computation tells of its steps.
-/

set_option autoImplicit false

namespace KidsChores.Library

universe u v w

variable {Error : Type u} {First : Type v} {Second : Type w}

/-- Both steps returned. -/
theorem bind_ok {result : Except Error First} {next : First → Except Error Second}
    {answer : Second} (returned : result.bind next = .ok answer) :
    ∃ value, result = .ok value ∧ next value = .ok answer := by
  cases result with
  | error raised => cases returned
  | ok value => exact ⟨value, rfl, returned⟩

theorem bind_error_iff {result : Except Error First} {next : First → Except Error Second}
    {raised : Error} :
    result.bind next = .error raised ↔ result = .error raised ∨
      ∃ value, result = .ok value ∧ next value = .error raised := by
  cases result with
  | error error => simp [Except.bind]
  | ok value => simp [Except.bind]

theorem map_ok {result : Except Error First} {change : First → Second} {answer : Second}
    (returned : result.map change = .ok answer) :
    ∃ value, result = .ok value ∧ change value = answer := by
  cases result with
  | error raised => cases returned
  | ok value =>
      cases returned
      exact ⟨value, rfl, rfl⟩

theorem map_error_iff {result : Except Error First} {change : First → Second}
    {raised : Error} : result.map change = .error raised ↔ result = .error raised := by
  cases result with
  | error error => simp [Except.map]
  | ok value => simp [Except.map]

/-! ## What a computation may raise -/

/-- Whatever the computation raises is allowed; where it returns nothing is said. -/
def FailsOnly (allowed : Error → Prop) (result : Except Error First) : Prop :=
  ∀ raised, result = .error raised → allowed raised

theorem FailsOnly.returned {allowed : Error → Prop} (value : First) :
    FailsOnly allowed (.ok value) := by
  intro raised refused
  cases refused

theorem FailsOnly.raises {allowed : Error → Prop} {error : Error} (named : allowed error) :
    FailsOnly allowed (.error error : Except Error First) := by
  intro raised refused
  cases refused
  exact named

theorem FailsOnly.imp {allowed wider : Error → Prop} {result : Except Error First}
    (fails : FailsOnly allowed result) (implies : ∀ error, allowed error → wider error) :
    FailsOnly wider result :=
  fun raised refused => implies raised (fails raised refused)

/-- A step after another one runs only where that returned. -/
theorem FailsOnly.bind {allowed : Error → Prop} {result : Except Error First}
    {next : First → Except Error Second} (first : FailsOnly allowed result)
    (second : ∀ value, result = .ok value → FailsOnly allowed (next value)) :
    FailsOnly allowed (result.bind next) := by
  intro raised refused
  rcases bind_error_iff.mp refused with failed | ⟨value, found, refused⟩
  · exact first raised failed
  · exact second value found raised refused

theorem FailsOnly.map {allowed : Error → Prop} {result : Except Error First}
    (fails : FailsOnly allowed result) (change : First → Second) :
    FailsOnly allowed (result.map change) :=
  fun raised refused => fails raised (map_error_iff.mp refused)

theorem FailsOnly.mapError {Other : Type w} {allowed : Other → Prop} {change : Error → Other}
    {result : Except Error First} (fails : FailsOnly (fun error => allowed (change error))
      result) : FailsOnly allowed (result.mapError change) := by
  cases result with
  | error error => exact .raises (fails error rfl)
  | ok value => exact .returned value

end KidsChores.Library
