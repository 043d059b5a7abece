import Mathlib.Algebra.Order.Archimedean.Real.Basic
import KidsChores.Library.Runs
import KidsChores.Services.RefreshTokens

/-!
# A refresh token's one redemption

The record of a redemption lives for the whole seconds that are left until `exp`,
and the token is accepted during the whole second that begins at `exp`.
-/

set_option autoImplicit false

namespace KidsChores.Properties

open KidsChores.Library.Expiring
open KidsChores.Library.Runs
open KidsChores.Services.RefreshTokens

universe u

variable {Time : Type u} [Ring Time] [LinearOrder Time] [FloorRing Time]

structure RefreshToken where
  jti : String
  exp : Int
  deriving DecidableEq, Repr

/-- How far an attempt to redeem the token has come. -/
inductive RefreshPhase (Time : Type u) where
  | arrived
  | decoded
  | timed (read : Time)
  | granted
  | refused

structure RefreshState (Time : Type u) where
  used : UsedKeys Time
  phase : Nat → RefreshPhase Time
  /-- The clock reading and the `SET` of each attempt that was granted. -/
  grants : List (Time × Time)

structure RefreshStep (Time : Type u) where
  attempt : Nat
  now : Time

def RefreshState.enter (state : RefreshState Time) (attempt : Nat)
    (phase : RefreshPhase Time) : RefreshState Time :=
  { state with phase := Function.update state.phase attempt phase }

/-- `POST /v1/auth/refresh`: `jwt.decode`, the checks of `jti` and `exp`, the clock,
the `SET`. -/
def refreshStep (token : RefreshToken) (state : RefreshState Time)
    (step : RefreshStep Time) : RefreshState Time :=
  match state.phase step.attempt with
  | .arrived =>
      if ⌊step.now⌋ ≤ token.exp ∧ token.jti ≠ "" ∧ token.exp ≠ 0 then
        state.enter step.attempt .decoded
      else state.enter step.attempt .refused
  | .decoded => state.enter step.attempt (.timed step.now)
  | .timed read =>
      let (firstUse, used) := redeemRefreshToken state.used read step.now token.jti token.exp
      if firstUse then
        { state.enter step.attempt .granted with
          used := used
          grants := state.grants ++ [(read, step.now)] }
      else { state.enter step.attempt .refused with used := used }
  | .granted => state
  | .refused => state

def noAttempts : RefreshState Time := ⟨Store.empty, fun _ => .arrived, []⟩

def RecordStands (token : RefreshToken) (state : RefreshState Time)
    (step : RefreshStep Time) : Prop :=
  ∀ read, state.phase step.attempt = .timed read → ∀ grant ∈ state.grants,
    step.now < grant.2 + (recordTtl token.exp grant.1 : Time)

/-- While the token was granted once at most, its record is the one of that grant. -/
def RecordKept (token : RefreshToken) (state : RefreshState Time) : Prop :=
  (state.grants = [] → state.used token.jti = none) ∧
    ∀ grant, state.grants = [grant] → state.used token.jti =
      some ⟨"1", grant.2 + (recordTtl token.exp grant.1 : Time)⟩

def GrantedOnce (state : RefreshState Time) : Prop := state.grants.length ≤ 1

section Steps

variable {token : RefreshToken} {state : RefreshState Time} {event : RefreshStep Time}

theorem refreshStep_local (untimed : ∀ read, state.phase event.attempt ≠ .timed read) :
    (refreshStep token state event).used = state.used ∧
      (refreshStep token state event).grants = state.grants := by
  unfold refreshStep
  cases phase : state.phase event.attempt with
  | arrived =>
      simp only
      split <;> exact ⟨rfl, rfl⟩
  | decoded => exact ⟨rfl, rfl⟩
  | timed read => exact (untimed read phase).elim
  | granted => exact ⟨rfl, rfl⟩
  | refused => exact ⟨rfl, rfl⟩

theorem refreshStep_granted {read : Time}
    (timed : state.phase event.attempt = .timed read)
    (free : state.used.get event.now token.jti = none) :
    (refreshStep token state event).used =
        state.used.set token.jti "1" (event.now + (recordTtl token.exp read : Time)) ∧
      (refreshStep token state event).grants = state.grants ++ [(read, event.now)] := by
  simp [refreshStep, timed, redeemRefreshToken, Store.setNx_granted free]

theorem refreshStep_refused {read : Time} {found : String}
    (timed : state.phase event.attempt = .timed read)
    (taken : state.used.get event.now token.jti = some found) :
    (refreshStep token state event).used = state.used ∧
      (refreshStep token state event).grants = state.grants := by
  simp [refreshStep, timed, redeemRefreshToken, Store.setNx_refused taken, RefreshState.enter]

theorem RecordKept.step (kept : RecordKept token state) (step : RefreshStep Time) :
    RecordKept token (refreshStep token state step) := by
  cases phase : state.phase step.attempt with
  | timed read =>
      cases stored : state.used.get step.now token.jti with
      | none =>
          obtain ⟨used, grants⟩ := refreshStep_granted phase stored
          rw [RecordKept, used, grants]
          refine ⟨fun empty => absurd empty (by simp), fun grant single => ?_⟩
          obtain ⟨_, rfl⟩ : state.grants = [] ∧ (read, step.now) = grant := by
            cases given : state.grants with
            | nil => simpa [given] using single
            | cons first rest => simp [given] at single
          exact Function.update_self ..
      | some found =>
          obtain ⟨used, grants⟩ := refreshStep_refused phase stored
          rw [RecordKept, used, grants]
          exact kept
  | _ =>
      obtain ⟨used, grants⟩ := @refreshStep_local _ _ _ _ token state step (by simp [phase])
      rw [RecordKept, used, grants]
      exact kept

/-- A second grant needs a `SET` that finds the first one's record gone. -/
theorem grantedOnce_step_iff (kept : RecordKept token state) (once : GrantedOnce state) :
    GrantedOnce (refreshStep token state event) ↔ RecordStands token state event := by
  cases phase : state.phase event.attempt with
  | timed read =>
      cases given : state.grants with
      | nil =>
          have stands : RecordStands token state event := by
            intro _ _ grant member
            rw [given] at member
            cases member
          refine iff_of_true ?_ stands
          have free : state.used.get event.now token.jti = none := by
            simp [Store.get, kept.1 given]
          rw [GrantedOnce, (refreshStep_granted phase free).2, given]
          exact le_rfl
      | cons grant rest =>
          obtain rfl : rest = [] := by
            rw [GrantedOnce, given, List.length_cons] at once
            exact List.eq_nil_of_length_eq_zero (by omega)
          have record := kept.2 grant given
          have stands : RecordStands token state event ↔
              event.now < grant.2 + (recordTtl token.exp grant.1 : Time) := by
            simp [RecordStands, phase, given]
          rw [stands]
          by_cases live : event.now < grant.2 + (recordTtl token.exp grant.1 : Time)
          · have taken : state.used.get event.now token.jti = some "1" := by
              simp [Store.get, record, live]
            refine iff_of_true ?_ live
            rw [GrantedOnce, (refreshStep_refused phase taken).2, given]
            exact le_rfl
          · have free : state.used.get event.now token.jti = none := by
              simp [Store.get, record, live]
            refine iff_of_false ?_ live
            rw [GrantedOnce, (refreshStep_granted phase free).2, given]
            simp
  | _ =>
      refine iff_of_true ?_ fun read timed => by simp [phase] at timed
      rw [GrantedOnce, (@refreshStep_local _ _ _ _ token state event (by simp [phase])).2]
      exact once

theorem grants_le_step (token : RefreshToken) (state : RefreshState Time)
    (step : RefreshStep Time) :
    state.grants.length ≤ (refreshStep token state step).grants.length := by
  cases phase : state.phase step.attempt with
  | timed read =>
      cases stored : state.used.get step.now token.jti with
      | none => simp [(refreshStep_granted phase stored).2]
      | some found => rw [(refreshStep_refused phase stored).2]
  | _ => rw [(@refreshStep_local _ _ _ _ token state step (by simp [phase])).2]

end Steps

/-- Grants are never taken back. -/
theorem always_grantedOnce_iff (token : RefreshToken) (state : RefreshState Time)
    (schedule : List (RefreshStep Time)) :
    Always (refreshStep token) GrantedOnce state schedule ↔
      GrantedOnce (runFrom (refreshStep token) state schedule) := by
  refine ⟨Always.at_end, fun once => ?_⟩
  induction schedule generalizing state with
  | nil => exact once
  | cons step rest ih =>
      have later := ih _ once
      exact ⟨(grants_le_step token state step).trans later.at_start, later⟩

/-- However the steps of the attempts are interleaved, the token is granted once at
most exactly when each `SET` is sent while the record of an earlier grant stands. -/
theorem refresh_granted_once_iff (token : RefreshToken)
    (schedule : List (RefreshStep Time)) :
    GrantedOnce (runFrom (refreshStep token) noAttempts schedule) ↔
      EachMeets (refreshStep token) (RecordStands token) noAttempts schedule := by
  rw [← always_grantedOnce_iff]
  have nothing : RecordKept token (noAttempts : RefreshState Time) :=
    ⟨fun _ => rfl, fun _ single => by cases single⟩
  exact always_iff_eachMeets (RecordKept token) (fun _ step kept => kept.step step)
    (fun _ _ kept once => grantedOnce_step_iff kept once) nothing (Nat.zero_le 1) schedule

/-- Redeemed ten seconds before it expires and again in its last second. -/
def lastSecond : List (RefreshStep ℝ) :=
  [⟨0, 0⟩, ⟨0, 0⟩, ⟨0, 0⟩, ⟨1, 10⟩, ⟨1, 10⟩, ⟨1, 10⟩]

/-- The record of the first grant expires at `exp`; the token does not. -/
theorem granted_again_in_last_second :
    (lastSecond.map RefreshStep.now).Pairwise (· ≤ ·) ∧
      ¬ GrantedOnce (runFrom (refreshStep ⟨"a", 10⟩) noAttempts lastSecond) := by
  constructor
  · norm_num [lastSecond]
  · simp [lastSecond, runFrom, refreshStep, noAttempts, RefreshState.enter,
      redeemRefreshToken, Store.setNx, Store.get, Store.set, Store.empty, recordTtl,
      truncate, GrantedOnce, Function.update]

end KidsChores.Properties
