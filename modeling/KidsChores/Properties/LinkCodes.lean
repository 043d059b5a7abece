import KidsChores.Library.Runs
import KidsChores.Services.Linking

/-!
# One profile for each link code

A new code is drawn without a look at the codes that are out.  The two families of
keys stay inverse to each other, and every code leads to the profile it was made
for, exactly as long as no call draws or clears another member's live code.
-/

set_option autoImplicit false

namespace KidsChores.Properties

open KidsChores.Models
open KidsChores.Library.Expiring
open KidsChores.Library.PyDatetime
open KidsChores.Library.Runs
open KidsChores.Services.Linking

/-- A code as it was issued, until its key expires. -/
structure Issue where
  code : String
  expiresAt : Instant
  deriving DecidableEq, Repr

/-- The keys, the latest code of each member that has not been redeemed, and the
time of the last command. -/
structure LinkState where
  keys : LinkKeys
  issued : Uuid → Option Issue
  clock : Instant

/-- A call and the microseconds that pass before each of its commands. -/
inductive LinkCall where
  | create (memberId : Uuid) (drawn : Fin 1000000) (wait toCode toMember toAnswer : Nat)
  | redeem (code : String) (wait : Nat)

def createTimes (clock : Instant) (wait toCode toMember toAnswer : Nat) : CreateTimes where
  read := clock + wait
  setCode := clock + wait + toCode
  setMember := clock + wait + toCode + toMember
  answered := clock + wait + toCode + toMember + toAnswer

def LinkState.create (state : LinkState) (times : CreateTimes) (memberId : Uuid)
    (drawn : Fin 1000000) : LinkState where
  keys := (createLinkCode state.keys times memberId drawn).1
  issued := Function.update state.issued memberId
    (some ⟨codeText drawn, times.setCode + timedeltaSeconds codeTtlSeconds⟩)
  clock := times.answered

def linkStep (state : LinkState) : LinkCall → LinkState
  | .create memberId drawn wait toCode toMember toAnswer =>
      state.create (createTimes state.clock wait toCode toMember toAnswer) memberId drawn
  | .redeem code wait =>
      let (redeemed, keys) := redeemLinkCode state.keys (state.clock + wait) code
      { keys := keys
        issued := match redeemed with
          | some memberId => Function.update state.issued memberId none
          | none => state.issued
        clock := state.clock + wait }

def noCodes (clock : Instant) : LinkState := ⟨LinkKeys.empty, fun _ => none, clock⟩

def LiveFor (state : LinkState) (now : Instant) (code : String) (memberId : Uuid) :
    Prop :=
  (redeemLinkCode state.keys now code).1 = some memberId

instance (state : LinkState) (now : Instant) (code : String) (memberId : Uuid) :
    Decidable (LiveFor state now code memberId) :=
  inferInstanceAs (Decidable (_ = _))

/-- From now on until the next call, a member has one live code at most, and that is
its latest one, neither redeemed nor expired. -/
structure CodesRight (state : LinkState) : Prop where
  oneEach : ∀ now, state.clock ≤ now → ∀ memberId first second,
    LiveFor state now first memberId → LiveFor state now second memberId →
      first = second
  redeems : ∀ now, state.clock ≤ now → ∀ code memberId,
    LiveFor state now code memberId ↔ ∃ issue, state.issued memberId = some issue ∧
      issue.code = code ∧ now < issue.expiresAt

def LinkCall.subject (state : LinkState) : LinkCall → Option Uuid
  | .create memberId _ _ _ _ _ => some memberId
  | .redeem code wait => (redeemLinkCode state.keys (state.clock + wait) code).1

/-- The call leaves every other member's live code as it is. -/
def LeavesOthers (state : LinkState) (call : LinkCall) : Prop :=
  ∀ other, call.subject state ≠ some other → ∀ now, (linkStep state call).clock ≤ now →
    ∀ code, LiveFor state now code other → LiveFor (linkStep state call) now code other

/-- Neither the code that is drawn nor the one that the member's key still names is
another member's live code when the call ends. -/
def DrawFree (state : LinkState) (times : CreateTimes) (memberId : Uuid)
    (drawn : Fin 1000000) : Prop :=
  ∀ code, (code = codeText drawn ∨
      state.keys.memberKeys.get times.read memberId = some code) →
    ∀ other, other ≠ memberId → ¬ LiveFor state times.answered code other

def DrawsFree (state : LinkState) : LinkCall → Prop
  | .create memberId drawn wait toCode toMember toAnswer =>
      DrawFree state (createTimes state.clock wait toCode toMember toAnswer) memberId drawn
  | .redeem _ _ => True

theorem liveFor_iff {state : LinkState} {now : Instant} {code : String}
    {memberId : Uuid} :
    LiveFor state now code memberId ↔ state.keys.codeKeys.get now code = some memberId := by
  rw [LiveFor, redeemLinkCode_fst]

/-! ## The members' keys -/

/-- A member's key names its latest code, and does so as long as the code lives. -/
structure MemberKeysRight (state : LinkState) : Prop where
  latest : ∀ now, state.clock ≤ now → ∀ memberId code,
    state.keys.memberKeys.get now memberId = some code →
      ∃ issue, state.issued memberId = some issue ∧ issue.code = code
  kept : ∀ now, state.clock ≤ now → ∀ memberId issue,
    state.issued memberId = some issue → now < issue.expiresAt →
      state.keys.memberKeys.get now memberId = some issue.code

section Calls

variable {state : LinkState} {memberId other : Uuid} {drawn : Fin 1000000}
  {wait toCode toMember toAnswer : Nat} {now : Instant} {code : String}

theorem memberKeys_create (times : CreateTimes) (keys : LinkKeys) :
    (createLinkCode keys times memberId drawn).1.memberKeys =
      keys.memberKeys.set memberId (codeText drawn)
        (times.setMember + timedeltaSeconds codeTtlSeconds) := by
  simp only [createLinkCode, LinkKeys.setCode, LinkKeys.setMember]
  split <;> rfl

/-- What `create_link_code` clears before it stores the new code. -/
theorem codeKeys_create (times : CreateTimes) (keys : LinkKeys) :
    (createLinkCode keys times memberId drawn).1.codeKeys.get now code =
      if code = codeText drawn then
        if now < times.setCode + timedeltaSeconds codeTtlSeconds then some memberId
        else none
      else if keys.memberKeys.get times.read memberId = some code then none
      else keys.codeKeys.get now code := by
  simp only [createLinkCode, LinkKeys.setCode, LinkKeys.setMember]
  by_cases drawnNow : code = codeText drawn
  · rw [if_pos drawnNow, drawnNow, Store.get_set_self]
  · rw [if_neg drawnNow, Store.get_set_other drawnNow]
    cases named : keys.memberKeys.get times.read memberId with
    | none => simp
    | some previous =>
        by_cases same : code = previous
        · simp [LinkKeys.deleteCode, same]
        · simp [LinkKeys.deleteCode, same, Ne.symm same]

theorem linkStep_redeem_none (missing :
    state.keys.codeKeys.get (state.clock + wait) code = none) :
    linkStep state (.redeem code wait) = { state with clock := state.clock + wait } := by
  simp [linkStep, redeemLinkCode, missing]

theorem linkStep_redeem_some (found :
    state.keys.codeKeys.get (state.clock + wait) code = some memberId) :
    linkStep state (.redeem code wait) =
      { keys := (state.keys.deleteCode code).deleteMember memberId
        issued := Function.update state.issued memberId none
        clock := state.clock + wait } := by
  simp [linkStep, redeemLinkCode, found]

theorem linkStep_clock (state : LinkState) (call : LinkCall) :
    state.clock ≤ (linkStep state call).clock := by
  cases call with
  | create memberId drawn wait toCode toMember toAnswer =>
      simp only [linkStep, LinkState.create, createTimes]
      dsimp only [Instant] at *
      omega
  | redeem code wait =>
      simp only [linkStep]
      dsimp only [Instant] at *
      omega

theorem MemberKeysRight.step (right : MemberKeysRight state) (call : LinkCall) :
    MemberKeysRight (linkStep state call) := by
  have later := linkStep_clock state call
  cases call with
  | create memberId drawn wait toCode toMember toAnswer =>
      constructor
      · intro now after owner code named
        simp only [linkStep, LinkState.create] at named ⊢
        rw [memberKeys_create] at named
        by_cases own : owner = memberId
        · subst own
          rw [Store.get_set_self] at named
          split at named
          · exact ⟨_, Function.update_self .., Option.some.inj named⟩
          · cases named
        · rw [Store.get_set_other own] at named
          rw [Function.update_of_ne own]
          exact right.latest now (later.trans after) owner code named
      · intro now after owner issue issued live
        simp only [linkStep, LinkState.create] at issued ⊢
        rw [memberKeys_create]
        by_cases own : owner = memberId
        · subst own
          rw [Function.update_self, Option.some.injEq] at issued
          subst issued
          rw [Store.get_set_self, if_pos]
          simp only [createTimes] at live ⊢
          dsimp only [Instant, Timedelta] at *
          omega
        · rw [Function.update_of_ne own] at issued
          rw [Store.get_set_other own]
          exact right.kept now (later.trans after) owner issue issued live
  | redeem code wait =>
      cases found : state.keys.codeKeys.get (state.clock + wait) code with
      | none =>
          rw [linkStep_redeem_none found] at later ⊢
          exact ⟨fun now after => right.latest now (later.trans after),
            fun now after => right.kept now (later.trans after)⟩
      | some memberId =>
          rw [linkStep_redeem_some found] at later ⊢
          constructor
          · intro now after owner code named
            simp only [LinkKeys.deleteMember, LinkKeys.deleteCode] at named ⊢
            by_cases own : owner = memberId
            · subst own
              rw [Store.get_delete_self] at named
              cases named
            · rw [Store.get_delete_other own] at named
              rw [Function.update_of_ne own]
              exact right.latest now (later.trans after) owner code named
          · intro now after owner issue issued live
            simp only [LinkKeys.deleteMember, LinkKeys.deleteCode] at issued ⊢
            by_cases own : owner = memberId
            · subst own
              rw [Function.update_self] at issued
              cases issued
            · rw [Function.update_of_ne own] at issued
              rw [Store.get_delete_other own]
              exact right.kept now (later.trans after) owner issue issued live

/-! ## The codes' keys -/

theorem CodesRight.of_redeems (redeems : ∀ now, state.clock ≤ now → ∀ code memberId,
    LiveFor state now code memberId ↔ ∃ issue, state.issued memberId = some issue ∧
      issue.code = code ∧ now < issue.expiresAt) : CodesRight state := by
  refine ⟨fun now after memberId first second one two => ?_, redeems⟩
  obtain ⟨issue, issued, rfl, _⟩ := (redeems now after first memberId).mp one
  obtain ⟨again, reissued, rfl, _⟩ := (redeems now after second memberId).mp two
  cases issued.symm.trans reissued
  rfl

theorem CodesRight.redeem (right : CodesRight state) :
    CodesRight (linkStep state (.redeem code wait)) := by
  apply CodesRight.of_redeems
  intro now after asked owner
  have later := (linkStep_clock state (.redeem code wait)).trans after
  have before := right.redeems now later asked owner
  have then_ := linkStep_clock state (.redeem code wait)
  rw [liveFor_iff] at before ⊢
  cases found : state.keys.codeKeys.get (state.clock + wait) code with
  | none =>
      rw [linkStep_redeem_none found]
      exact before
  | some memberId =>
      rw [linkStep_redeem_some found] at after ⊢
      obtain ⟨issue, issued, rfl, _⟩ :=
        (right.redeems _ then_ code memberId).mp (liveFor_iff.mpr found)
      simp only [LinkKeys.deleteMember, LinkKeys.deleteCode] at after ⊢
      by_cases own : owner = memberId
      · subst own
        rw [Function.update_self]
        refine iff_of_false ?_ (by rintro ⟨_, impossible, _⟩; cases impossible)
        by_cases same : asked = issue.code
        · rw [same, Store.get_delete_self]
          exact nofun
        · rw [Store.get_delete_other same, before]
          rintro ⟨again, reissued, rfl, _⟩
          cases issued.symm.trans reissued
          exact same rfl
      · rw [Function.update_of_ne own, ← before]
        by_cases same : asked = issue.code
        · subst same
          rw [Store.get_delete_self]
          refine iff_of_false nofun fun live => own ?_
          have earlier := Store.get_earlier live after
          exact Option.some.inj (earlier.symm.trans found)
        · rw [Store.get_delete_other same]

section Creating

variable {times : CreateTimes}

theorem liveFor_create : LiveFor (state.create times memberId drawn) now code other ↔
    if code = codeText drawn then
      now < times.setCode + timedeltaSeconds codeTtlSeconds ∧ memberId = other
    else state.keys.memberKeys.get times.read memberId ≠ some code ∧
      LiveFor state now code other := by
  rw [liveFor_iff, liveFor_iff, LinkState.create, codeKeys_create]
  by_cases drawnNow : code = codeText drawn
  · simp only [if_pos drawnNow]
    split <;> simp_all
  · simp only [if_neg drawnNow]
    split <;> simp_all

theorem issued_create_other (different : other ≠ memberId) :
    (state.create times memberId drawn).issued other = state.issued other :=
  Function.update_of_ne different _ _

theorem issued_create_self : (state.create times memberId drawn).issued memberId =
    some ⟨codeText drawn, times.setCode + timedeltaSeconds codeTtlSeconds⟩ :=
  Function.update_self ..

/-- A live code that is drawn again, or cleared, is lost to its member. -/
theorem drawFree_of_right (right : CodesRight state)
    (answered : state.clock ≤ times.answered)
    (after : CodesRight (state.create times memberId drawn)) :
    DrawFree state times memberId drawn := by
  intro code touched other different live
  obtain ⟨issue, issued, rfl, alive⟩ := (right.redeems _ answered code other).mp live
  have still := (after.redeems times.answered le_rfl issue.code other).mpr
    ⟨issue, (issued_create_other different).trans issued, rfl, alive⟩
  rw [liveFor_create] at still
  split at still
  · exact different still.2.symm
  · rename_i notDrawn
    exact still.1 (touched.resolve_left notDrawn)

theorem CodesRight.create (right : CodesRight state) (index : MemberKeysRight state)
    (read : state.clock ≤ times.read) (answered : times.read ≤ times.answered)
    (free : DrawFree state times memberId drawn) :
    CodesRight (state.create times memberId drawn) := by
  apply CodesRight.of_redeems
  intro now after code owner
  have later : times.answered ≤ now := after
  have before := right.redeems now (read.trans (answered.trans later)) code owner
  rw [liveFor_create]
  by_cases own : owner = memberId
  · subst own
    rw [issued_create_self]
    split
    · rename_i drawnNow
      simp [drawnNow]
    · rename_i notDrawn
      refine iff_of_false ?_ ?_
      · rintro ⟨unnamed, live⟩
        obtain ⟨issue, issued, rfl, alive⟩ := before.mp live
        exact unnamed (index.kept times.read read owner issue issued
          ((answered.trans later).trans_lt alive))
      · rintro ⟨issue, issued, rfl, _⟩
        exact notDrawn (congrArg Issue.code (Option.some.inj issued)).symm
  · rw [issued_create_other own, ← before]
    have untouched : LiveFor state now code owner → ¬ (code = codeText drawn ∨
        state.keys.memberKeys.get times.read memberId = some code) := by
      intro live touched
      rw [liveFor_iff] at live
      exact free code touched owner own (liveFor_iff.mpr (Store.get_earlier live later))
    split
    · rename_i drawnNow
      exact iff_of_false (fun same => own same.2.symm)
        fun live => untouched live (Or.inl drawnNow)
    · exact ⟨And.right, fun live =>
        ⟨fun named => untouched live (Or.inr named), live⟩⟩

end Creating

/-- What the calls before and after say of the latest codes decides who keeps a
code. -/
theorem CodesRight.leavesOthers {call : LinkCall} (right : CodesRight state)
    (after : CodesRight (linkStep state call)) : LeavesOthers state call := by
  intro other different now reached code live
  have later := linkStep_clock state call
  rw [right.redeems now (later.trans reached)] at live
  rw [after.redeems now reached]
  obtain ⟨issue, issued, named⟩ := live
  refine ⟨issue, ?_, named⟩
  cases call with
  | create memberId drawn wait toCode toMember toAnswer =>
      rw [linkStep, issued_create_other fun same => different (congrArg some same.symm),
        issued]
  | redeem asked wait =>
      simp only [LinkCall.subject, redeemLinkCode_fst] at different
      cases found : state.keys.codeKeys.get (state.clock + wait) asked with
      | none =>
          rw [linkStep_redeem_none found]
          exact issued
      | some memberId =>
          rw [linkStep_redeem_some found]
          rw [found] at different
          simp only
          rw [Function.update_of_ne fun same => different (congrArg some same.symm), issued]

theorem codesRight_step_iff {call : LinkCall} (index : MemberKeysRight state)
    (right : CodesRight state) :
    CodesRight (linkStep state call) ↔ DrawsFree state call := by
  cases call with
  | create memberId drawn wait toCode toMember toAnswer =>
      have ordered : state.clock ≤ (createTimes state.clock wait toCode toMember
          toAnswer).read ∧ (createTimes state.clock wait toCode toMember toAnswer).read ≤
            (createTimes state.clock wait toCode toMember toAnswer).answered := by
        simp only [createTimes]
        dsimp only [Instant] at *
        omega
      exact ⟨drawFree_of_right right (ordered.1.trans ordered.2),
        right.create index ordered.1 ordered.2⟩
  | redeem code wait => exact iff_of_true right.redeem trivial

end Calls

theorem memberKeysRight_noCodes (clock : Instant) : MemberKeysRight (noCodes clock) :=
  ⟨nofun, nofun⟩

theorem codesRight_noCodes (clock : Instant) : CodesRight (noCodes clock) := by
  apply CodesRight.of_redeems
  intro now _ code memberId
  refine iff_of_false ?_ (by rintro ⟨_, issued, _⟩; cases issued)
  rw [liveFor_iff]
  exact nofun

/-- Whatever is called and drawn, every code leads to its profile and no call disturbs
another member's code, exactly as long as every draw is free. -/
theorem link_codes_right_iff (clock : Instant) (calls : List LinkCall) :
    (Always linkStep CodesRight (noCodes clock) calls ∧
        EachMeets linkStep LeavesOthers (noCodes clock) calls) ↔
      EachMeets linkStep DrawsFree (noCodes clock) calls := by
  have exactly : Always linkStep CodesRight (noCodes clock) calls ↔
      EachMeets linkStep DrawsFree (noCodes clock) calls :=
    always_iff_eachMeets MemberKeysRight (fun _ call index => index.step call)
      (fun _ _ index right => codesRight_step_iff index right)
      (memberKeysRight_noCodes clock) (codesRight_noCodes clock) calls
  rw [← exactly]
  refine ⟨And.left, fun always => ⟨always, ?_⟩⟩
  refine guarded_eachMeets (fun state => MemberKeysRight state ∧ CodesRight state)
    ?_ ?_ ⟨memberKeysRight_noCodes clock, codesRight_noCodes clock⟩ (exactly.mp always)
  · rintro state call ⟨index, right⟩ free
    exact ⟨index.step call, (codesRight_step_iff index right).mpr free⟩
  · rintro state call ⟨index, right⟩ free
    exact right.leavesOthers ((codesRight_step_iff index right).mpr free)

def sameDraw : List LinkCall := [.create 2 7 0 0 0 0, .create 3 7 0 0 0 0]

/-- The second teen's code is the first one's, which now redeems for the second. -/
theorem same_draw_redirects :
    let before := runFrom linkStep (noCodes 0) [.create 2 7 0 0 0 0]
    let after := runFrom linkStep (noCodes 0) sameDraw
    LiveFor before 0 (codeText 7) 2 ∧ LiveFor after 0 (codeText 7) 3 ∧
      ¬ CodesRight after := by
  refine ⟨by decide, by decide, fun right => ?_⟩
  have live : LiveFor (runFrom linkStep (noCodes 0) sameDraw) 0 (codeText 7) 2 :=
    (right.redeems 0 le_rfl _ _).mpr ⟨⟨codeText 7, 86400000000⟩, rfl, rfl, by decide⟩
  revert live
  decide

end KidsChores.Properties
