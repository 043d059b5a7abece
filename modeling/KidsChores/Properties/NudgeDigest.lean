import KidsChores.Properties.ApprovalInbox
import KidsChores.Workers.NotifyDigest

/-!
# The nudge about old approvals

The digest measures by the completion how long an approval has waited, also where an
excuse is what waits.  It overlooks an excuse for what was never completed, and may count
one too early for what was completed and denied before.
-/

set_option autoImplicit false

namespace KidsChores.Properties

open KidsChores.Library
open KidsChores.Library.PyDatetime
open KidsChores.Library.Runs
open KidsChores.Library.Slices
open KidsChores.Library.Tenancy
open KidsChores.Models
open KidsChores.Planning
open KidsChores.Services.Notifications
open KidsChores.Site
open KidsChores.Workers.NotifyDigest

/-! ## Stale approvals -/

def StaleReview (cutoff : Instant) (task : TaskInstance) : Prop :=
  task.status = .reviewPending ∧ ∃ completed ∈ task.completedAt, completed ≤ cutoff

def StaleExcuse (cutoff : Instant) (task : TaskInstance) : Prop :=
  task.status = .excusePending ∧ ∃ submitted ∈ task.excuseSubmittedAt, submitted ≤ cutoff

/-- An old excuse, for an instance that was not completed so long ago. -/
def Overlooked (cutoff : Instant) (task : TaskInstance) : Prop :=
  StaleExcuse cutoff task ∧ ∀ completed ∈ task.completedAt, cutoff < completed

/-- A new excuse, for an instance that was completed long ago. -/
def CountedEarly (cutoff : Instant) (task : TaskInstance) : Prop :=
  task.status = .excusePending ∧ (∃ completed ∈ task.completedAt, completed ≤ cutoff) ∧
    ∃ submitted ∈ task.excuseSubmittedAt, cutoff < submitted

section Decidable

variable (cutoff : Instant) (task : TaskInstance)

instance instDecidableStaleReview : Decidable (StaleReview cutoff task) :=
  inferInstanceAs (Decidable (_ ∧ _))

instance instDecidableStaleExcuse : Decidable (StaleExcuse cutoff task) :=
  inferInstanceAs (Decidable (_ ∧ _))

instance instDecidableOverlooked : Decidable (Overlooked cutoff task) :=
  inferInstanceAs (Decidable (_ ∧ _))

instance instDecidableCountedEarly : Decidable (CountedEarly cutoff task) :=
  inferInstanceAs (Decidable (_ ∧ _))

end Decidable

def staleApprovals (cutoff : Instant) (tasks : List TaskInstance) : Nat :=
  tasks.countP (StaleReview cutoff) + tasks.countP (StaleExcuse cutoff)

/-- Every parent of the household with a push token is told the number of its stale
approvals, and nobody if there is none. -/
def DigestExact (now : Instant) (db : Database) (householdId : Uuid) : Prop :=
  (sendDigests now db).filter (·.parent.householdId = householdId) =
    if staleApprovals (cutoff now) (holdings householdId db).instances = 0 then []
    else (householdParents db householdId).map fun parent =>
      ⟨parent, staleApprovals (cutoff now) (holdings householdId db).instances⟩

/-- As many excuses are overlooked as are counted early, or no parent has a token. -/
def DigestBalanced (now : Instant) (db : Database) (householdId : Uuid) : Prop :=
  householdParents db householdId = [] ∨
    (holdings householdId db).instances.countP (Overlooked (cutoff now)) =
      (holdings householdId db).instances.countP (CountedEarly (cutoff now))

instance instDecidableDigestBalanced (now : Instant) (db : Database) (householdId : Uuid) :
    Decidable (DigestBalanced now db householdId) :=
  inferInstanceAs (Decidable (_ ∨ _))

/-! ## What the query counts -/

/-- Counted or overlooked is what is stale, and what is counted early. -/
theorem pendingLonger_split (since : Instant) {task : TaskInstance}
    (submitted : Submitted task) :
    ((if PendingLonger since task then 1 else 0) + if Overlooked since task then 1 else 0) =
      ((if StaleReview since task then 1 else 0) + if StaleExcuse since task then 1 else 0) +
        if CountedEarly since task then 1 else 0 := by
  by_cases excused : task.status = .excusePending
  · obtain ⟨time, found⟩ := Option.isSome_iff_exists.mp (submitted.excuse excused)
    cases completed : task.completedAt with
    | none =>
        simp [PendingLonger, Overlooked, StaleReview, StaleExcuse, CountedEarly, excused,
          found, completed]
    | some completion =>
        have old : since < time ↔ ¬ time ≤ since := Int.not_le.symm
        have before : since < completion ↔ ¬ completion ≤ since := Int.not_le.symm
        simp only [PendingLonger, Overlooked, StaleReview, StaleExcuse, CountedEarly, excused,
          found, completed, old, before, Option.mem_def, Option.some.injEq, exists_eq_left',
          forall_eq', or_true, true_and, reduceCtorEq, false_and, if_false]
        split_ifs <;> tauto
  · simp [PendingLonger, Overlooked, StaleReview, StaleExcuse, CountedEarly, excused]

theorem countP_pendingLonger (since : Instant) {tasks : List TaskInstance}
    (submitted : ∀ task ∈ tasks, Submitted task) :
    tasks.countP (PendingLonger since) + tasks.countP (Overlooked since) =
      staleApprovals since tasks + tasks.countP (CountedEarly since) := by
  induction tasks with
  | nil => rfl
  | cons task rest ih =>
      obtain ⟨own, others⟩ := List.forall_mem_cons.mp submitted
      have split := pendingLonger_split since own
      have rests := ih others
      unfold staleApprovals at rests ⊢
      simp only [List.countP_cons, decide_eq_true_eq]
      omega

section Database

variable {now : Instant} {db : Database}

theorem digestCount_eq {household : Household}
    (registered : household ∈ db.households.rows) :
    digestCount now db household.id =
      (holdings household.id db).instances.countP (PendingLonger (cutoff now)) := by
  have found : db.households.find? household.id = some household :=
    db.households.find?_self registered
  unfold digestCount pendingInstances holdings slice
  rw [List.countP_filterMap, List.countP_filter, List.countP_filter]
  apply List.countP_congr
  intro task _
  unfold joined? taskOwner? owner? ownerIn
  cases loaded : db.definitions.find? task.definitionId with
  | none => simp [loaded]
  | some definition =>
      by_cases own : definition.householdId = household.id
      · simp [loaded, own, found]
      · cases other : db.households.find? definition.householdId <;>
          simp [loaded, own, other]

theorem nudges_eq_iff {parents : List Member} (notify : parents ≠ []) (first second : Nat) :
    ((if first = 0 then [] else parents.map fun parent => (⟨parent, first⟩ : Nudge)) =
      if second = 0 then [] else parents.map fun parent => ⟨parent, second⟩) ↔
        first = second := by
  obtain ⟨parent, rest, rfl⟩ := List.exists_cons_of_ne_nil notify
  constructor
  · intro same
    by_cases none : first = 0 <;> by_cases other : second = 0
    · exact none.trans other.symm
    · rw [if_pos none, if_neg other] at same
      exact absurd same (List.cons_ne_nil _ _).symm
    · rw [if_neg none, if_pos other] at same
      exact absurd same (List.cons_ne_nil _ _)
    · rw [if_neg none, if_neg other] at same
      exact congrArg Nudge.count (List.cons.inj same).1
  · intro same
    rw [same]

theorem digestExact_iff (filed : FiledRows db) {household : Household}
    (registered : household ∈ db.households.rows) :
    DigestExact now db household.id ↔ DigestBalanced now db household.id := by
  have submitted : ∀ task ∈ (holdings household.id db).instances, Submitted task :=
    fun task listed => filed.submitted task (mem_slice.mp listed).1
  have counts := countP_pendingLonger (cutoff now) submitted
  unfold DigestExact DigestBalanced
  rw [sendDigests_household, digestCount_eq registered]
  by_cases nobody : householdParents db household.id = []
  · simp [nobody]
  · rw [nudges_eq_iff nobody, or_iff_right nobody]
    omega

end Database

/-! ## In every state -/

/-- What the digest does for the households, at any time. -/
structure DigestServes (db : Database) : Prop where
  exact_iff : ∀ now, ∀ household ∈ db.households.rows,
    (DigestExact now db household.id ↔ DigestBalanced now db household.id)
  pushes : ∀ now, ∀ nudge ∈ sendDigests now db, ∃ token ∈ nudge.parent.pushToken,
    nudge.pushes = [⟨token, "Approvals waiting", waitingItems nudge.count⟩]

/-- In every state of every run the digest is exact for the households of which it
overlooks as many excuses as it counts early, and for no others. -/
theorem nudge_digest_iff (pytz : String → Option TzInfo)
    (verifyPassword : String → String → Bool) {site : SiteState} (founded : Founded site)
    (events : List SiteEvent) :
    Always (siteStep pytz verifyPassword) (fun site => DigestServes site.db) site events := by
  apply (always_filed founded events).imp
  intro reached filed
  exact ⟨fun _ _ registered => digestExact_iff filed.filed registered,
    fun _ _ sent => pushes_of_mem sent⟩

/-! ## A forgotten excuse -/

/-- The parent gets a token before the teen submits anything. -/
def nudged (events : List SiteEvent) : SiteState :=
  submissions (.server (.updatePushToken ⟨1, some "parent"⟩) :: events)

/-- A completion that has waited for more than a day. -/
theorem nudge_digest_completion :
    DigestExact (hourOf 30) (nudged [sendCompletion 1 1 "done"]).db 1 := by
  have serves := (nudge_digest_iff utcOnly (fun _ _ => false) familySite_founded
    (reviewedDishes :: reviewedDishes :: .server (.updatePushToken ⟨1, some "parent"⟩) ::
      [sendCompletion 1 1 "done"])).at_end
  exact (serves.exact_iff (hourOf 30) sampleHousehold (by decide +kernel)).mpr
    (by decide +kernel)

/-- An excuse that has waited for as long. -/
theorem staleExcuse_overlooked :
    staleApprovals (cutoff (hourOf 30))
        (holdings 1 (nudged [sendExcuse 1 1 "away"]).db).instances = 1 ∧
      (householdParents (nudged [sendExcuse 1 1 "away"]).db 1).length = 1 ∧
      sendDigests (hourOf 30) (nudged [sendExcuse 1 1 "away"]).db = [] := by
  decide +kernel

end KidsChores.Properties
