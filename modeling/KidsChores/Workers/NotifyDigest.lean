import Mathlib.Data.List.Dedup
import KidsChores.Library.PyDatetime
import KidsChores.Services.Notifications

/-!
# The parents' digest

`_send_digests` of `app/workers/notify_digest.py`, as the calls it makes of
`notify_pending_approvals`.
-/

set_option autoImplicit false

namespace KidsChores.Workers.NotifyDigest

open KidsChores.Models
open KidsChores.Library
open KidsChores.Library.PyDatetime
open KidsChores.Services.Notifications

/-- `NUDGE_AFTER_HOURS`. -/
def nudgeAfterHours : Int := 24

def cutoff (now : Instant) : Instant := now - timedeltaHours nudgeAfterHours

/-- The `WHERE` of the query, in which `NULL` is not before the cutoff. -/
def PendingLonger (cutoff : Instant) (task : TaskInstance) : Prop :=
  (task.status = .reviewPending ∨ task.status = .excusePending) ∧
    ∃ completed ∈ task.completedAt, completed ≤ cutoff

instance instDecidablePendingLonger (cutoff : Instant) (task : TaskInstance) :
    Decidable (PendingLonger cutoff task) :=
  inferInstanceAs (Decidable (_ ∧ _))

/-- The joins, and the definition that is loaded with the instance. -/
def joined? (db : Database) (task : TaskInstance) :
    Option (TaskInstance × TaskDefinition) := do
  let definition ← db.definitions.find? task.definitionId
  let _ ← db.households.find? definition.householdId
  return (task, definition)

def pendingInstances (cutoff : Instant) (db : Database) :
    List (TaskInstance × TaskDefinition) :=
  (db.instances.rows.filter (PendingLonger cutoff)).filterMap (joined? db)

def householdParents (db : Database) (householdId : Uuid) : List Member :=
  db.members.rows.filter fun member =>
    member.householdId = householdId ∧ member.role = .parent ∧ member.pushToken.isSome

/-- A call of `notify_pending_approvals`. -/
structure Nudge where
  parent : Member
  count : Nat
  deriving DecidableEq, Repr

def Nudge.pushes (nudge : Nudge) : List Push :=
  notifyPendingApprovals nudge.parent nudge.count

/-- The household ids are a set, which is gone through in any order. -/
def sendDigests (now : Instant) (db : Database) : List Nudge :=
  let pending := pendingInstances (cutoff now) db
  if pending.isEmpty then []
  else
    (pending.map (·.2.householdId)).dedup.flatMap fun householdId =>
      let count := pending.countP (·.2.householdId = householdId)
      (householdParents db householdId).map fun parent => ⟨parent, count⟩

/-! ## What a household is sent -/

section Household

variable {now : Instant} {db : Database} {householdId : Uuid}

/-- The number of the household's instances that the query returns. -/
def digestCount (now : Instant) (db : Database) (householdId : Uuid) : Nat :=
  (pendingInstances (cutoff now) db).countP (·.2.householdId = householdId)

theorem mem_householdParents {member : Member} :
    member ∈ householdParents db householdId ↔ member ∈ db.members.rows ∧
      member.householdId = householdId ∧ member.role = .parent ∧
        member.pushToken.isSome := by
  unfold householdParents
  rw [List.mem_filter, decide_eq_true_eq]

/-- One of the ids has the household's part, and the others have nothing of it. -/
theorem filter_flatMap_households (ids : List Uuid) (nodup : ids.Nodup)
    (counts : Uuid → Nat) :
    (ids.flatMap fun id => (householdParents db id).map fun parent =>
      (⟨parent, counts id⟩ : Nudge)).filter (·.parent.householdId = householdId) =
      if householdId ∈ ids then
        (householdParents db householdId).map fun parent => ⟨parent, counts householdId⟩
      else [] := by
  induction ids with
  | nil => rfl
  | cons id rest ih =>
      obtain ⟨fresh, later⟩ := List.nodup_cons.mp nodup
      rw [List.flatMap_cons, List.filter_append, ih later]
      by_cases own : id = householdId
      · subst own
        rw [if_neg fresh, if_pos List.mem_cons_self, List.append_nil, List.filter_eq_self]
        intro nudge sent
        obtain ⟨parent, listed, rfl⟩ := List.mem_map.mp sent
        exact decide_eq_true (mem_householdParents.mp listed).2.1
      · have others : ((householdParents db id).map fun parent =>
            (⟨parent, counts id⟩ : Nudge)).filter
              (·.parent.householdId = householdId) = [] := by
          rw [List.filter_eq_nil_iff]
          intro nudge sent same
          obtain ⟨parent, listed, rfl⟩ := List.mem_map.mp sent
          exact own ((mem_householdParents.mp listed).2.1.symm.trans (of_decide_eq_true same))
        rw [others, List.nil_append]
        simp only [List.mem_cons, Ne.symm own, false_or]

theorem sendDigests_household :
    (sendDigests now db).filter (·.parent.householdId = householdId) =
      if digestCount now db householdId = 0 then []
      else (householdParents db householdId).map fun parent =>
        ⟨parent, digestCount now db householdId⟩ := by
  have listed : digestCount now db householdId = 0 ↔
      householdId ∉ ((pendingInstances (cutoff now) db).map (·.2.householdId)).dedup := by
    unfold digestCount
    rw [List.countP_eq_zero, List.mem_dedup, List.mem_map]
    simp only [decide_eq_true_eq, not_exists, not_and]
  unfold sendDigests
  simp only
  split
  next empty =>
      rw [List.isEmpty_iff] at empty
      rw [if_pos]
      · rfl
      · unfold digestCount
        rw [empty]
        rfl
  next =>
      rw [filter_flatMap_households _ (List.nodup_dedup _) fun id =>
        (pendingInstances (cutoff now) db).countP (·.2.householdId = id)]
      by_cases none : digestCount now db householdId = 0
      · rw [if_pos none, if_neg (listed.mp none)]
      · rw [if_neg none, if_pos (not_not.mp (mt listed.mpr none))]
        rfl

/-- Every call is for a parent with a token, and sends one push. -/
theorem pushes_of_mem {nudge : Nudge} (sent : nudge ∈ sendDigests now db) :
    ∃ token ∈ nudge.parent.pushToken,
      nudge.pushes = [⟨token, "Approvals waiting", waitingItems nudge.count⟩] := by
  unfold sendDigests at sent
  simp only at sent
  split at sent
  next => exact absurd sent List.not_mem_nil
  next =>
      obtain ⟨id, _, block⟩ := List.mem_flatMap.mp sent
      obtain ⟨parent, listed, rfl⟩ := List.mem_map.mp block
      obtain ⟨token, found⟩ := Option.isSome_iff_exists.mp (mem_householdParents.mp listed).2.2.2
      refine ⟨token, found, ?_⟩
      unfold Nudge.pushes notifyPendingApprovals
      rw [found]

end Household

end KidsChores.Workers.NotifyDigest
