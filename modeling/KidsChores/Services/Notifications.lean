import KidsChores.Models

/-!
# Notifications

`app/services/notifications.py`.  A notification is best-effort: sending never
raises, so a function here is the list of what it hands to `send_push`.
-/

set_option autoImplicit false

namespace KidsChores.Services.Notifications

open KidsChores.Models

/-- The arguments of `send_push`. -/
structure Push where
  token : String
  title : String
  body : String
  deriving DecidableEq, Repr

/-- To every parent of the household that has a token. -/
def notifyNewExcuse (db : Database) (householdId : Uuid) (teenName taskTitle : String) :
    List Push :=
  (db.members.rows.filter fun member =>
    member.householdId = householdId ∧ member.role = .parent).filterMap fun parent =>
      parent.pushToken.map fun token =>
        ⟨token, "New excuse submitted",
          teenName ++ " submitted an excuse for \"" ++ taskTitle ++ "\"."⟩

/-- The member and the definition are those loaded with the instance. -/
def notifyExcuseResolved (assignee : Member) (definition : TaskDefinition)
    (approved : Bool) : List Push :=
  match assignee.pushToken with
  | none => []
  | some token =>
      let title := if approved then "Excuse approved" else "Excuse denied"
      let verdict := if approved then "approved" else "denied"
      [⟨token, title,
        "Your excuse for \"" ++ definition.title ++ "\" was " ++ verdict ++ "."⟩]

/-- The reminder before a task's due time. -/
def notifyTaskReminder (assignee : Member) (definition : TaskDefinition) : List Push :=
  match assignee.pushToken with
  | none => []
  | some token =>
      [⟨token, "Task due soon", "\"" ++ definition.title ++ "\" is due soon."⟩]

/-- The member and the series are those loaded with the window. -/
def notifySeriesExpiring (assignee : Member) (series : Series) : List Push :=
  match assignee.pushToken with
  | none => []
  | some token =>
      [⟨token, "Series ending soon",
        "\"" ++ series.name ++ "\" ends soon — finish up to keep the bonus."⟩]

/-- The text of the daily nudge. -/
def waitingItems (count : Nat) : String :=
  "You have " ++ toString count ++ " item" ++ (if count ≠ 1 then "s" else "") ++
    " waiting for your review."

def notifyPendingApprovals (parent : Member) (count : Nat) : List Push :=
  match parent.pushToken with
  | none => []
  | some token => [⟨token, "Approvals waiting", waitingItems count⟩]

end KidsChores.Services.Notifications
