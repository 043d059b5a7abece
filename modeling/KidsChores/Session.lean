import KidsChores.Models

/-!
# The database session of a request

What a session sees while the request runs, and what it writes: an update names
the columns the request changed, and the ledger gets the entries it added.
-/

set_option autoImplicit false

namespace KidsChores.Session

open KidsChores.Models

/-- A column the session changed is written, any other keeps what is committed. -/
def written {α : Type} [DecidableEq α] (read new committed : α) : α :=
  if new = read then committed else new

theorem written_changed {α : Type} [DecidableEq α] {read new committed : α}
    (changed : new ≠ read) : written read new committed = new :=
  if_neg changed

/-- Nothing else was committed: the column gets what the session holds. -/
theorem written_read {α : Type} [DecidableEq α] (read new : α) :
    written read new read = new := by
  unfold written
  split
  · rename_i same
    exact same.symm
  · rfl

def appendPosted (ledger : Ledger) (posted : List LedgerEntry) : Ledger :=
  posted.foldl (fun current entry => (current.insert? entry).getD current) ledger

/-- An entry whose index key is free is appended. -/
theorem appendPosted_free {ledger : Ledger} {entry : LedgerEntry}
    (free : ∀ earlier ∈ ledger.entries, ¬ earlier.Clashes entry) :
    (appendPosted ledger [entry]).entries = ledger.entries ++ [entry] := by
  obtain ⟨next, inserted, entries⟩ := Ledger.insert?_isSome free
  simp [appendPosted, inserted, entries]

/-! ## An open session -/

/-- A text column takes no NUL character. -/
def storableText : Option String → Bool
  | none => true
  | some text => !text.toList.contains (Char.ofNat 0)

/-- A `varchar(limit)` column refuses a longer text, unless only blanks are in
excess: those it cuts off. -/
def varchar? (limit : Nat) (text : String) : Option String :=
  if storableText (some text) = false then none
  else if text.length ≤ limit then some text
  else if (text.toList.drop limit).all (· = ' ') then
    some (String.ofList (text.toList.take limit))
  else none

def storableTask (task : TaskInstance) : Bool :=
  storableText task.completionNote && storableText task.excuseText &&
    storableText task.reviewComment

/-- The rows as the session sees them, and whether its pending updates will be
accepted when they are flushed. -/
structure OpenSession where
  db : Database
  flushable : Bool := true

def OpenSession.flush (session : OpenSession) : Except ServiceError OpenSession :=
  if session.flushable then .ok session else .error .dataError

/-- The rows after a service call on an instance. -/
def storeCall (db : Database) (task : TaskInstance) (ledger : Ledger) : Database :=
  { db with instances := db.instances.save task, ledger := ledger }

/-- A service call's row and ledger.  A ledger write queries the balance first,
and that query flushes the row. -/
def OpenSession.putCall (session : OpenSession) (task : TaskInstance)
    (ledger : Ledger) : Except ServiceError OpenSession :=
  let next : OpenSession :=
    { db := storeCall session.db task ledger
      flushable := session.flushable && storableTask task }
  if ledger.entries.length = session.db.ledger.entries.length then .ok next
  else next.flush

theorem OpenSession.flush_ok {session next : OpenSession}
    (flushed : session.flush = .ok next) : next = session := by
  unfold OpenSession.flush at flushed
  split at flushed
  · cases flushed
    rfl
  · cases flushed

theorem OpenSession.putCall_ok {session next : OpenSession} {task : TaskInstance}
    {ledger : Ledger} (put : session.putCall task ledger = .ok next) :
    next.db = storeCall session.db task ledger := by
  unfold OpenSession.putCall at put
  simp only at put
  split at put
  · cases put
    rfl
  · rw [OpenSession.flush_ok put]

theorem OpenSession.putCall_storable {db : Database} {task : TaskInstance}
    {ledger : Ledger} (storable : storableTask task = true) :
    OpenSession.putCall ⟨db, true⟩ task ledger = .ok ⟨storeCall db task ledger, true⟩ := by
  simp [OpenSession.putCall, OpenSession.flush, storable]

/-- An update no column takes is refused at once or at the next flush. -/
theorem OpenSession.putCall_unstorable {db : Database} {task : TaskInstance}
    {ledger : Ledger} (unstorable : storableTask task = false) :
    OpenSession.putCall ⟨db, true⟩ task ledger = .error .dataError ∨
      OpenSession.putCall ⟨db, true⟩ task ledger =
        .ok ⟨storeCall db task ledger, false⟩ := by
  by_cases unposted : ledger.entries.length = db.ledger.entries.length
  · simp [OpenSession.putCall, unstorable, unposted]
  · simp [OpenSession.putCall, OpenSession.flush, unstorable, unposted]

end KidsChores.Session
