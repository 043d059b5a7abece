import KidsChores.Properties.AtMostOnce
import KidsChores.Properties.ReportRange
import KidsChores.Properties.SafeRetries
import KidsChores.Properties.WalletEquation

/-!
# What a report adds up to

A report that reaches back to a member's first task shows, week by week, what the board and
the wallet show as a whole: its counts add up to the completed and the missed tasks, and its
points, with what was adjusted and handed out, to the balance.
-/

set_option autoImplicit false

namespace KidsChores.Properties

open KidsChores.Library
open KidsChores.Library.Groups
open KidsChores.Library.PyDatetime
open KidsChores.Library.Runs
open KidsChores.Models
open KidsChores.Planning
open KidsChores.Routers
open KidsChores.Routers.Household
open KidsChores.Routers.Listings
open KidsChores.Routers.Reports
open KidsChores.Server
open KidsChores.Services.Ledger
open KidsChores.Services.Reports
open KidsChores.Site

/-! ## Weeks in a row -/

section Weeks

variable {tz : TzInfo} {first : Date} {n : Nat}

theorem weeks_nodup (first : Date) (n : Nat) :
    ((List.range n).map fun k : Nat => first.addDays (7 * k)).Nodup := by
  refine List.Nodup.map ?_ List.nodup_range
  intro k l same
  have ordinals := congrArg Date.ordinal same
  simp only [Date.addDays_ordinal] at ordinals
  omega

theorem week_listed (monday_ : first.weekday = 0) {instant : Instant}
    (since : first ≤ tz.localDate instant)
    (before : tz.localDate instant < first.addDays (7 * n)) :
    weekStartOf instant tz ∈ (List.range n).map fun k : Nat => first.addDays (7 * k) := by
  rw [Date.le_def] at since
  rw [Date.lt_def, Date.addDays_ordinal] at before
  let k := (((tz.localDate instant).ordinal - first.ordinal) / 7).toNat
  refine List.mem_map.mpr ⟨k, List.mem_range.mpr (by omega), ?_⟩
  refine (eq_weekStartOf (weekday_addDays_seven monday_ k)).mpr ⟨?_, ?_⟩
  · rw [Date.le_def, Date.addDays_ordinal]
    omega
  · rw [Date.le_def, Date.addDays_ordinal, Date.addDays_ordinal]
    omega

theorem sum_settledIn (monday_ : first.weekday = 0) {status : TaskStatus}
    {tasks : List TaskInstance}
    (inside : ∀ task ∈ tasks, task.status = status →
      first ≤ tz.localDate task.dueAt ∧ tz.localDate task.dueAt < first.addDays (7 * n)) :
    ((List.range n).map fun k : Nat =>
        settledIn tz status tasks (first.addDays (7 * k))).sum =
      tasks.countP fun task => task.status = status := by
  let week (task : TaskInstance) : Option Date :=
    if task.status = status then some (weekStartOf task.dueAt tz) else none
  have listed : ∀ task ∈ tasks, ∀ monday ∈ week task,
      monday ∈ (List.range n).map fun k : Nat => first.addDays (7 * k) := by
    intro task member monday named
    simp only [week] at named
    split at named
    · rename_i counted
      cases named
      obtain ⟨since, before⟩ := inside task member counted
      exact week_listed monday_ since before
    · cases named
  have grouped : ∀ k ∈ List.range n, settledIn tz status tasks (first.addDays (7 * k)) =
      groupSum week (fun _ => 1) tasks (first.addDays (7 * k)) := by
    intro k _
    have start := weekday_addDays_seven monday_ k
    unfold settledIn groupSum
    rw [List.countP_eq_length_filter, List.map_const', List.sum_replicate_nat, Nat.mul_one]
    congr 1
    refine List.filter_congr fun task _ => ?_
    simp only [week, ← eq_weekStartOf start]
    by_cases counted : task.status = status
    · simp [counted, eq_comm]
    · simp [counted]
  rw [List.map_congr_left grouped]
  have total := @sum_groupSum _ _ _ _ _ week (fun _ => 1) _ (weeks_nodup first n) _ listed
  rw [List.map_map] at total
  refine total.trans ?_
  rw [List.countP_eq_length_filter, List.map_const', List.sum_replicate_nat, Nat.mul_one]
  congr 1
  refine List.filter_congr fun task _ => ?_
  by_cases counted : task.status = status
  · simp [week, counted]
  · simp [week, counted]

theorem sum_pointsIn (monday_ : first.weekday = 0) {entries : List LedgerEntry}
    (inside : ∀ entry ∈ entries, first ≤ tz.localDate entry.createdAt ∧
      tz.localDate entry.createdAt < first.addDays (7 * n)) :
    ((List.range n).map fun k : Nat => pointsIn tz entries (first.addDays (7 * k))).sum =
      (entries.map LedgerEntry.delta).sum := by
  let week (entry : LedgerEntry) : Option Date := some (weekStartOf entry.createdAt tz)
  have listed : ∀ entry ∈ entries, ∀ monday ∈ week entry,
      monday ∈ (List.range n).map fun k : Nat => first.addDays (7 * k) := by
    rintro entry member monday ⟨⟩
    obtain ⟨since, before⟩ := inside entry member
    exact week_listed monday_ since before
  have grouped : ∀ k ∈ List.range n, pointsIn tz entries (first.addDays (7 * k)) =
      groupSum week LedgerEntry.delta entries (first.addDays (7 * k)) := by
    intro k _
    have start := weekday_addDays_seven monday_ k
    unfold pointsIn groupSum
    congr 2
    refine List.filter_congr fun entry _ => ?_
    simp [week, ← eq_weekStartOf start, eq_comm]
  rw [List.map_congr_left grouped]
  have total := @sum_groupSum _ _ _ _ _ week LedgerEntry.delta _ (weeks_nodup first n) _ listed
  rw [List.map_map] at total
  refine total.trans ?_
  simp [week]

end Weeks

/-! ## The board and the wallet -/

def InReport (tz : TzInfo) (request : GetReport) (instant : Instant) : Prop :=
  firstMonday tz request.now request.weeks ≤ tz.localDate instant ∧
    tz.localDate instant < (thisMonday tz request.now).addDays 7

instance instDecidableInReport (tz : TzInfo) (request : GetReport) (instant : Instant) :
    Decidable (InReport tz request instant) := inferInstanceAs (Decidable (_ ∧ _))

/-- The report reaches back to the first task of the member that is complete or missed, and
to the first points for one. -/
structure ReachesAll (tz : TzInfo) (db : Database) (request : GetReport) : Prop where
  tasks : ∀ task ∈ tasksOf db request.targetId,
    task.status = .complete ∨ task.status = .missed → InReport tz request task.dueAt
  earnings : ∀ entry ∈ db.ledger.entries, entry.memberId = request.targetId →
    entry.taskInstanceId.isSome → InReport tz request entry.createdAt

structure ReportTotals (db : Database) (targetId : Uuid) (weeks : List ReportWeek) : Prop where
  completed : (weeks.map ReportWeek.completed).sum =
    (tasksOf db targetId).countP fun task => task.status = .complete
  missed : (weeks.map ReportWeek.missed).sum =
    (tasksOf db targetId).countP fun task => task.status = .missed
  earned : (weeks.map ReportWeek.pointsEarned).sum =
    completedPoints db targetId + excusedPoints db targetId
  balance : currentBalance db.ledger targetId = (weeks.map ReportWeek.pointsEarned).sum +
    typedSum db.ledger targetId .manualAdjustment + typedSum db.ledger targetId .claimFulfilled

section Totals

variable {db : Database} {tz : TzInfo}

theorem Authorized.earned_iff {entry : LedgerEntry} (authorized : Authorized db entry) :
    entry.entryType ∈ earnedEntryTypes ↔ entry.taskInstanceId.isSome = true := by
  cases authorized with
  | completed signed entitled pays done entryType delta =>
      simp [entryType, pays.named, earnedEntryTypes]
  | excusedFull signed parent pays excused entryType delta =>
      simp [entryType, pays.named, earnedEntryTypes]
  | excusedPartial signed parent pays excused entryType delta =>
      simp [entryType, pays.named, earnedEntryTypes]
  | fulfilled signed parent stored named owner noTask entryType delta =>
      simp [entryType, noTask, earnedEntryTypes]
  | adjusted signed parent noTask entryType => simp [entryType, noTask, earnedEntryTypes]

theorem earnedEntries_eq (authorized : LedgerAuthorized db) (targetId : Uuid) :
    earnedEntries db targetId =
      (db.ledger.entries.filter fun entry => entry.memberId = targetId).filter fun entry =>
        entry.taskInstanceId.isSome := by
  unfold earnedEntries
  rw [List.filter_filter]
  refine List.filter_congr fun entry member => ?_
  have earned := (authorized entry member).earned_iff
  by_cases own : entry.memberId = targetId
  · by_cases tasked : entry.taskInstanceId.isSome = true
    · simp [own, tasked, earned.mpr tasked]
    · simp [own, tasked, mt earned.mp tasked]
  · simp [own]

theorem sum_earned (books : Books db) (targetId : Uuid) :
    ((earnedEntries db targetId).map LedgerEntry.delta).sum =
      completedPoints db targetId + excusedPoints db targetId := by
  rw [earnedEntries_eq books.authorized, tasked_sum books.settled, accounts_sum books.paid]

theorem lastMonday_eq {now : Instant} {weeks : Int} (some_ : 1 ≤ weeks) :
    (firstMonday tz now weeks).addDays (7 * (weeks.toNat : Int)) =
      (thisMonday tz now).addDays 7 := by
  have ordinal := firstMonday_ordinal tz now weeks
  refine Date.ordinal_inj ?_
  rw [Date.addDays_ordinal, Date.addDays_ordinal]
  omega

variable {pytz : String → Option TzInfo} {request : GetReport} {member : Member}
  {household : Household}

theorem report_totals (books : Books db) (filed : FiledRows db)
    (asks : AsksReport db request member household)
    (known : pytz household.timezone = some tz)
    (covers : RangeCovers tz request.now request.weeks) (reaches : ReachesAll tz db request) :
    ∃ reply, getReport pytz request db = .ok reply ∧
      ReportTotals db request.targetId reply.weeks := by
  obtain ⟨reply, returned, _, shown⟩ :=
    reportComplete_of_covers known covers db request member household asks rfl rfl rfl
  have monday_ := firstMonday_weekday tz request.now request.weeks
  have finish := @lastMonday_eq tz request.now request.weeks asks.weeks.1
  have own : memberInstances db request.targetId = tasksOf db request.targetId :=
    memberInstances_eq filed request.targetId
  have settled (status : TaskStatus) (decided : status = .complete ∨ status = .missed) :
      ((List.range request.weeks.toNat).map fun k : Nat =>
          settledIn tz status (memberInstances db request.targetId)
            ((firstMonday tz request.now request.weeks).addDays (7 * k))).sum =
        (tasksOf db request.targetId).countP fun task => task.status = status := by
    rw [own]
    refine sum_settledIn monday_ fun task assigned counted => ?_
    rw [finish]
    exact reaches.tasks task assigned (by rw [counted]; exact decided)
  have earned : (reply.weeks.map ReportWeek.pointsEarned).sum =
      completedPoints db request.targetId + excusedPoints db request.targetId := by
    have rows := congrArg (fun shown => (shown.map fun row => row.2.2.2).sum) shown
    simp only [List.map_map] at rows
    refine rows.trans ((sum_pointsIn monday_ fun entry member => ?_).trans
      (sum_earned books request.targetId))
    rw [finish]
    rw [earnedEntries_eq books.authorized] at member
    obtain ⟨stored, tasked⟩ := List.mem_filter.mp member
    obtain ⟨stored, assigned⟩ := List.mem_filter.mp stored
    exact reaches.earnings entry stored (of_decide_eq_true assigned) tasked
  refine ⟨reply, returned, ?_, ?_, earned, ?_⟩
  · have rows := congrArg (fun shown => (shown.map fun row => row.2.1).sum) shown
    simp only [List.map_map] at rows
    exact rows.trans (settled .complete (Or.inl rfl))
  · have rows := congrArg (fun shown => (shown.map fun row => row.2.2.1).sum) shown
    simp only [List.map_map] at rows
    exact rows.trans (settled .missed (Or.inr rfl))
  · rw [earned]
    exact (walletEquation books.settled books.authorized books.paid).balance request.targetId

end Totals

/-! ## Every run -/

section Runs

variable (pytz : String → Option TzInfo) (verifyPassword : String → String → Bool)

theorem served_filed (events : List ServerEvent) :
    FiledRows (served pytz verifyPassword events).world.db := by
  have empty : FiledSite { server := emptyServer } :=
    Founded.filed ⟨⟨rfl, rfl, rfl, rfl, rfl⟩, rfl, rfl⟩
  have always := invariant_always
    (fun server : ServerState => FiledSite { server := server })
    (fun _ event filed => @FiledSite.served pytz verifyPassword _ filed event) empty events
  exact always.at_end.filed

/-- In every state of every run a report that covers its weeks and reaches back to a
member's first task adds up to what the board and the wallet show. -/
theorem reports_reconcile (events : List ServerEvent) (request : GetReport) (member : Member)
    (household : Household) (tz : TzInfo)
    (asks : AsksReport (served pytz verifyPassword events).world.db request member household)
    (known : pytz household.timezone = some tz)
    (covers : RangeCovers tz request.now request.weeks)
    (reaches : ReachesAll tz (served pytz verifyPassword events).world.db request) :
    ∃ reply, getReport pytz request (served pytz verifyPassword events).world.db = .ok reply ∧
      ReportTotals (served pytz verifyPassword events).world.db request.targetId
        reply.weeks :=
  report_totals (books_always pytz verifyPassword events).at_end
    (served_filed pytz verifyPassword events) asks known covers reaches

end Runs

/-! ## The first week of a family -/

theorem utc_turns (date : Date) : (TzInfo.fixed 0).TurnsAt date (naiveAt date 0 0) := by
  intro instant
  have local_ : (TzInfo.fixed 0).localTime instant = instant := Int.add_zero instant
  rw [TzInfo.le_localDate, local_]

theorem utc_localize (date : Date) :
    (TzInfo.fixed 0).localize? (naiveAt date 0 0) = some (naiveAt date 0 0) :=
  congrArg some (Int.sub_zero _)

theorem utc_covers (now : Instant) (weeks : Int) :
    RangeCovers (TzInfo.fixed 0) now weeks := by
  refine ⟨_, _, utc_localize _, utc_localize _, fun instant => (utc_turns _ instant).mp, ?_⟩
  intro instant late
  refine (utc_turns _ instant).mpr ?_
  rw [naiveAt_addDays]
  exact late

/-- Two hours into 2025, and an hour after the first chore is done. -/
def firstReport : GetReport where
  now := nightOf 1 + timedeltaHours 2
  memberId := 1
  targetId := 2
  weeks := 1

theorem reports_reconcile_sample :
    let db := (served utcOnly (fun _ _ => false) (firstChore ++ [sendDone 1])).world.db
    ∃ reply, getReport utcOnly firstReport db = .ok reply ∧ ReportTotals db 2 reply.weeks := by
  intro db
  have target : ∃ teen, getMemberOr404 db registeredFamily 2 = .ok teen :=
    isOk_iff.mp (by decide +kernel)
  have asks : AsksReport db firstReport registeredParent registeredFamily :=
    ⟨by decide +kernel, by decide, by decide, target⟩
  have reaches : ReachesAll (TzInfo.fixed 0) db firstReport :=
    ⟨by decide +kernel, by decide +kernel⟩
  exact reports_reconcile utcOnly (fun _ _ => false) (firstChore ++ [sendDone 1]) firstReport
    registeredParent registeredFamily (TzInfo.fixed 0) asks rfl (utc_covers _ _) reaches

end KidsChores.Properties
