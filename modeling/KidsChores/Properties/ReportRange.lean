import KidsChores.Properties.FiledRows
import KidsChores.Properties.TodayView
import KidsChores.Properties.WeeklyBuckets

/-!
# The range of a report

The router fetches what is due between two instants, and the aggregation counts by local
dates.  A report is complete when every instant of its local weeks is among those fetched.
-/

set_option autoImplicit false

namespace KidsChores.Properties

open KidsChores.Library
open KidsChores.Library.PyDatetime
open KidsChores.Library.Runs
open KidsChores.Models
open KidsChores.Routers
open KidsChores.Routers.Definitions
open KidsChores.Routers.Listings
open KidsChores.Routers.Reports
open KidsChores.Routers.SavingsGoals
open KidsChores.Services.Reports
open KidsChores.Site
open KidsChores.Workers.GenerateInstances

/-! ## What a report should show -/

def memberInstances (db : Database) (targetId : Uuid) : List TaskInstance :=
  db.instances.rows.filter fun task =>
    (db.definitions.find? task.definitionId).any (·.assigneeId = targetId)

def earnedEntries (db : Database) (targetId : Uuid) : List LedgerEntry :=
  db.ledger.entries.filter fun entry =>
    entry.memberId = targetId ∧ entry.entryType ∈ earnedEntryTypes

def thisMonday (tz : TzInfo) (now : Instant) : Date := mondayOf (tz.localDate now)

/-- The Monday of the report's first row; the last row is the current week. -/
def firstMonday (tz : TzInfo) (now : Instant) (weeks : Int) : Date :=
  (thisMonday tz now).addDays (-(7 * (weeks - 1)))

def shownWeek (row : ReportWeek) : String × Nat × Nat × Int :=
  (row.weekStart, row.completed, row.missed, row.pointsEarned)

def memberWeek (tz : TzInfo) (db : Database) (targetId : Uuid) (monday : Date) :
    String × Nat × Nat × Int :=
  (isoformat monday, settledIn tz .complete (memberInstances db targetId) monday,
    settledIn tz .missed (memberInstances db targetId) monday,
    pointsIn tz (earnedEntries db targetId) monday)

/-- A request for a report of 1 to 52 weeks that its caller may see. -/
structure AsksReport (db : Database) (request : GetReport) (member : Member)
    (household : Household) : Prop where
  caller : loadCaller db request.memberId = .ok (member, household)
  allowed : ¬ (member.role = .teen ∧ member.id ≠ request.targetId)
  weeks : 1 ≤ request.weeks ∧ request.weeks ≤ 52
  target : ∃ target, getMemberOr404 db household request.targetId = .ok target

/-- Whatever is in the database, the report shows its weeks up to the current one and
counts every row of them. -/
def ReportComplete (pytz : String → Option TzInfo) (zone : String) (tz : TzInfo)
    (now : Instant) (weeks : Int) : Prop :=
  ∀ db request member household, AsksReport db request member household →
    household.timezone = zone → request.now = now → request.weeks = weeks →
      ∃ reply, getReport pytz request db = .ok reply ∧
        reply.memberId = request.targetId ∧
        reply.weeks.map shownWeek = (List.range weeks.toNat).map fun k : Nat =>
          memberWeek tz db request.targetId ((firstMonday tz now weeks).addDays (7 * k))

/-- The calendar shows the first Monday only from the midnight that `localize` gives on,
and every clock is past this week 168 hours after this Monday's midnight. -/
def RangeCovers (tz : TzInfo) (now : Instant) (weeks : Int) : Prop :=
  ∃ start monday,
    tz.localize? (naiveAt (firstMonday tz now weeks) 0 0) = some start ∧
      tz.localize? (naiveAt (thisMonday tz now) 0 0) = some monday ∧
      (∀ instant, firstMonday tz now weeks ≤ tz.localDate instant → start ≤ instant) ∧
      ∀ instant, monday + 7 * microsecondsPerDay ≤ instant →
        (thisMonday tz now).addDays 7 ≤ tz.localDate instant

variable {pytz : String → Option TzInfo} {tz : TzInfo} {now start finish : Instant}
  {weeks : Int} {db : Database} {request : GetReport} {member : Member}
  {household : Household}

/-! ## The request -/

theorem reportRange_eq (tz : TzInfo) (now : Instant) (weeks : Int) :
    reportRange tz now weeks =
      match tz.localize? (naiveAt (firstMonday tz now weeks) 0 0),
        tz.localize? (naiveAt (thisMonday tz now) 0 0) with
      | some start, some monday =>
          .ok (firstMonday tz now weeks, start, monday + 7 * microsecondsPerDay)
      | _, _ => .error .overflowError := rfl

theorem getReport_eq (asks : AsksReport db request member household)
    (known : pytz household.timezone = some tz) :
    getReport pytz request db =
      (ofJob (reportRange tz request.now request.weeks)).bind fun range =>
        .ok ⟨request.targetId, buildWeeklyReport
          (reportInstances db request.targetId range.2.1 range.2.2)
          (reportEntries db request.targetId range.2.1 range.2.2)
          range.1 request.weeks.toNat tz⟩ := by
  obtain ⟨target, found⟩ := asks.target
  unfold getReport timezone
  rw [asks.caller]
  simp only [bind, Except.bind, if_neg asks.allowed, if_neg (not_not.mpr asks.weeks), found,
    known, ofJob, pure, Except.pure]
  rfl

/-! ## What is fetched and what is counted -/

theorem thisMonday_weekday (tz : TzInfo) (now : Instant) : (thisMonday tz now).weekday = 0 := by
  unfold thisMonday mondayOf Date.weekday
  rw [Date.addDays_ordinal]
  omega

theorem firstMonday_weekday (tz : TzInfo) (now : Instant) (weeks : Int) :
    (firstMonday tz now weeks).weekday = 0 := by
  have monday := thisMonday_weekday tz now
  unfold firstMonday Date.weekday at *
  rw [Date.addDays_ordinal]
  omega

theorem firstMonday_ordinal (tz : TzInfo) (now : Instant) (weeks : Int) :
    (firstMonday tz now weeks).ordinal = (thisMonday tz now).ordinal - 7 * (weeks - 1) := by
  unfold firstMonday
  rw [Date.addDays_ordinal]
  omega

theorem settledIn_fetched {status : TaskStatus} {targetId : Uuid} {monday : Date}
    (covered : ∀ instant, LocalWeek tz monday instant → start ≤ instant ∧ instant < finish) :
    settledIn tz status (reportInstances db targetId start finish) monday =
      settledIn tz status (memberInstances db targetId) monday := by
  unfold settledIn reportInstances memberInstances
  rw [List.countP_filter, List.countP_filter]
  apply List.countP_congr
  intro task _
  simp only [Bool.and_eq_true, decide_eq_true_eq]
  constructor
  · intro fetched
    exact ⟨fetched.1, fetched.2.1⟩
  · intro counted
    exact ⟨counted.1, counted.2, covered task.dueAt counted.1.2⟩

theorem pointsIn_fetched {targetId : Uuid} {monday : Date}
    (covered : ∀ instant, LocalWeek tz monday instant → start ≤ instant ∧ instant < finish) :
    pointsIn tz (reportEntries db targetId start finish) monday =
      pointsIn tz (earnedEntries db targetId) monday := by
  unfold pointsIn reportEntries earnedEntries
  rw [List.filter_filter, List.filter_filter]
  congr 2
  apply List.filter_congr
  intro entry _
  rw [Bool.eq_iff_iff]
  simp only [Bool.and_eq_true, decide_eq_true_eq]
  constructor
  · intro fetched
    exact ⟨fetched.1, fetched.2.1, fetched.2.2.2.2⟩
  · intro counted
    have inside := covered entry.createdAt counted.1
    exact ⟨counted.1, counted.2.1, inside.1, inside.2, counted.2.2⟩

theorem shownWeek_fetched {targetId : Uuid} {monday : Date}
    (covered : ∀ instant, LocalWeek tz monday instant → start ≤ instant ∧ instant < finish) :
    shownWeek (weekRow tz (reportInstances db targetId start finish)
        (reportEntries db targetId start finish) monday) =
      memberWeek tz db targetId monday := by
  unfold shownWeek weekRow memberWeek
  dsimp only
  rw [settledIn_fetched covered, settledIn_fetched covered, pointsIn_fetched covered]

theorem reportComplete_of_covers {zone : String} (known : pytz zone = some tz)
    (covers : RangeCovers tz now weeks) : ReportComplete pytz zone tz now weeks := by
  intro db request member household asks sameZone sameNow sameWeeks
  subst sameZone sameNow sameWeeks
  obtain ⟨start, monday, first, this, early, late⟩ := covers
  refine ⟨⟨request.targetId, buildWeeklyReport
      (reportInstances db request.targetId start (monday + 7 * microsecondsPerDay))
      (reportEntries db request.targetId start (monday + 7 * microsecondsPerDay))
      (firstMonday tz request.now request.weeks) request.weeks.toNat tz⟩, ?_, rfl, ?_⟩
  · rw [getReport_eq asks known, reportRange_eq, first, this]
    rfl
  · dsimp only
    rw [buildWeeklyReport_eq (firstMonday_weekday tz request.now request.weeks), List.map_map]
    apply List.map_congr_left
    intro k earlier
    rw [List.mem_range] at earlier
    apply shownWeek_fetched
    intro instant inWeek
    have least := inWeek.1
    have most := inWeek.2
    have ordinal := firstMonday_ordinal tz request.now request.weeks
    rw [Date.le_def, Date.addDays_ordinal] at least
    rw [Date.le_def, Date.addDays_ordinal, Date.addDays_ordinal] at most
    refine ⟨early instant ?_, ?_⟩
    · rw [Date.le_def]
      omega
    · by_contra past
      have shown := late instant (Int.not_lt.mp past)
      rw [Date.le_def, Date.addDays_ordinal] at shown
      omega

/-! ## A family with one completed chore -/

def choreDatabase (zone : String) (due : Instant) : Database :=
  { sampleDatabase sampleDefinition { sampleTask with status := .complete, dueAt := due } with
    households := ⟨[{ sampleHousehold with timezone := zone }], List.nodup_singleton _⟩ }

def choreReport (now : Instant) (weeks : Int) : GetReport :=
  { now := now, memberId := 1, targetId := 2, weeks := weeks }

theorem choreReport_asks (zone : String) (due now : Instant)
    (inRange : 1 ≤ weeks ∧ weeks ≤ 52) :
    AsksReport (choreDatabase zone due) (choreReport now weeks) sampleParent
      { sampleHousehold with timezone := zone } :=
  ⟨rfl, fun refused => absurd refused.1 (by decide), inRange, sampleTeen, rfl⟩

theorem chore_fetched {zone : String} {due : Instant} {monday : Date}
    (same : settledIn tz .complete (reportInstances (choreDatabase zone due) 2 start finish)
      monday = settledIn tz .complete (memberInstances (choreDatabase zone due) 2) monday)
    (inWeek : LocalWeek tz monday due) : start ≤ due ∧ due < finish := by
  have stored : memberInstances (choreDatabase zone due) 2 =
      [{ sampleTask with status := .complete, dueAt := due }] := rfl
  by_contra outside
  have fetched : reportInstances (choreDatabase zone due) 2 start finish =
      (memberInstances (choreDatabase zone due) 2).filter fun task =>
        start ≤ task.dueAt ∧ task.dueAt < finish := by
    unfold reportInstances memberInstances
    rw [List.filter_filter]
    apply List.filter_congr
    intro task _
    rw [Bool.eq_iff_iff]
    simp only [Bool.and_eq_true, decide_eq_true_eq]
    exact and_comm
  rw [fetched, stored] at same
  unfold settledIn at same
  simp [outside, inWeek] at same

theorem getReport_returned {reply : ReportResponse}
    (asks : AsksReport db request member household)
    (known : pytz household.timezone = some tz)
    (returned : getReport pytz request db = .ok reply) :
    ∃ start monday,
      tz.localize? (naiveAt (firstMonday tz request.now request.weeks) 0 0) = some start ∧
        tz.localize? (naiveAt (thisMonday tz request.now) 0 0) = some monday ∧
        reply.weeks = (List.range request.weeks.toNat).map fun k : Nat =>
          weekRow tz
            (reportInstances db request.targetId start (monday + 7 * microsecondsPerDay))
            (reportEntries db request.targetId start (monday + 7 * microsecondsPerDay))
            ((firstMonday tz request.now request.weeks).addDays (7 * k)) := by
  rw [getReport_eq asks known, reportRange_eq] at returned
  cases first : tz.localize? (naiveAt (firstMonday tz request.now request.weeks) 0 0) with
  | none =>
      rw [first] at returned
      cases returned
  | some start =>
      cases this : tz.localize? (naiveAt (thisMonday tz request.now) 0 0) with
      | none =>
          rw [first, this] at returned
          cases returned
      | some monday =>
          rw [first, this] at returned
          cases returned
          exact ⟨start, monday, rfl, rfl,
            buildWeeklyReport_eq (firstMonday_weekday tz request.now request.weeks)⟩

theorem fetched_of_reportComplete {zone : String} (known : pytz zone = some tz)
    (inRange : 1 ≤ weeks ∧ weeks ≤ 52) (complete : ReportComplete pytz zone tz now weeks) :
    ∃ start monday,
      tz.localize? (naiveAt (firstMonday tz now weeks) 0 0) = some start ∧
        tz.localize? (naiveAt (thisMonday tz now) 0 0) = some monday ∧
        ∀ instant, firstMonday tz now weeks ≤ tz.localDate instant →
          tz.localDate instant < (thisMonday tz now).addDays 7 →
            start ≤ instant ∧ instant < monday + 7 * microsecondsPerDay := by
  have reports (due : Instant) := complete _ _ _ _ (choreReport_asks zone due now inRange)
    rfl rfl rfl
  have found : ∃ start monday,
      tz.localize? (naiveAt (firstMonday tz now weeks) 0 0) = some start ∧
        tz.localize? (naiveAt (thisMonday tz now) 0 0) = some monday := by
    obtain ⟨reply, returned, _, _⟩ := reports 0
    obtain ⟨start, monday, first, this, _⟩ :=
      getReport_returned (choreReport_asks zone 0 now inRange) known returned
    exact ⟨start, monday, first, this⟩
  obtain ⟨start, monday, first, this⟩ := found
  refine ⟨start, monday, first, this, ?_⟩
  intro instant since before
  obtain ⟨reply, returned, _, shown⟩ := reports instant
  obtain ⟨start', monday', first', this', rows⟩ :=
    getReport_returned (choreReport_asks zone instant now inRange) known returned
  dsimp only [choreReport] at first' this' rows shown
  rw [first'] at first
  rw [this'] at this
  cases first
  cases this
  have ordinal := firstMonday_ordinal tz now weeks
  rw [Date.le_def] at since
  rw [Date.lt_def, Date.addDays_ordinal] at before
  rw [rows, List.map_map, List.map_inj_left] at shown
  have row := shown (((tz.localDate instant).ordinal -
    (firstMonday tz now weeks).ordinal) / 7).toNat (List.mem_range.mpr (by omega))
  have completed := congrArg (fun shown => shown.2.1) row
  refine chore_fetched completed (show LocalWeek tz _ _ from ⟨?_, ?_⟩)
  · rw [Date.le_def, Date.addDays_ordinal]
    omega
  · rw [Date.le_def, Date.addDays_ordinal, Date.addDays_ordinal]
    omega

theorem covers_of_reportComplete {zone : String} (known : pytz zone = some tz)
    (bounded : tz.Bounded) (inRange : 1 ≤ weeks ∧ weeks ≤ 52)
    (complete : ReportComplete pytz zone tz now weeks) : RangeCovers tz now weeks := by
  obtain ⟨start, monday, first, this, fetched⟩ :=
    fetched_of_reportComplete known inRange complete
  have ordinal := firstMonday_ordinal tz now weeks
  refine ⟨start, monday, first, this, ?_, ?_⟩
  · intro instant shown
    by_contra early
    have later : (firstMonday tz now weeks).addDays 2 ≤ (thisMonday tz now).addDays 7 := by
      rw [Date.le_def, Date.addDays_ordinal, Date.addDays_ordinal]
      omega
    have before := bounded.before_midnight first later (Int.le_of_lt (Int.not_le.mp early))
    exact early (fetched instant shown before).1
  · intro instant late
    by_contra behind
    have shown : firstMonday tz now weeks ≤ tz.localDate instant := by
      have midnight := bounded.localized this
      have clock := bounded.localTime instant
      have earlier := midnight_le_midnight.mpr
        (show (firstMonday tz now weeks) ≤ thisMonday tz now by rw [Date.le_def]; omega)
      rw [TzInfo.le_localDate]
      dsimp only [Instant, NaiveDatetime, Timedelta, microsecondsPerDay] at *
      omega
    exact Int.not_lt.mpr late (fetched instant shown (Date.not_le.mp behind)).2

/-- In the states of the site the member's instances are those assigned to the member. -/
theorem memberInstances_eq (filed : FiledRows db) (targetId : Uuid) :
    memberInstances db targetId = db.instances.rows.filter (·.assigneeId = targetId) := by
  unfold memberInstances
  apply List.filter_congr
  intro task stored
  obtain ⟨definition, member, ofTask, ofAssignee⟩ := filed.assigned task stored
  have found : db.definitions.find? task.definitionId = some definition :=
    Table.find?_eq_some_iff.mpr ⟨member, ofTask⟩
  rw [found, Option.any_some, ofAssignee]

theorem report_complete_iff {zone : String} (known : pytz zone = some tz)
    (bounded : tz.Bounded) (inRange : 1 ≤ weeks ∧ weeks ≤ 52) :
    (ReportComplete pytz zone tz now weeks ↔ RangeCovers tz now weeks) ∧
      ∀ (verifyPassword : String → String → Bool) (site : SiteState), Founded site →
        ∀ events, Always (siteStep pytz verifyPassword)
          (fun site => ∀ targetId, memberInstances site.db targetId =
            site.db.instances.rows.filter (·.assigneeId = targetId)) site events := by
  constructor
  · exact ⟨covers_of_reportComplete known bounded inRange, reportComplete_of_covers known⟩
  · intro verifyPassword site founded events
    apply (always_filed founded events).imp
    intro reached filed targetId
    exact memberInstances_eq filed.filed targetId

/-- 2026-03-18, noon in summer time. -/
def marchNoon : Instant := naiveAt ⟨739693⟩ 16 0

theorem report_complete_march :
    ReportComplete newYorkOnly "America/New_York" TzInfo.newYork marchNoon 2 := by
  have zone : newYorkOnly "America/New_York" = some TzInfo.newYork := rfl
  refine (report_complete_iff zone TzInfo.newYork_bounded (by decide)).1.mpr ?_
  have starts : TzInfo.newYork.TurnsAt (firstMonday TzInfo.newYork marchNoon 2)
      (naiveAt (firstMonday TzInfo.newYork marchNoon 2) 4 0) :=
    TzInfo.withSummerTime_turnsAt (by decide) (by decide)
  have ends : TzInfo.newYork.TurnsAt ((thisMonday TzInfo.newYork marchNoon).addDays 7)
      (naiveAt (thisMonday TzInfo.newYork marchNoon) 4 0 + 7 * microsecondsPerDay) :=
    TzInfo.withSummerTime_turnsAt (by decide) (by decide)
  exact ⟨_, _, by decide, by decide, fun instant => (starts instant).mp,
    fun instant => (ends instant).mpr⟩

/-! ## The week the clocks go back -/

/-- 2026-11-01 at 20:00, after the change. -/
def changedEvening : Instant := naiveAt ⟨739922⟩ 1 0

/-- The same day at 23:30, in the last hour of the week. -/
def lastChore : Instant := naiveAt ⟨739922⟩ 4 30

theorem lastChore_unreported :
    (∃ reply, getReport newYorkOnly (choreReport changedEvening 1)
        (choreDatabase "America/New_York" lastChore) = .ok reply ∧
        reply.weeks.map (·.completed) = [0]) ∧
      settledIn TzInfo.newYork .complete
        (memberInstances (choreDatabase "America/New_York" lastChore) 2)
        (thisMonday TzInfo.newYork changedEvening) = 1 := by
  constructor
  · have returns : ((getReport newYorkOnly (choreReport changedEvening 1)
        (choreDatabase "America/New_York" lastChore)).map fun reply =>
          reply.weeks.map (·.completed)) = .ok [0] := by decide
    cases returned : getReport newYorkOnly (choreReport changedEvening 1)
        (choreDatabase "America/New_York" lastChore) with
    | error raised =>
        rw [returned] at returns
        cases returns
    | ok reply =>
        rw [returned] at returns
        exact ⟨reply, rfl, Except.ok.inj returns⟩
  · decide

end KidsChores.Properties
