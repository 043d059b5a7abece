import Mathlib.Algebra.Order.Field.Rat
import KidsChores.Library.LocalMidnights
import KidsChores.Services.Reports

/-!
# Weekly buckets

`build_weekly_report` changes a dict of buckets row by row.  Every bucket ends up with
what a count over the rows of its week gives, so the order of the rows does not matter
and the reports of two lists add up.
-/

set_option autoImplicit false

namespace KidsChores.Properties

open KidsChores.Models
open KidsChores.Library.PyDatetime
open KidsChores.Services.Reports

variable {tz : TzInfo} {monday week date : Date}

def LocalWeek (tz : TzInfo) (monday : Date) (instant : Instant) : Prop :=
  monday ≤ tz.localDate instant ∧ tz.localDate instant ≤ monday.addDays 6

instance instDecidableLocalWeek (tz : TzInfo) (monday : Date) (instant : Instant) :
    Decidable (LocalWeek tz monday instant) := inferInstanceAs (Decidable (_ ∧ _))

/-! ## What a week counts -/

def settledIn (tz : TzInfo) (status : TaskStatus) (instances : List TaskInstance)
    (monday : Date) : Nat :=
  instances.countP fun task => task.status = status ∧ LocalWeek tz monday task.dueAt

def excusesIn (tz : TzInfo) (instances : List TaskInstance) (monday : Date) : Nat :=
  instances.countP fun task => ∃ submitted ∈ task.excuseSubmittedAt,
    LocalWeek tz monday submitted

def pointsIn (tz : TzInfo) (entries : List LedgerEntry) (monday : Date) : Int :=
  ((entries.filter fun entry => LocalWeek tz monday entry.createdAt).map (·.delta)).sum

/-- The row of a week, from the rows whose local date is in it. -/
def weekRow (tz : TzInfo) (instances : List TaskInstance) (entries : List LedgerEntry)
    (monday : Date) : ReportWeek where
  weekStart := isoformat monday
  completed := settledIn tz .complete instances monday
  missed := settledIn tz .missed instances monday
  completionRate :=
    if settledIn tz .complete instances monday + settledIn tz .missed instances monday = 0 then
      none
    else some ((settledIn tz .complete instances monday : ℚ) /
      (settledIn tz .complete instances monday + settledIn tz .missed instances monday))
  excuseCount := excusesIn tz instances monday
  pointsEarned := pointsIn tz entries monday

def counts (row : ReportWeek) : Nat × Nat × Nat × Int :=
  (row.completed, row.missed, row.excuseCount, row.pointsEarned)

theorem mondayOf_eq_iff (monday_ : monday.weekday = 0) :
    mondayOf date = monday ↔ monday ≤ date ∧ date ≤ monday.addDays 6 := by
  have shape : mondayOf date = monday ↔ date.ordinal - date.weekday = monday.ordinal := by
    constructor
    · intro same
      subst same
      rfl
    · intro same
      exact Date.ordinal_inj same
  rw [shape, Date.le_def, Date.le_def, Date.addDays_ordinal]
  unfold Date.weekday at *
  omega

theorem eq_weekStartOf (monday_ : monday.weekday = 0) {instant : Instant} :
    monday = weekStartOf instant tz ↔ LocalWeek tz monday instant := by
  rw [eq_comm]
  exact mondayOf_eq_iff monday_

/-! ## One bucket -/

def tallyInstance (tz : TzInfo) (week : Date) (bucket : Bucket) (task : TaskInstance) :
    Bucket where
  completed := bucket.completed +
    if task.status = .complete ∧ week = weekStartOf task.dueAt tz then 1 else 0
  missed := bucket.missed +
    if task.status = .missed ∧ week = weekStartOf task.dueAt tz then 1 else 0
  excuseCount := bucket.excuseCount +
    if ∃ submitted ∈ task.excuseSubmittedAt, week = weekStartOf submitted tz then 1 else 0
  pointsEarned := bucket.pointsEarned

def tallyEntry (tz : TzInfo) (week : Date) (bucket : Bucket) (entry : LedgerEntry) :
    Bucket where
  completed := bucket.completed
  missed := bucket.missed
  excuseCount := bucket.excuseCount
  pointsEarned := bucket.pointsEarned +
    if week = weekStartOf entry.createdAt tz then entry.delta else 0

theorem change_eq (buckets : Buckets) (week : Date) (update : Bucket → Bucket) :
    buckets.change week update = buckets.map fun entry =>
      (entry.1, if entry.1 = week then update entry.2 else entry.2) := by
  unfold Buckets.change
  apply List.map_congr_left
  intro entry _
  split
  · rfl
  · rfl

theorem countInstance_eq (buckets : Buckets) (task : TaskInstance) :
    countInstance tz buckets task =
      buckets.map fun entry => (entry.1, tallyInstance tz entry.1 entry.2 task) := by
  unfold countInstance tallyInstance
  cases excuse : task.excuseSubmittedAt with
  | none =>
      dsimp only
      rw [change_eq]
      apply List.map_congr_left
      intro entry _
      by_cases due : entry.1 = weekStartOf task.dueAt tz
      · cases status : task.status <;> simp [due]
      · simp [due]
  | some submitted =>
      dsimp only
      rw [change_eq, change_eq, List.map_map]
      apply List.map_congr_left
      intro entry _
      dsimp only [Function.comp_apply]
      by_cases due : entry.1 = weekStartOf task.dueAt tz
      · by_cases sent : entry.1 = weekStartOf submitted tz
        · cases status : task.status <;> simp [← due, ← sent]
        · cases status : task.status <;> simp [← due, sent]
      · by_cases sent : entry.1 = weekStartOf submitted tz
        · simp [due, ← sent]
        · simp [due, sent]

theorem countEntry_eq (buckets : Buckets) (entry : LedgerEntry) :
    countEntry tz buckets entry =
      buckets.map fun found => (found.1, tallyEntry tz found.1 found.2 entry) := by
  unfold countEntry tallyEntry
  rw [change_eq]
  apply List.map_congr_left
  intro found _
  by_cases earned : found.1 = weekStartOf entry.createdAt tz
  · simp [← earned]
  · simp [earned]

theorem foldl_entries {α β γ : Type} (step : α → β → γ → β) (rows : List γ)
    (entries : List (α × β)) :
    rows.foldl (fun entries row => entries.map fun entry =>
        (entry.1, step entry.1 entry.2 row)) entries =
      entries.map fun entry => (entry.1, rows.foldl (step entry.1) entry.2) := by
  induction rows generalizing entries with
  | nil => simp
  | cons row rest ih =>
      rw [List.foldl_cons, ih, List.map_map]
      rfl

theorem foldl_tallyInstance (monday_ : week.weekday = 0) (instances : List TaskInstance)
    (bucket : Bucket) :
    instances.foldl (tallyInstance tz week) bucket =
      { completed := bucket.completed + settledIn tz .complete instances week
        missed := bucket.missed + settledIn tz .missed instances week
        excuseCount := bucket.excuseCount + excusesIn tz instances week
        pointsEarned := bucket.pointsEarned } := by
  induction instances generalizing bucket with
  | nil => simp [settledIn, excusesIn]
  | cons task rest ih =>
      rw [List.foldl_cons, ih]
      unfold tallyInstance settledIn excusesIn
      simp only [List.countP_cons, decide_eq_true_eq, eq_weekStartOf monday_]
      congr 1
      · omega
      · omega
      · omega

theorem foldl_tallyEntry (monday_ : week.weekday = 0) (entries : List LedgerEntry)
    (bucket : Bucket) :
    entries.foldl (tallyEntry tz week) bucket =
      { bucket with pointsEarned := bucket.pointsEarned + pointsIn tz entries week } := by
  induction entries generalizing bucket with
  | nil => simp [pointsIn]
  | cons entry rest ih =>
      rw [List.foldl_cons, ih]
      unfold tallyEntry pointsIn
      simp only [eq_weekStartOf monday_]
      by_cases earned : LocalWeek tz week entry.createdAt
      · simp [earned, add_assoc]
      · simp [earned]

/-! ## The report -/

variable {instances shuffled : List TaskInstance} {entries reordered : List LedgerEntry}
  {rangeStart : Date} {numWeeks : Nat}

theorem weekday_addDays_seven (monday_ : rangeStart.weekday = 0) (k : Nat) :
    (rangeStart.addDays (7 * k)).weekday = 0 := by
  unfold Date.weekday at *
  rw [Date.addDays_ordinal]
  omega

theorem foldl_countInstance (instances : List TaskInstance) (buckets : Buckets) :
    instances.foldl (countInstance tz) buckets = buckets.map fun entry =>
      (entry.1, instances.foldl (tallyInstance tz entry.1) entry.2) := by
  have step : countInstance tz = fun buckets task =>
      buckets.map fun entry => (entry.1, tallyInstance tz entry.1 entry.2 task) := by
    funext buckets task
    exact countInstance_eq buckets task
  rw [step]
  exact foldl_entries (tallyInstance tz) instances buckets

theorem foldl_countEntry (entries : List LedgerEntry) (buckets : Buckets) :
    entries.foldl (countEntry tz) buckets = buckets.map fun found =>
      (found.1, entries.foldl (tallyEntry tz found.1) found.2) := by
  have step : countEntry tz = fun buckets entry =>
      buckets.map fun found => (found.1, tallyEntry tz found.1 found.2 entry) := by
    funext buckets entry
    exact countEntry_eq buckets entry
  rw [step]
  exact foldl_entries (tallyEntry tz) entries buckets

def weekBucket (tz : TzInfo) (instances : List TaskInstance) (entries : List LedgerEntry)
    (monday : Date) : Bucket where
  completed := settledIn tz .complete instances monday
  missed := settledIn tz .missed instances monday
  excuseCount := excusesIn tz instances monday
  pointsEarned := pointsIn tz entries monday

theorem emptyBuckets_eq : emptyBuckets rangeStart numWeeks =
    (List.range numWeeks).map fun k : Nat => (rangeStart.addDays (7 * k), {}) := by
  unfold emptyBuckets
  rw [List.bind_eq_flatMap, List.map_flatMap]
  exact List.flatMap_pure_eq_map _ _

theorem counted_buckets (monday_ : rangeStart.weekday = 0) :
    entries.foldl (countEntry tz)
        (instances.foldl (countInstance tz) (emptyBuckets rangeStart numWeeks)) =
      (List.range numWeeks).map fun k : Nat => (rangeStart.addDays (7 * k),
        weekBucket tz instances entries (rangeStart.addDays (7 * k))) := by
  rw [foldl_countInstance, foldl_countEntry, emptyBuckets_eq, List.map_map, List.map_map]
  apply List.map_congr_left
  intro k _
  have start := weekday_addDays_seven monday_ k
  dsimp only [Function.comp_apply]
  rw [foldl_tallyInstance start, foldl_tallyEntry start]
  simp [weekBucket]

theorem reportWeek_weekBucket (monday : Date) :
    reportWeek (monday, weekBucket tz instances entries monday) =
      weekRow tz instances entries monday := by
  unfold reportWeek weekBucket weekRow
  dsimp only
  congr 1
  split
  · rename_i some_
    rw [if_neg (by omega), Nat.cast_add]
  · rename_i none_
    rw [if_pos (by omega)]

theorem buildWeeklyReport_eq (monday_ : rangeStart.weekday = 0) :
    buildWeeklyReport instances entries rangeStart numWeeks tz =
      (List.range numWeeks).map fun k : Nat =>
        weekRow tz instances entries (rangeStart.addDays (7 * k)) := by
  unfold buildWeeklyReport
  dsimp only
  rw [counted_buckets monday_, List.Pairwise.insertionSort_eq, List.map_map]
  · apply List.map_congr_left
    intro k _
    exact reportWeek_weekBucket _
  · rw [List.pairwise_map]
    apply List.pairwise_lt_range.imp
    intro earlier later increasing
    rw [Date.le_def, Date.addDays_ordinal, Date.addDays_ordinal]
    omega

theorem weekRow_rate (monday : Date) :
    ((weekRow tz instances entries monday).completionRate = none ↔
      (weekRow tz instances entries monday).completed +
        (weekRow tz instances entries monday).missed = 0) ∧
    ∀ rate ∈ (weekRow tz instances entries monday).completionRate,
      rate = ((weekRow tz instances entries monday).completed : ℚ) /
        ((weekRow tz instances entries monday).completed +
          (weekRow tz instances entries monday).missed) ∧ 0 ≤ rate ∧ rate ≤ 1 := by
  unfold weekRow
  dsimp only
  split
  · rename_i empty
    simp [empty]
  · rename_i some_
    refine ⟨⟨fun none_ => (Option.some_ne_none _ none_).elim, fun empty => (some_ empty).elim⟩,
      ?_⟩
    intro rate shown
    cases shown
    have completed : (0 : ℚ) ≤ settledIn tz .complete instances monday := Nat.cast_nonneg _
    have missed : (0 : ℚ) ≤ settledIn tz .missed instances monday := Nat.cast_nonneg _
    have total := add_nonneg completed missed
    exact ⟨rfl, div_nonneg completed total,
      div_le_one_of_le₀ (le_add_of_nonneg_right missed) total⟩

theorem weekRow_perm (rows : instances.Perm shuffled) (entriesToo : entries.Perm reordered)
    (monday : Date) :
    weekRow tz instances entries monday = weekRow tz shuffled reordered monday := by
  have settled (status : TaskStatus) :
      settledIn tz status instances monday = settledIn tz status shuffled monday :=
    rows.countP_eq _
  have excused : excusesIn tz instances monday = excusesIn tz shuffled monday :=
    rows.countP_eq _
  have earned : pointsIn tz entries monday = pointsIn tz reordered monday :=
    ((entriesToo.filter _).map _).sum_eq
  unfold weekRow
  rw [settled, settled, excused, earned]

theorem counts_weekRow_append (more : List TaskInstance) (moreEntries : List LedgerEntry)
    (monday : Date) :
    counts (weekRow tz (instances ++ more) (entries ++ moreEntries) monday) =
      counts (weekRow tz instances entries monday) +
        counts (weekRow tz more moreEntries monday) := by
  unfold counts weekRow settledIn excusesIn pointsIn
  simp only [List.countP_append, List.filter_append, List.map_append, List.sum_append,
    Prod.mk_add_mk]

theorem weekly_report_counts (tz : TzInfo) (instances : List TaskInstance)
    (entries : List LedgerEntry) (numWeeks : Nat) (monday_ : rangeStart.weekday = 0) :
    buildWeeklyReport instances entries rangeStart numWeeks tz =
        ((List.range numWeeks).map fun k : Nat =>
          weekRow tz instances entries (rangeStart.addDays (7 * k))) ∧
      (∀ row ∈ buildWeeklyReport instances entries rangeStart numWeeks tz,
        (row.completionRate = none ↔ row.completed + row.missed = 0) ∧
          ∀ rate ∈ row.completionRate,
            rate = (row.completed : ℚ) / (row.completed + row.missed) ∧ 0 ≤ rate ∧ rate ≤ 1) ∧
      (∀ shuffled reordered, instances.Perm shuffled → entries.Perm reordered →
        buildWeeklyReport shuffled reordered rangeStart numWeeks tz =
          buildWeeklyReport instances entries rangeStart numWeeks tz) ∧
      ∀ more moreEntries,
        (buildWeeklyReport (instances ++ more) (entries ++ moreEntries)
            rangeStart numWeeks tz).map counts =
          List.zipWith (· + ·)
            ((buildWeeklyReport instances entries rangeStart numWeeks tz).map counts)
            ((buildWeeklyReport more moreEntries rangeStart numWeeks tz).map counts) := by
  refine ⟨buildWeeklyReport_eq monday_, ?_, ?_, ?_⟩
  · intro row shown
    rw [buildWeeklyReport_eq monday_, List.mem_map] at shown
    obtain ⟨k, _, same⟩ := shown
    subst same
    exact weekRow_rate _
  · intro shuffled reordered rows entriesToo
    rw [buildWeeklyReport_eq monday_, buildWeeklyReport_eq monday_]
    apply List.map_congr_left
    intro k _
    exact (weekRow_perm rows entriesToo _).symm
  · intro more moreEntries
    rw [buildWeeklyReport_eq monday_, buildWeeklyReport_eq monday_,
      buildWeeklyReport_eq monday_, List.map_map, List.map_map, List.map_map,
      List.zipWith_map, List.zipWith_self]
    apply List.map_congr_left
    intro k _
    exact counts_weekRow_append _ _ _

/-- One completed in the first week, and one missed there with an excuse sent a week later. -/
def weekChores : List TaskInstance :=
  [{ sampleTask with status := .complete, dueAt := naiveAt ⟨739684⟩ 15 0 },
    { sampleTask with
      status := .missed
      dueAt := naiveAt ⟨739685⟩ 15 0
      excuseSubmittedAt := some (naiveAt ⟨739692⟩ 9 0) }]

theorem weekly_report_counts_march :
    (buildWeeklyReport weekChores [] ⟨739684⟩ 2 TzInfo.newYork).map counts =
        [(1, 1, 0, 0), (0, 0, 1, 0)] ∧
      buildWeeklyReport weekChores.reverse [] ⟨739684⟩ 2 TzInfo.newYork =
        buildWeeklyReport weekChores [] ⟨739684⟩ 2 TzInfo.newYork := by
  have monday_ : Date.weekday ⟨739684⟩ = 0 := by decide
  have report := weekly_report_counts TzInfo.newYork weekChores [] 2 monday_
  constructor
  · rw [report.1]
    decide
  · exact report.2.2.1 _ _ (List.reverse_perm _).symm (List.Perm.refl _)

end KidsChores.Properties
