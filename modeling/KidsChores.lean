import KidsChores.Api
import KidsChores.Auth.Tokens
import KidsChores.Interleaving
import KidsChores.Library.Alike
import KidsChores.Library.Anniversaries
import KidsChores.Library.Batch
import KidsChores.Library.Calendar
import KidsChores.Library.Counters
import KidsChores.Library.Expiring
import KidsChores.Library.Groups
import KidsChores.Library.LocalMidnights
import KidsChores.Library.MarkedOnce
import KidsChores.Library.OrderBy
import KidsChores.Library.Pagination
import KidsChores.Library.Places
import KidsChores.Library.PyDatetime
import KidsChores.Library.PyText
import KidsChores.Library.ReadCommitted
import KidsChores.Library.Refinement
import KidsChores.Library.Results
import KidsChores.Library.RunningTotal
import KidsChores.Library.Runs
import KidsChores.Library.Slices
import KidsChores.Library.SlidingHorizon
import KidsChores.Library.Spans
import KidsChores.Library.Table
import KidsChores.Library.Tenancy
import KidsChores.Library.TwoRuns
import KidsChores.Library.Weekdays
import KidsChores.Lifecycle
import KidsChores.Models
import KidsChores.Planning
import KidsChores.Properties.Accounts
import KidsChores.Properties.AgeGate
import KidsChores.Properties.ApprovalInbox
import KidsChores.Properties.AtMostOnce
import KidsChores.Properties.AttemptLimits
import KidsChores.Properties.AttemptSpans
import KidsChores.Properties.BatchItems
import KidsChores.Properties.BulkReview
import KidsChores.Properties.CachedResponses
import KidsChores.Properties.ChoreCards
import KidsChores.Properties.ClaimDebits
import KidsChores.Properties.ClockPauses
import KidsChores.Properties.DailyOccurrence
import KidsChores.Properties.DueReminders
import KidsChores.Properties.EditedDefinitions
import KidsChores.Properties.ExcuseDenial
import KidsChores.Properties.ExcuseHistory
import KidsChores.Properties.ExcuseNotices
import KidsChores.Properties.ExpiredWindows
import KidsChores.Properties.FiledRows
import KidsChores.Properties.GaplessGeneration
import KidsChores.Properties.GraceClock
import KidsChores.Properties.HeadedHouseholds
import KidsChores.Properties.HouseholdCalls
import KidsChores.Properties.HouseholdLeaks
import KidsChores.Properties.HouseholdListings
import KidsChores.Properties.HouseholdReplies
import KidsChores.Properties.HouseholdRequests
import KidsChores.Properties.HouseholdSites
import KidsChores.Properties.HouseholdViews
import KidsChores.Properties.HouseholdWrites
import KidsChores.Properties.InboxCleared
import KidsChores.Properties.LastingRecords
import KidsChores.Properties.LedgerAgreement
import KidsChores.Properties.LedgerAnswers
import KidsChores.Properties.LedgerCalls
import KidsChores.Properties.LedgerPages
import KidsChores.Properties.LedgerProvenance
import KidsChores.Properties.LedgerRange
import KidsChores.Properties.LinkCodes
import KidsChores.Properties.Logins
import KidsChores.Properties.LostBonus
import KidsChores.Properties.NightlyRobustness
import KidsChores.Properties.NoDeadEnds
import KidsChores.Properties.NonInterference
import KidsChores.Properties.NudgeDigest
import KidsChores.Properties.OfferedTransitions
import KidsChores.Properties.ParentDelay
import KidsChores.Properties.PastDue
import KidsChores.Properties.ReadBack
import KidsChores.Properties.Recurrence
import KidsChores.Properties.RefreshRotation
import KidsChores.Properties.RemovedMembers
import KidsChores.Properties.ReportRange
import KidsChores.Properties.ReportTotals
import KidsChores.Properties.RetiredDefinitions
import KidsChores.Properties.ReturningMembers
import KidsChores.Properties.RowRanges
import KidsChores.Properties.RunningBalance
import KidsChores.Properties.SafeRetries
import KidsChores.Properties.SeriesBonus
import KidsChores.Properties.SeriesEvaluation
import KidsChores.Properties.SeriesMembership
import KidsChores.Properties.SeriesPayout
import KidsChores.Properties.SeriesWarnings
import KidsChores.Properties.SeriesWindow
import KidsChores.Properties.ServerWrites
import KidsChores.Properties.ServiceRefusals
import KidsChores.Properties.SettledRows
import KidsChores.Properties.SingleUseLinks
import KidsChores.Properties.StatusEvidence
import KidsChores.Properties.StatusRaces
import KidsChores.Properties.StorableTexts
import KidsChores.Properties.StoredAmounts
import KidsChores.Properties.SweepCompleteness
import KidsChores.Properties.SweepTiming
import KidsChores.Properties.TaskRuns
import KidsChores.Properties.TeenRequests
import KidsChores.Properties.TenantIsolation
import KidsChores.Properties.TodayView
import KidsChores.Properties.TokenKinds
import KidsChores.Properties.TokenRuns
import KidsChores.Properties.WalletEquation
import KidsChores.Properties.WeekViews
import KidsChores.Properties.WeeklyBuckets
import KidsChores.Properties.WindowTiling
import KidsChores.Routers.Approvals
import KidsChores.Routers.Auth
import KidsChores.Routers.CompletionRaces
import KidsChores.Routers.Definitions
import KidsChores.Routers.Household
import KidsChores.Routers.IdempotentRequests
import KidsChores.Routers.LinkRaces
import KidsChores.Routers.Listings
import KidsChores.Routers.Reports
import KidsChores.Routers.Requests
import KidsChores.Routers.Responses
import KidsChores.Routers.SavingsGoals
import KidsChores.Routers.Series
import KidsChores.Routers.Tasks
import KidsChores.Routers.Wallet
import KidsChores.Server
import KidsChores.Services.CallEffect
import KidsChores.Services.CallSuccess
import KidsChores.Services.Idempotency
import KidsChores.Services.IdempotentCalls
import KidsChores.Services.Ledger
import KidsChores.Services.LedgerRequests
import KidsChores.Services.LimiterCalls
import KidsChores.Services.Linking
import KidsChores.Services.Notifications
import KidsChores.Services.RateLimit
import KidsChores.Services.RefreshTokens
import KidsChores.Services.Reports
import KidsChores.Services.SeriesCompletion
import KidsChores.Services.StateMachine
import KidsChores.Session
import KidsChores.Site
import KidsChores.StoredLifecycle
import KidsChores.Workers.GenerateInstances
import KidsChores.Workers.NotifyDigest
import KidsChores.Workers.Reminders
