import KidsChores.Routers.Reports
import KidsChores.Server

/-!
# The site

The server with the savings goals: every request a signed-in member can make to the
household, definitions, series, tasks, approvals, wallet and reports routers, with its
reply.
-/

set_option autoImplicit false

namespace KidsChores.Site

open KidsChores.Api
open KidsChores.Library.PyDatetime
open KidsChores.Models
open KidsChores.Routers
open KidsChores.Routers.Approvals
open KidsChores.Routers.Definitions
open KidsChores.Routers.Household
open KidsChores.Routers.Listings
open KidsChores.Routers.Reports
open KidsChores.Routers.SavingsGoals
open KidsChores.Routers.Series
open KidsChores.Routers.Tasks
open KidsChores.Routers.Wallet
open KidsChores.Server
open KidsChores.Services.Ledger

structure SiteState where
  server : ServerState
  goals : Goals := Library.Table.empty

def SiteState.db (site : SiteState) : Database := site.server.world.db

inductive HouseholdRequest where
  | getHousehold (memberId : Uuid)
  | updateHousehold (request : UpdateHousehold)
  | listMembers (request : ListRows)
  | createTeenProfile (request : CreateTeenProfile)
  | generateLinkCode (request : GenerateLinkCode)
  | verifyMemberPin (request : VerifyMemberPin)
  | removeMember (request : RemoveMember)
  | getTodayTasks (request : TodayTasks)
  | getWeekTasks (request : WeekTasks)
  | completeTask (request : TaskRequest) (note : Option String)
  | excuseTask (request : TaskRequest) (excuseText : String)
  | reviewTask (request : TaskRequest) (approve : Bool) (comment : Option String)
  | cancelTask (request : TaskRequest) (reason : Option String)
  | listDefinitions (request : ListRows)
  | createDefinition (request : CreateDefinition)
  | updateDefinition (request : UpdateDefinition)
  | archiveDefinition (request : ArchiveDefinition)
  | listSeries (request : ListRows)
  | createSeries (request : CreateSeries)
  | updateSeries (request : UpdateSeries)
  | listSeriesInstances (request : ListSeriesInstances)
  | archiveSeries (request : ArchiveSeries)
  | listClaims (request : ListClaims)
  | getWallet (request : GetWallet)
  | getLedger (request : GetLedger)
  | manualAdjust (request : ManualAdjust)
  | submitClaim (request : SubmitClaim)
  | resolveClaim (request : ResolveClaim)
  | createSavingsGoal (request : CreateSavingsGoal)
  | getApprovalInbox (memberId : Uuid)
  | bulkApprove (request : BulkApproveRequest)
  | getReport (request : GetReport)

/-- The `sub` of the request's token. -/
def HouseholdRequest.memberId : HouseholdRequest → Uuid
  | .getHousehold memberId => memberId
  | .updateHousehold request => request.memberId
  | .listMembers request => request.memberId
  | .createTeenProfile request => request.memberId
  | .generateLinkCode request => request.memberId
  | .verifyMemberPin request => request.memberId
  | .removeMember request => request.memberId
  | .getTodayTasks request => request.memberId
  | .getWeekTasks request => request.memberId
  | .completeTask request _ => request.memberId
  | .excuseTask request _ => request.memberId
  | .reviewTask request _ _ => request.memberId
  | .cancelTask request _ => request.memberId
  | .listDefinitions request => request.memberId
  | .createDefinition request => request.memberId
  | .updateDefinition request => request.memberId
  | .archiveDefinition request => request.memberId
  | .listSeries request => request.memberId
  | .createSeries request => request.memberId
  | .updateSeries request => request.memberId
  | .listSeriesInstances request => request.memberId
  | .archiveSeries request => request.memberId
  | .listClaims request => request.memberId
  | .getWallet request => request.memberId
  | .getLedger request => request.memberId
  | .manualAdjust request => request.memberId
  | .submitClaim request => request.memberId
  | .resolveClaim request => request.memberId
  | .createSavingsGoal request => request.memberId
  | .getApprovalInbox memberId => memberId
  | .bulkApprove request => request.memberId
  | .getReport request => request.memberId

/-! ## Replies -/

inductive Body where
  | household (household : HouseholdResponse)
  | member (member : MemberResponse)
  | members (members : List MemberResponse)
  | linkCode (code : String) (expiresAt : Instant)
  | pin (response : VerifyPinResponse)
  | tasks (tasks : List TaskInstanceResponse)
  | idempotent (response : Response)
  | definition (definition : TaskDefinitionResponse)
  | definitions (definitions : List TaskDefinitionResponse)
  | series (series : SeriesResponse)
  | seriesList (series : List SeriesResponse)
  | seriesInstances (seriesInstances : List SeriesInstanceResponse)
  | claim (claim : ClaimResponse)
  | claims (claims : List ClaimResponse)
  | wallet (wallet : WalletResponse)
  | ledgerEntry (entry : LedgerEntryResponse)
  | ledgerEntries (entries : List LedgerEntryResponse)
  | savingsGoal (goal : SavingsGoal)
  | inbox (items : List ApprovalItem)
  | report (report : ReportResponse)
  | empty
  deriving DecidableEq

inductive Reply where
  | success (statusCode : Nat) (body : Body)
  | failure (statusCode : Nat) (detail : String)
  deriving DecidableEq

/-- An exception that is not an `HTTPException` is a 500. -/
def failureOf : RequestError → Reply
  | .http statusCode detail => .failure statusCode detail
  | _ => .failure 500 "Internal Server Error"

def replyOf (statusCode : Nat) (result : Except RequestError Body) : Reply :=
  match result with
  | .error raised => failureOf raised
  | .ok body => .success statusCode body

/-! ## The bodies of the requests that write -/

/-- `setattr` for every field that is not `None`. -/
def assignHousehold (body : HouseholdUpdate) (household : Models.Household) :
    Models.Household :=
  { household with
    name := body.name.getD household.name
    timezone := body.timezone.getD household.timezone
    pointsLabel := body.pointsLabel.getD household.pointsLabel
    excusedPayoutPolicy := body.excusedPayoutPolicy.getD household.excusedPayoutPolicy
    gracePeriodHours := body.gracePeriodHours.getD household.gracePeriodHours
    taskReminderMinutesBeforeDue :=
      body.taskReminderMinutesBeforeDue.getD household.taskReminderMinutesBeforeDue }

def assignDefinition (body : TaskDefinitionUpdate) (definition : TaskDefinition) :
    TaskDefinition :=
  { definition with
    title := body.title.getD definition.title
    description := body.description.or definition.description
    pointValue := body.pointValue.getD definition.pointValue
    scheduleType := body.scheduleType.getD definition.scheduleType
    weekdayMask := body.weekdayMask.or definition.weekdayMask
    endDate := body.endDate.or definition.endDate
    dueTime := body.dueTime.getD definition.dueTime
    requiresReview := body.requiresReview.getD definition.requiresReview }

def assignSeries (body : SeriesUpdate) (series : Models.Series) : Models.Series :=
  { series with
    name := body.name.getD series.name
    bonusPoints := body.bonusPoints.getD series.bonusPoints
    payoutMode := body.payoutMode.getD series.payoutMode
    windowType := body.windowType.getD series.windowType }

def updatedHousehold (request : UpdateHousehold) (db : Database) :
    Except RequestError Body := do
  let (_, household) ← loadParent db request.memberId
  return .household (.of (assignHousehold request.body household))

def createdTeen (request : CreateTeenProfile) (db : Database) :
    Except RequestError Body := do
  let (_, household) ← loadParent db request.memberId
  return .member (.of (request.body.teen request.hashPin household db.members.freshKey))

def createdDefinition (request : CreateDefinition) (db : Database) :
    Except RequestError Body := do
  let (parent, household) ← loadParent db request.memberId
  return .definition (.of
    (request.body.definition household parent db.definitions.freshKey))

def updatedDefinition (request : UpdateDefinition) (db : Database) :
    Except RequestError Body := do
  let (_, household) ← loadParent db request.memberId
  let definition ← getOr404 db household request.definitionId
  return .definition (.of (assignDefinition request.body definition))

def createdSeries (request : CreateSeries) (db : Database) : Except RequestError Body := do
  let (_, household) ← loadParent db request.memberId
  return .series (.of (request.body.series household db.series.freshKey))

def updatedSeries (request : UpdateSeries) (db : Database) : Except RequestError Body := do
  let (_, household) ← loadParent db request.memberId
  let series ← getSeriesOr404 db household request.seriesId
  return .series (.of (assignSeries request.body series))

def adjustment (request : ManualAdjust) (db : Database) : Except RequestError Body := do
  let (parent, _) ← loadParent db request.memberId
  let posting := manualAdjustmentPosting request.targetId request.body.delta
    request.body.reason parent
  return .ledgerEntry (.of (posting.entry (currentBalance db.ledger request.targetId)
    request.clock.transaction))

def submittedClaim (request : SubmitClaim) (db : Database) : Except RequestError Body := do
  let member ← getCurrentMember db request.memberId
  return .claim (toClaimResponse (request.body.claim member db.claims.freshKey)
    member.displayName)

def resolvedClaim (request : ResolveClaim) (db : Database) : Except RequestError Body := do
  let (parent, household) ← loadParent db request.memberId
  match findClaim? db household request.claimId, (findClaim? db household
      request.claimId).bind fun claim => db.members.find? claim.memberId with
  | some claim, some member => do
      let (resolved, _) ← ofService
        (Wallet.resolveClaim request.clock parent request.body claim db.ledger)
      return .claim (toClaimResponse resolved member.displayName)
  | _, _ => .error (.http 404 "Claim not found.")

/-! ## A request -/

/-- A request that changes nothing. -/
def SiteState.read (site : SiteState) (result : Except RequestError Body) :
    SiteState × Reply :=
  (site, replyOf 200 result)

/-- A request in one transaction: its changes are committed with its reply, or neither
is there. -/
def SiteState.write (site : SiteState) (statusCode : Nat)
    (result : Except RequestError Database) (body : Except RequestError Body) :
    SiteState × Reply :=
  ({ site with server := { site.server with world := commit site.server.world result } },
    replyOf statusCode (result.bind fun _ => body))

/-- A request under an idempotency key. -/
def SiteState.idempotent (site : SiteState)
    (outcome : World × Except RequestError Response) : SiteState × Reply :=
  ({ site with server := { site.server with world := outcome.1 } },
    replyOf 200 (outcome.2.map .idempotent))

variable (pytz : String → Option TzInfo)

def respond (site : SiteState) : HouseholdRequest → SiteState × Reply
  | .getHousehold memberId => site.read ((getHousehold memberId site.db).map .household)
  | .updateHousehold request =>
      site.write 200 (updateHousehold request site.db) (updatedHousehold request site.db)
  | .listMembers request => site.read ((listMembers request site.db).map .members)
  | .createTeenProfile request =>
      site.write 201 (createTeenProfile request site.db) (createdTeen request site.db)
  | .generateLinkCode request =>
      let (answer, links) := generateLinkCode request site.db site.server.redis.links
      ({ site with server := { site.server with
          redis := { site.server.redis with links := links } } },
        replyOf 200 (answer.map fun code => .linkCode code.1 code.2))
  | .verifyMemberPin request =>
      let (answer, counted) := verifyMemberPin request site.db site.server.redis.counters
      ({ site with server := { site.server with
          redis := { site.server.redis with counters := counted } } },
        replyOf 200 (answer.map .pin))
  | .removeMember request => site.write 204 (removeMember request site.db) (.ok .empty)
  | .getTodayTasks request => site.read ((getTodayTasks pytz request site.db).map .tasks)
  | .getWeekTasks request => site.read ((getWeekTasks pytz request site.db).map .tasks)
  | .completeTask request note => site.idempotent (completeTask request note site.server.world)
  | .excuseTask request excuseText =>
      site.idempotent (excuseTask request excuseText site.server.world)
  | .reviewTask request approve comment =>
      site.idempotent (reviewTask request approve comment site.server.world)
  | .cancelTask request reason =>
      site.idempotent (cancelTask request reason site.server.world)
  | .listDefinitions request =>
      site.read ((listDefinitions request site.db).map .definitions)
  | .createDefinition request =>
      site.write 201 (createDefinition pytz request site.db)
        (createdDefinition request site.db)
  | .updateDefinition request =>
      site.write 200 (updateDefinition request site.db) (updatedDefinition request site.db)
  | .archiveDefinition request =>
      site.write 204 (archiveDefinition request site.db) (.ok .empty)
  | .listSeries request => site.read ((listSeries request site.db).map .seriesList)
  | .createSeries request =>
      site.write 201 (createSeries pytz request site.db) (createdSeries request site.db)
  | .updateSeries request =>
      site.write 200 (updateSeries request site.db) (updatedSeries request site.db)
  | .listSeriesInstances request =>
      site.read ((listSeriesInstances request site.db).map .seriesInstances)
  | .archiveSeries request => site.write 204 (archiveSeries request site.db) (.ok .empty)
  | .listClaims request => site.read ((listClaims request site.db).map .claims)
  | .getWallet request => site.read ((getWallet request site.db site.goals).map .wallet)
  | .getLedger request => site.read ((getLedger request site.db).map .ledgerEntries)
  | .manualAdjust request =>
      site.write 200 (manualAdjust request site.db) (adjustment request site.db)
  | .submitClaim request =>
      site.write 201 (submitClaim request site.db) (submittedClaim request site.db)
  | .resolveClaim request =>
      site.write 200 (resolveStoredClaim request site.db) (resolvedClaim request site.db)
  | .createSavingsGoal request =>
      let result := createSavingsGoal request site.db site.goals
      ({ site with goals := (result.map Prod.snd).toOption.getD site.goals },
        replyOf 201 (result.map fun created => .savingsGoal created.1))
  | .getApprovalInbox memberId =>
      (site, match getApprovalInbox memberId site.db with
        | .error raised => failureOf raised
        | .ok none => .failure 500 "Internal Server Error"
        | .ok (some items) => .success 200 (.inbox items))
  | .bulkApprove request => site.idempotent (bulkApprove request site.server.world)
  | .getReport request => site.read ((getReport pytz request site.db).map .report)

/-! ## When the session ends -/

/-- `get_db` commits after its `yield`.  FastAPI closes the dependency before the response
is sent or after it, by version. -/
inductive SessionEnd where
  | beforeReply
  | afterReply
  deriving DecidableEq

/-- The changes a handler leaves to the commit, without a flush of its own, and the
response it has built by then.  Requests under an idempotency key are not among them. -/
def lateWrite? (db : Database) :
    HouseholdRequest → Option (Except RequestError Database × Except RequestError Body)
  | .updateHousehold request => some (updateHousehold request db, updatedHousehold request db)
  | .updateDefinition request =>
      some (updateDefinition request db, updatedDefinition request db)
  | .updateSeries request => some (updateSeries request db, updatedSeries request db)
  | .resolveClaim request => some (resolveStoredClaim request db, resolvedClaim request db)
  | _ => none

/-- A commit that fails after the reply takes nothing back from it. -/
def respondEnding (ending : SessionEnd) (site : SiteState) (request : HouseholdRequest) :
    SiteState × Reply :=
  match ending, lateWrite? site.db request with
  | .afterReply, some (_, body) => ((respond pytz site request).1, replyOf 200 body)
  | _, _ => respond pytz site request

inductive SiteEvent where
  | request (request : HouseholdRequest)
  | server (event : ServerEvent)

/-- A request of a member, or any other event on the server. -/
def siteStep (verifyPassword : String → String → Bool) (site : SiteState) :
    SiteEvent → SiteState
  | .request request => (respond pytz site request).1
  | .server event => { site with server := serverStep pytz verifyPassword site.server event }

/-! ## The server's part -/

/-- The server event of a request that writes anything but savings goals. -/
def HouseholdRequest.event? : HouseholdRequest → Option ServerEvent
  | .updateHousehold request => some (.api (.updateHousehold request))
  | .createTeenProfile request => some (.api (.createTeenProfile request))
  | .generateLinkCode request => some (.generateLinkCode request)
  | .verifyMemberPin request => some (.verifyMemberPin request)
  | .removeMember request => some (.api (.removeMember request))
  | .completeTask request note => some (.api (.completeTask request note))
  | .excuseTask request excuseText => some (.api (.excuseTask request excuseText))
  | .reviewTask request approve comment => some (.api (.reviewTask request approve comment))
  | .cancelTask request reason => some (.api (.cancelTask request reason))
  | .createDefinition request => some (.api (.createDefinition request))
  | .updateDefinition request => some (.api (.updateDefinition request))
  | .archiveDefinition request => some (.api (.archiveDefinition request))
  | .createSeries request => some (.api (.createSeries request))
  | .updateSeries request => some (.api (.updateSeries request))
  | .archiveSeries request => some (.api (.archiveSeries request))
  | .manualAdjust request => some (.api (.manualAdjust request))
  | .submitClaim request => some (.api (.submitClaim request))
  | .resolveClaim request => some (.api (.resolveClaim request))
  | .bulkApprove request => some (.api (.bulkApprove request))
  | _ => none

/-- On the server a request is its event. -/
theorem respond_server (verifyPassword : String → String → Bool) (site : SiteState)
    (request : HouseholdRequest) :
    (respond pytz site request).1.server =
      (request.event?.map (serverStep pytz verifyPassword site.server)).getD site.server := by
  cases request <;> rfl

end KidsChores.Site
