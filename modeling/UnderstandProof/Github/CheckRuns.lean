import UnderstandProof.Db.GithubChecks
import UnderstandProof.Github.GitTreeMetadata
import UnderstandProof.Github.PullRequestRevisions

/-!
# Check runs

The adapter finds a run of a revision among the runs of its head, or reads the one it is given,
reads where the pull request is, and then updates that run or creates one. A read is tried again as
its policy allows, a write never: an outcome that is not known is reported as ambiguous.
-/

open Foundation
open Foundation.JsValue (get natural array text oneOf nullable)

namespace UnderstandProof

namespace Github

open Db (CheckStatus CheckConclusion)

/-! ## Schemas -/

inductive RemoteCheckStatus where
  | queued
  | inProgress
  | completed
  | waiting
  | requested
  | pending
  deriving DecidableEq, Repr

def RemoteCheckStatus.text : RemoteCheckStatus → JsString
  | queued => js "queued"
  | inProgress => js "in_progress"
  | completed => js "completed"
  | waiting => js "waiting"
  | requested => js "requested"
  | pending => js "pending"

def RemoteCheckStatus.all : List RemoteCheckStatus :=
  [queued, inProgress, completed, waiting, requested, pending]

inductive RemoteCheckConclusion where
  | actionRequired
  | cancelled
  | failure
  | neutral
  | success
  | skipped
  | stale
  | timedOut
  deriving DecidableEq, Repr

def RemoteCheckConclusion.text : RemoteCheckConclusion → JsString
  | actionRequired => js "action_required"
  | cancelled => js "cancelled"
  | failure => js "failure"
  | neutral => js "neutral"
  | success => js "success"
  | skipped => js "skipped"
  | stale => js "stale"
  | timedOut => js "timed_out"

def RemoteCheckConclusion.all : List RemoteCheckConclusion :=
  [actionRequired, cancelled, failure, neutral, success, skipped, stale, timedOut]

structure UpstreamCheckRun where
  id : ℕ
  name : JsString
  headSha : JsString
  externalId : Option JsString
  status : RemoteCheckStatus
  conclusion : Option RemoteCheckConclusion
  deriving DecidableEq, Repr

def readUpstreamCheckRun (value : JsValue) : Option UpstreamCheckRun := do
  let fields ← looseFields value
  let id ← natural 1 maxSafeInteger (get (js "id") fields)
  let name ← text (fun _ => true) (get (js "name") fields)
  let headSha ← text isGitSha (get (js "head_sha") fields)
  let externalId ← nullable (text fun _ => true) (get (js "external_id") fields)
  let status ← oneOf RemoteCheckStatus.all RemoteCheckStatus.text (get (js "status") fields)
  let conclusion ← nullable (oneOf RemoteCheckConclusion.all RemoteCheckConclusion.text)
    (get (js "conclusion") fields)
  return ⟨id, name, headSha, externalId, status, conclusion⟩

structure UpstreamCheckRunList where
  totalCount : ℕ
  checkRuns : List UpstreamCheckRun
  deriving DecidableEq, Repr

def readUpstreamCheckRunList (value : JsValue) : Option UpstreamCheckRunList := do
  let fields ← looseFields value
  let totalCount ← natural 0 maxSafeInteger (get (js "total_count") fields)
  let checkRuns ← array 0 100 readUpstreamCheckRun (get (js "check_runs") fields)
  return ⟨totalCount, checkRuns⟩

def maxExistingCheckRuns : ℕ := 300

/-! ## Intents -/

/-- What of a check intent is compared or sent; a conclusion stands for completion. -/
structure CheckIntentInput where
  installationId : JsString
  repositoryId : JsString
  owner : JsString
  repositoryName : JsString
  revisionId : JsString
  pullNumber : ℕ
  headSha : JsString
  baseSha : JsString
  expectedPullRequestState : PullRequestState
  status : CheckStatus
  conclusion : Option CheckConclusion
  summary : JsString
  detailsUrl : JsString
  completed_iff : status = .completed ↔ conclusion.isSome = true
  deriving DecidableEq

structure GithubCurrentHead where
  headSha : JsString
  baseSha : JsString
  state : PullRequestState
  deriving DecidableEq, Repr

/-- What a write sends beside the run that it goes to. -/
structure CheckRunRequest where
  owner : JsString
  repositoryName : JsString
  name : JsString
  detailsUrl : JsString
  externalId : JsString
  status : CheckStatus
  conclusion : Option CheckConclusion
  summary : JsString
  deriving DecidableEq, Repr

inductive CheckCall where
  | createCheckRun (headSha : JsString) (request : CheckRunRequest)
  | updateCheckRun (checkRunId : ℕ) (request : CheckRunRequest)
  | getCheckRun (owner repositoryName : JsString) (checkRunId : ℕ)
  | listCheckRunsForRef (owner repositoryName headSha checkName : JsString) (page perPage : ℕ)
  deriving DecidableEq, Repr

def checkRequest (input : CheckIntentInput) : CheckRunRequest :=
  ⟨input.owner, input.repositoryName, githubCheckName, input.detailsUrl, input.revisionId,
    input.status, input.conclusion, input.summary⟩

/-! ## Remote checks -/

structure RemoteCheck where
  checkRunId : JsString
  status : RemoteCheckStatus
  conclusion : Option RemoteCheckConclusion
  deriving DecidableEq, Repr

/-- A run under its identifier as a text. -/
def UpstreamCheckRun.toRemote (run : UpstreamCheckRun) : Option RemoteCheck :=
  (decimalId run.id).map fun checkRunId => ⟨checkRunId, run.status, run.conclusion⟩

def parseRemoteCheck (value : JsValue) (input : CheckIntentInput)
    (expectedCheckRunId : Option JsString) : Option RemoteCheck := do
  let run ← readUpstreamCheckRun value
  if run.name ≠ githubCheckName ∨ run.headSha ≠ input.headSha ∨
      run.externalId ≠ some input.revisionId ∨
      (∃ checkRunId ∈ expectedCheckRunId, JsString.decimal run.id ≠ checkRunId) then none
  else run.toRemote

/-- Whether a run of a page is one of the revision. -/
def UpstreamCheckRun.isOf (input : CheckIntentInput) (run : UpstreamCheckRun) : Bool :=
  run.name == githubCheckName && run.externalId == some input.revisionId

def canReuseRemoteCheck (remote : RemoteCheck) (intent : CheckIntentInput) : Bool :=
  intent.status = .completed || remote.status != .completed

def shouldCreateSupersedingCheck (remote : RemoteCheck) (intent : CheckIntentInput) : Bool :=
  intent.status ≠ .completed && remote.status == .completed

def remoteMatchesIntent (remote : RemoteCheck) (intent : CheckIntentInput) : Bool :=
  if intent.status ≠ .completed then remote.status != .completed && remote.conclusion.isNone
  else remote.status == .completed &&
    remote.conclusion.map RemoteCheckConclusion.text == intent.conclusion.map CheckConclusion.text

/-- The later of two checks, and the first of two with one number. -/
def later (latest current : RemoteCheck) : RemoteCheck :=
  if digitsValue latest.checkRunId < digitsValue current.checkRunId then current else latest

def selectReusableRemote (found : List RemoteCheck) (intent : CheckIntentInput) :
    Option RemoteCheck :=
  let open' := found.filter fun remote => remote.status != .completed
  let pool := if intent.status = .completed ∧ open' = [] then found else open'
  match pool with
  | [] => none
  | first :: rest => some (rest.foldl later first)

/-! ## The adapter -/

/-- What the adapter has done: a reading of the head, or a call with the events of its request and
what the request returned or threw. -/
inductive Exchange where
  | head (current : Except (Option GithubControlError) GithubCurrentHead)
  | call (call : CheckCall) (events : List (RequestEvent CheckCall))
      (result : Except GithubControlError JsValue)

structure CheckSession where
  cursor : Cursor
  exchanges : List Exchange
  tokenInvalidated : Bool

/-- What surrounds the adapter: the requests, whether a client is at hand, and what the port of the
head answers; errors of its own are named, others are not. -/
structure CheckWorld where
  requests : World CheckCall
  client : Except (Option GithubControlError) Unit
  currentHead : Except (Option GithubControlError) GithubCurrentHead

abbrev Checking (α : Type) := Stateful GithubControlError CheckSession α

def throwCheck {α : Type} (code : GithubControlErrorCode) : Checking α :=
  Stateful.lift (.error (.plain code))

def orInvalidCheck {α : Type} (read : Option α) : Checking α :=
  match read with
  | some a => pure a
  | none => throwCheck .invalidResponse

/-- `throw error`, or `UNAVAILABLE` for an error that is not the adapter's own. -/
def orUnavailable {α : Type} (result : Except (Option GithubControlError) α) : Checking α :=
  Stateful.lift (result.mapError fun error => error.getD (.plain .unavailable))

namespace OctokitCheckRunAdapter

variable (world : CheckWorld) (policy : GithubRequestPolicy)

def executeCheck (policy : GithubRequestPolicy) (call : CheckCall) : Checking JsValue :=
  fun session =>
    let run := executeGithubRequest world.requests policy none call session.cursor
    (run.2.1, { session with
      cursor := run.2.2, exchanges := session.exchanges ++ [.call call run.1 run.2.1] })

/-- The error of a write: an outcome that is not known is ambiguous. -/
def writeError (error : GithubControlError) : GithubControlError :=
  if error.code = .timeout ∨ error.code = .unavailable then ⟨.ambiguousWrite, error.status, none⟩
  else error

/-- A write runs once. -/
def executeWrite (call : CheckCall) : Checking JsValue := fun session =>
  let run := (executeCheck world { policy with maxAttempts := some 1 } call).run session
  (run.1.mapError writeError, run.2)

def assertCurrentHead (input : CheckIntentInput) : Checking Unit := do
  let current ← readHead
  if current.headSha ≠ input.headSha ∨ current.baseSha ≠ input.baseSha ∨
      current.state ≠ input.expectedPullRequestState then throwCheck .staleHead
  else pure ()
where
  /-- `getCurrentHead` of the port. -/
  readHead : Checking GithubCurrentHead := fun session =>
    (orUnavailable world.currentHead).run
      { session with exchanges := session.exchanges ++ [.head world.currentHead] }

def writeCreate (input : CheckIntentInput) : Checking JsString := do
  let data ← executeWrite world policy (.createCheckRun input.headSha (checkRequest input))
  let remote ← orInvalidCheck (parseRemoteCheck data input none)
  if remoteMatchesIntent remote input = false then throwCheck .invalidResponse
  else pure remote.checkRunId

def writeUpdate (input : CheckIntentInput) (checkRunId : JsString) : Checking RemoteCheck := do
  let data ← executeWrite world policy
    (.updateCheckRun (digitsValue checkRunId) (checkRequest input))
  orInvalidCheck (parseRemoteCheck data input (some checkRunId))

def applyIntent (input : CheckIntentInput) (existingCheckRunId : Option JsString) :
    Checking JsString :=
  match existingCheckRunId with
  | none => writeCreate world policy input
  | some checkRunId => do
      let updated ← writeUpdate world policy input checkRunId
      if remoteMatchesIntent updated input = true then pure updated.checkRunId
      else if shouldCreateSupersedingCheck updated input = false then throwCheck .invalidResponse
      else writeCreate world policy input

/-- The runs of a page that are the revision's, which must be on its head. -/
def pageMatches (input : CheckIntentInput) (runs : List UpstreamCheckRun) :
    Option (List RemoteCheck) :=
  (runs.filter (UpstreamCheckRun.isOf input)).mapM fun run =>
    if run.headSha ≠ input.headSha then none else run.toRemote

/-- The pages from one on; every page after the first makes some progress towards the total. -/
def listPages (input : CheckIntentInput) (page : ℕ) (expectedTotal : Option ℕ) (seen : ℕ)
    (found : List RemoteCheck) : Checking (List RemoteCheck) := do
  let data ← executeCheck world policy
    (.listCheckRunsForRef input.owner input.repositoryName input.headSha githubCheckName page 100)
  let parsed ← orInvalidCheck (readUpstreamCheckRunList data)
  if _hlimit : maxExistingCheckRuns < parsed.totalCount then throwCheck .limitExceeded
  else if ∃ total ∈ expectedTotal, parsed.totalCount ≠ total then throwCheck .invalidResponse
  else if _hempty : parsed.checkRuns.length = 0 ∧ seen < parsed.totalCount then
    throwCheck .invalidResponse
  else if parsed.totalCount < seen + parsed.checkRuns.length then throwCheck .invalidResponse
  else do
    let found' ← orInvalidCheck (pageMatches input parsed.checkRuns)
    if _hmore : seen + parsed.checkRuns.length < parsed.totalCount then
      listPages input (page + 1) (some parsed.totalCount) (seen + parsed.checkRuns.length)
        (found ++ found')
    else pure (found ++ found')
termination_by maxExistingCheckRuns - seen

def findExistingWithClient (input : CheckIntentInput) : Checking (Option RemoteCheck) := do
  let found ← listPages world policy input 1 none 0 []
  pure (selectReusableRemote found input)

/-- The `catch` of an operation, which gives up a token that was rejected. -/
def invalidateRejectedToken {α : Type} (operation : Checking α) : Checking α := fun session =>
  match operation.run session with
  | (.error error, next) =>
      (.error error,
        if error.code = .rejected ∧ error.status = some 401 then
          { next with tokenInvalidated := true }
        else next)
  | outcome => outcome

def create (input : CheckIntentInput) : Checking JsString := do
  orUnavailable world.client
  invalidateRejectedToken do
    let existing ← findExistingWithClient world policy input
    assertCurrentHead world input
    applyIntent world policy input
      ((existing.filter fun existing => canReuseRemoteCheck existing input).map
        RemoteCheck.checkRunId)

def update (input : CheckIntentInput) (checkRunId : JsString) : Checking JsString := do
  orUnavailable world.client
  invalidateRejectedToken do
    let data ← executeCheck world policy
      (.getCheckRun input.owner input.repositoryName (digitsValue checkRunId))
    let remote ← orInvalidCheck (parseRemoteCheck data input (some checkRunId))
    assertCurrentHead world input
    applyIntent world policy input
      (if canReuseRemoteCheck remote input = true then some checkRunId else none)

end OctokitCheckRunAdapter

end Github

end UnderstandProof
