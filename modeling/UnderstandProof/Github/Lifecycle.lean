import UnderstandProof.Foundation.Table
import UnderstandProof.Domain.Primitives

/-!
# Installations, repositories and the admission gate

The rows of `installations`, `repositories` and `github_app_account_allowlist`, and
what the webhook transactions, the activation part of a pull-request snapshot and the
statements of an operator write to them. A table is keyed by the numeric GitHub id, the
unique column that every statement uses. The tables that a lifecycle event only notifies
(sessions, refresh times and recovery candidates of pull requests) are left out; whether
a recovery candidate was found is an input of the snapshot.
-/

open Foundation

namespace UnderstandProof

namespace Github

open Domain (Timestamp)

inductive GithubLifecycleStatus where
  | active
  | pending
  | suspended
  | removed
  deriving DecidableEq, Repr

inductive AllowlistStatus where
  | active
  | inactive
  deriving DecidableEq, Repr

/-- A row of `installations`, without its key. -/
structure Installation where
  accountId : JsString
  accountLogin : JsString
  installerAccountId : Option JsString
  status : GithubLifecycleStatus
  suspendedAt : Option Timestamp
  removedAt : Option Timestamp
  updatedAt : Timestamp
  deriving DecidableEq

/-- A row of `repositories`, without its key; `installation` is the installation that
`installation_id` refers to. -/
structure Repository where
  installation : JsString
  owner : JsString
  name : JsString
  defaultBranch : Option JsString
  status : GithubLifecycleStatus
  suspendedAt : Option Timestamp
  removedAt : Option Timestamp
  updatedAt : Timestamp
  deriving DecidableEq

structure InstallationBinding where
  githubInstallationId : JsString
  accountId : JsString
  accountLogin : JsString
  senderId : Option JsString
  deriving DecidableEq

structure LifecycleRepository where
  githubRepositoryId : JsString
  owner : JsString
  name : JsString
  defaultBranch : Option JsString
  deriving DecidableEq

inductive InstallationAction where
  | created
  | deleted
  | newPermissionsAccepted
  | suspend
  | unsuspend
  deriving DecidableEq, Repr

inductive RepositorySelection where
  | all
  | selected
  deriving DecidableEq, Repr

structure InstallationEvent where
  action : InstallationAction
  installation : InstallationBinding
  repositorySelection : RepositorySelection
  repositories : List LifecycleRepository
  deriving DecidableEq

inductive InstallationRepositoriesAction where
  | added
  | removed
  deriving DecidableEq, Repr

structure InstallationRepositoriesEvent where
  action : InstallationRepositoriesAction
  installation : InstallationBinding
  repositoriesAdded : List LifecycleRepository
  repositoriesRemoved : List LifecycleRepository
  deriving DecidableEq

inductive PullRequestAction where
  | opened
  | reopened
  | readyForReview
  | synchronize
  | closed
  deriving DecidableEq, Repr

inductive PullRequestState where
  | open
  | closed
  deriving DecidableEq, Repr

structure PullRequestInstallation where
  githubInstallationId : JsString
  accountId : JsString
  accountLogin : JsString
  deriving DecidableEq

structure PullRequestRepository where
  githubRepositoryId : JsString
  owner : JsString
  name : JsString
  defaultBranch : JsString
  deriving DecidableEq

structure PullRequestSnapshot where
  githubPullRequestId : JsString
  number : ℕ
  state : PullRequestState
  authorId : JsString
  headSha : JsString
  baseSha : JsString
  deriving DecidableEq

/-- The sanitized payload of a pull-request job. -/
structure PullRequestPayload where
  action : PullRequestAction
  installation : PullRequestInstallation
  repository : PullRequestRepository
  pullRequest : PullRequestSnapshot
  deriving DecidableEq

/-- The tables behind the gate and the pull-request jobs that were enqueued. -/
structure GithubDatabase where
  installations : Table JsString Installation
  repositories : Table JsString Repository
  githubAppAccountAllowlist : Table JsString AllowlistStatus
  jobs : List PullRequestPayload

namespace GithubDatabase

/-- The empty database. -/
def empty : GithubDatabase where
  installations := fun _ => none
  repositories := fun _ => none
  githubAppAccountAllowlist := fun _ => none
  jobs := []

end GithubDatabase

/-! ## Webhook transactions -/

def isGithubAccountAllowlisted (db : GithubDatabase) (githubAccountId : JsString) : Bool :=
  db.githubAppAccountAllowlist githubAccountId == some .active

/-- The tenant status that an event resolves: `active` when its account or its sender is
allowlisted, and `pending` otherwise. -/
def resolveGithubAppTenantStatus (db : GithubDatabase) (installation : InstallationBinding) :
    GithubLifecycleStatus :=
  if isGithubAccountAllowlisted db installation.accountId then .active
  else if installation.senderId.any (isGithubAccountAllowlisted db) then .active
  else .pending

structure UpsertOptions where
  allowReactivation : Bool
  allowPendingPromotion : Bool
  installerAccountId : Option JsString

/-- The row that the upsert inserts. -/
def insertedInstallation (now : Timestamp) (installation : InstallationBinding)
    (status : GithubLifecycleStatus) (options : UpsertOptions) : Installation where
  accountId := installation.accountId
  accountLogin := installation.accountLogin
  installerAccountId := options.installerAccountId
  status := status
  suspendedAt := if status = .suspended then some now else none
  removedAt := if status = .removed then some now else none
  updatedAt := now

/-- The row that the upsert puts in the place of `old`, unless its guards reject it. -/
def updatedInstallation (now : Timestamp) (installation : InstallationBinding)
    (status : GithubLifecycleStatus) (options : UpsertOptions) (old : Installation) :
    Option Installation :=
  if (old.status ≠ .removed ∨ status = .removed) ∧
      (status ≠ .active ∨ old.status = .active ∨ options.allowReactivation = true ∨
        (options.allowPendingPromotion = true ∧ old.status = .pending)) then
    some
      { accountId := installation.accountId
        accountLogin := installation.accountLogin
        installerAccountId := old.installerAccountId <|> options.installerAccountId
        status := if status = .pending then old.status else status
        suspendedAt :=
          if status = .pending then old.suspendedAt
          else if status = .suspended then old.suspendedAt <|> some now
          else none
        removedAt :=
          if status = .removed then old.removedAt <|> some now
          else if status = .pending then old.removedAt
          else none
        updatedAt := now }
  else none

/-- Writes the installation of an event, and returns the status of the row written. -/
def upsertInstallation (now : Timestamp) (db : GithubDatabase)
    (installation : InstallationBinding) (status : GithubLifecycleStatus)
    (options : UpsertOptions) : GithubDatabase × Option GithubLifecycleStatus :=
  let written := db.installations.upsert installation.githubInstallationId
    (insertedInstallation now installation status options)
    (updatedInstallation now installation status options)
  ({ db with installations := written.1 }, written.2.map Installation.status)

/-- The row that `ensureInstallationForRepositoryRemoval` puts in the place of `old`. -/
def ensuredInstallation (now : Timestamp) (installation : InstallationBinding)
    (old : Installation) : Option Installation :=
  if old.status ≠ .removed then
    some { old with
      accountId := installation.accountId
      accountLogin := installation.accountLogin
      updatedAt := now }
  else none

def ensureInstallationForRepositoryRemoval (now : Timestamp) (db : GithubDatabase)
    (installation : InstallationBinding) : GithubDatabase × Option GithubLifecycleStatus :=
  let written := db.installations.upsert installation.githubInstallationId
    { accountId := installation.accountId
      accountLogin := installation.accountLogin
      installerAccountId := none
      status := .pending
      suspendedAt := none
      removedAt := none
      updatedAt := now }
    (ensuredInstallation now installation)
  ({ db with installations := written.1 }, written.2.map Installation.status)

/-- `findInstallationId` and `loadInstallationStatus`: the status of the row that is
there. -/
def loadInstallationStatus (db : GithubDatabase) (githubInstallationId : JsString) :
    Option GithubLifecycleStatus :=
  (db.installations githubInstallationId).map Installation.status

/-- A new row is active; an existing one keeps its status, and its installation. -/
def upsertRepository (now : Timestamp) (githubInstallationId : JsString) (db : GithubDatabase)
    (repository : LifecycleRepository) : GithubDatabase :=
  { db with
    repositories := (db.repositories.upsert repository.githubRepositoryId
      { installation := githubInstallationId
        owner := repository.owner
        name := repository.name
        defaultBranch := repository.defaultBranch
        status := .active
        suspendedAt := none
        removedAt := none
        updatedAt := now }
      fun old =>
        if old.installation = githubInstallationId then
          some { old with
            owner := repository.owner
            name := repository.name
            defaultBranch := repository.defaultBranch <|> old.defaultBranch
            updatedAt := now }
        else none).1 }

/-- The row of a repository that an installation has lost. -/
def removeRepository (now : Timestamp) (githubInstallationId : JsString) (db : GithubDatabase)
    (repository : LifecycleRepository) : GithubDatabase :=
  { db with
    repositories := (db.repositories.upsert repository.githubRepositoryId
      { installation := githubInstallationId
        owner := repository.owner
        name := repository.name
        defaultBranch := repository.defaultBranch
        status := .removed
        suspendedAt := none
        removedAt := some now
        updatedAt := now }
      fun old =>
        if old.installation = githubInstallationId then
          some { old with
            owner := repository.owner
            name := repository.name
            defaultBranch := repository.defaultBranch <|> old.defaultBranch
            status := .removed
            suspendedAt := none
            removedAt := old.removedAt <|> some now
            updatedAt := now }
        else none).1 }

/-- The repositories of a deleted installation. -/
def removeRepositories (now : Timestamp) (githubInstallationId : JsString)
    (db : GithubDatabase) : GithubDatabase :=
  { db with
    repositories := db.repositories.updateAll
      (fun _ row => row.installation = githubInstallationId ∧ row.status ≠ .removed)
      fun row => { row with
        status := .removed
        suspendedAt := none
        removedAt := row.removedAt <|> some now
        updatedAt := now } }

/-- The repositories of a suspended installation. -/
def suspendRepositories (now : Timestamp) (githubInstallationId : JsString)
    (db : GithubDatabase) : GithubDatabase :=
  { db with
    repositories := db.repositories.updateAll
      (fun _ row => row.installation = githubInstallationId ∧ row.status = .active)
      fun row => { row with
        status := .suspended
        suspendedAt := row.suspendedAt <|> some now
        removedAt := none
        updatedAt := now } }

/-- The status that an installation event asks for. -/
def desiredStatus (db : GithubDatabase) (event : InstallationEvent) : GithubLifecycleStatus :=
  match event.action with
  | .suspend => .suspended
  | .deleted => .removed
  | _ => resolveGithubAppTenantStatus db event.installation

/-- The options with which an installation event writes its installation. -/
def upsertOptionsFor (db : GithubDatabase) (event : InstallationEvent) : UpsertOptions where
  allowReactivation := false
  allowPendingPromotion := desiredStatus db event = .active ∧ event.action ≠ .unsuspend
  installerAccountId := if event.action = .created then event.installation.senderId else none

def applyInstallationEvent (now : Timestamp) (db : GithubDatabase) (event : InstallationEvent) :
    GithubDatabase :=
  let id := event.installation.githubInstallationId
  let upserted := upsertInstallation now db event.installation (desiredStatus db event)
    (upsertOptionsFor db event)
  let found :=
    if event.action = .unsuspend ∨ event.action = .newPermissionsAccepted then
      loadInstallationStatus upserted.1 id
    else none
  match upserted.2 <|> found with
  | none => upserted.1
  | some installationStatus =>
      match event.action with
      | .deleted => removeRepositories now id upserted.1
      | .suspend => suspendRepositories now id upserted.1
      | _ =>
          if installationStatus = .active ∧ event.repositorySelection = .all then
            event.repositories.foldl (upsertRepository now id) upserted.1
          else upserted.1

def applyInstallationRepositoriesEvent (now : Timestamp) (db : GithubDatabase)
    (event : InstallationRepositoriesEvent) : GithubDatabase :=
  let id := event.installation.githubInstallationId
  let addedTenantStatus :=
    if event.action = .added then resolveGithubAppTenantStatus db event.installation
    else .pending
  let upserted :=
    match event.action with
    | .removed => ensureInstallationForRepositoryRemoval now db event.installation
    | .added => upsertInstallation now db event.installation addedTenantStatus
        { allowReactivation := false
          allowPendingPromotion := addedTenantStatus = GithubLifecycleStatus.active
          installerAccountId := none }
  let found := if event.action = .added then loadInstallationStatus upserted.1 id else none
  match upserted.2 <|> found with
  | none => upserted.1
  | some installationStatus =>
      let added :=
        if installationStatus = .active then
          event.repositoriesAdded.foldl (upsertRepository now id) upserted.1
        else upserted.1
      event.repositoriesRemoved.foldl (removeRepository now id) added

def canEnqueueGithubPullRequest (db : GithubDatabase) (githubInstallationId : JsString) : Bool :=
  (db.installations githubInstallationId).any fun row =>
    row.status = .active ∨ row.status = .suspended

/-- A pull-request webhook publishes its job, or is ignored. -/
def ingestPullRequest (db : GithubDatabase) (payload : PullRequestPayload) : GithubDatabase :=
  if canEnqueueGithubPullRequest db payload.installation.githubInstallationId then
    { db with jobs := db.jobs ++ [payload] }
  else db

/-! ## Activation by a pull-request job -/

structure InstallationFence where
  githubInstallationId : JsString
  status : GithubLifecycleStatus
  version : Timestamp
  deriving DecidableEq

structure RepositoryFence where
  githubRepositoryId : JsString
  githubInstallationId : JsString
  status : GithubLifecycleStatus
  owner : JsString
  name : JsString
  version : Timestamp
  deriving DecidableEq

/-- What a job has read of the lifecycle rows before it reads GitHub. -/
structure AuthorizationFence where
  freshAuthorization : Bool
  installation : Option InstallationFence
  repository : Option RepositoryFence
  deriving DecidableEq

/-- `toLowerCase()` on the ASCII letters of an owner or repository name. -/
def toLowerCase (s : JsString) : JsString :=
  s.map fun c => if 0x41 ≤ c ∧ c ≤ 0x5a then c + 0x20 else c

/-- The fence that the job of a webhook loads. -/
def loadLifecycleAuthorizationFence (db : GithubDatabase) (payload : PullRequestPayload) :
    AuthorizationFence :=
  let installation := db.installations payload.installation.githubInstallationId
  let repository := db.repositories payload.repository.githubRepositoryId
  { freshAuthorization :=
      installation.all (fun row => row.status ≠ .active) ||
        repository.all fun row =>
          row.status ≠ .active ∨
            row.installation ≠ payload.installation.githubInstallationId ∨
            toLowerCase row.owner ≠ toLowerCase payload.repository.owner ∨
            toLowerCase row.name ≠ toLowerCase payload.repository.name
    installation := installation.map fun row =>
      { githubInstallationId := payload.installation.githubInstallationId
        status := row.status
        version := row.updatedAt }
    repository := repository.map fun row =>
      { githubRepositoryId := payload.repository.githubRepositoryId
        githubInstallationId := row.installation
        status := row.status
        owner := row.owner
        name := row.name
        version := row.updatedAt } }

def canAuthorizeGithubInstallationWork (fence : AuthorizationFence) : Bool :=
  fence.installation.any fun row => row.status ≠ .pending ∧ row.status ≠ .removed

def mayReactivateInstallation (fence : AuthorizationFence) : Bool :=
  fence.freshAuthorization && fence.installation.any fun row => row.status = .suspended

def repositoryBindingMoved (fence : AuthorizationFence) (payload : PullRequestPayload) : Bool :=
  fence.repository.any fun row =>
    row.githubInstallationId ≠ payload.installation.githubInstallationId

def mayReactivateRepository (fence : AuthorizationFence) (payload : PullRequestPayload) : Bool :=
  fence.freshAuthorization &&
    fence.repository.any fun row =>
      row.status ≠ .active ∨ repositoryBindingMoved fence payload = true

/-- The row that the activating `UPDATE installations` writes. -/
def activatedInstallation (now : Timestamp) (fence : AuthorizationFence)
    (payload : PullRequestPayload) (old : Installation) : Option Installation :=
  let reactivate := mayReactivateInstallation fence
  if old.status ≠ .removed ∧ old.status ≠ .pending ∧
      ((fence.installation = none ∧ old.status = .active) ∨
        ((fence.installation.any fun row =>
            old.status = row.status ∧ old.updatedAt = row.version) = true ∧
          (old.status = .active ∨ reactivate = true))) then
    some { old with
      accountId := payload.installation.accountId
      accountLogin := payload.installation.accountLogin
      status := if reactivate then .active else old.status
      suspendedAt := if reactivate then none else old.suspendedAt
      updatedAt :=
        if old.accountId ≠ payload.installation.accountId ∨
            old.accountLogin ≠ payload.installation.accountLogin ∨
            (reactivate = true ∧ old.status ≠ .active) then now
        else old.updatedAt }
  else none

/-- The row that the activating upsert of `repositories` puts in the place of `old`. -/
def activatedRepository (now : Timestamp) (fence : AuthorizationFence)
    (payload : PullRequestPayload) (old : Repository) : Option Repository :=
  let reactivate := mayReactivateRepository fence payload
  let target := payload.installation.githubInstallationId
  if (old.status ≠ .removed ∨ reactivate = true) ∧
      ((fence.repository = none ∧ old.status = .active ∧ old.installation = target) ∨
        ((fence.repository.any fun row =>
            old.status = row.status ∧ old.updatedAt = row.version ∧
              old.owner = row.owner ∧ old.name = row.name ∧
              old.installation = row.githubInstallationId) = true ∧
          ((old.status = .active ∧ old.installation = target) ∨ reactivate = true))) then
    some
      { installation := target
        owner := payload.repository.owner
        name := payload.repository.name
        defaultBranch := some payload.repository.defaultBranch
        status := if reactivate then .active else old.status
        suspendedAt := if reactivate then none else old.suspendedAt
        removedAt := if reactivate then none else old.removedAt
        updatedAt :=
          if old.installation ≠ target ∨ old.owner ≠ payload.repository.owner ∨
              old.name ≠ payload.repository.name ∨
              old.defaultBranch ≠ some payload.repository.defaultBranch ∨
              (reactivate = true ∧ old.status ≠ .active) then now
          else old.updatedAt }
  else none

/-- The activation at the start of a snapshot transaction: `none` when it throws, and the
transaction is rolled back. `recoveryWinner` is whether the recovery candidate that a moved
binding needs was found. -/
def activateSnapshot (now : Timestamp) (db : GithubDatabase) (fence : AuthorizationFence)
    (recoveryWinner : Bool) (payload : PullRequestPayload) : Option GithubDatabase :=
  if (fence.freshAuthorization && repositoryBindingMoved fence payload &&
      !recoveryWinner) = true then none
  else
    match (db.installations payload.installation.githubInstallationId).bind
        (activatedInstallation now fence payload) with
    | none => none
    | some installation =>
        if installation.status ≠ .active then none
        else
          let written := db.repositories.upsert payload.repository.githubRepositoryId
            { installation := payload.installation.githubInstallationId
              owner := payload.repository.owner
              name := payload.repository.name
              defaultBranch := some payload.repository.defaultBranch
              status := .active
              suspendedAt := none
              removedAt := none
              updatedAt := now }
            (activatedRepository now fence payload)
          if written.2.map Repository.status = some GithubLifecycleStatus.active then
            some { db with
              installations :=
                db.installations.set payload.installation.githubInstallationId installation
              repositories := written.1 }
          else none

/-! ## Operators -/

/-- The pending rows that an operator activates. -/
def activatePending (now : Timestamp) (condition : JsString → Installation → Bool)
    (db : GithubDatabase) : GithubDatabase :=
  { db with
    installations := db.installations.updateAll
      (fun id row => row.status = .pending ∧ condition id row = true)
      fun row => { row with
        status := .active
        suspendedAt := none
        removedAt := none
        updatedAt := now } }

/-- An allowlist row is written, or deleted. -/
def setAllowlist (account : JsString) (status : Option AllowlistStatus) (db : GithubDatabase) :
    GithubDatabase :=
  { db with
    githubAppAccountAllowlist :=
      Function.update db.githubAppAccountAllowlist account status }

/-- The installations that the admission of an account activates. -/
def belongsTo (account : JsString) (_ : JsString) (row : Installation) : Bool :=
  row.accountId = account ∨ row.installerAccountId = some account

/-- The exact installation that an operator recovers. -/
def isExactly (githubInstallationId account : JsString) (id : JsString) (row : Installation) :
    Bool :=
  id = githubInstallationId ∧ row.accountId = account

/-! ## The machine -/

/-- What reaches the database: the three webhooks, the snapshot of a pull-request job with
the fence it loaded before, and the statements of an operator. -/
inductive GithubEvent where
  | installation (now : Timestamp) (event : InstallationEvent)
  | installationRepositories (now : Timestamp) (event : InstallationRepositoriesEvent)
  | pullRequest (payload : PullRequestPayload)
  | snapshot (now : Timestamp) (fence : AuthorizationFence) (recoveryWinner : Bool)
      (payload : PullRequestPayload)
  | allowlist (account : JsString) (status : Option AllowlistStatus)
  | admitAccount (now : Timestamp) (account : JsString)
  | recover (now : Timestamp) (githubInstallationId account : JsString)

/-- One transaction. -/
def GithubDatabase.step (db : GithubDatabase) : GithubEvent → GithubDatabase
  | .installation now event => applyInstallationEvent now db event
  | .installationRepositories now event => applyInstallationRepositoriesEvent now db event
  | .pullRequest payload => ingestPullRequest db payload
  | .snapshot now fence recoveryWinner payload =>
      (activateSnapshot now db fence recoveryWinner payload).getD db
  | .allowlist account status => setAllowlist account status db
  | .admitAccount now account =>
      activatePending now (belongsTo account) (setAllowlist account (some .active) db)
  | .recover now githubInstallationId account =>
      activatePending now (isExactly githubInstallationId account)
        (setAllowlist account (some .active) db)

end Github

end UnderstandProof
