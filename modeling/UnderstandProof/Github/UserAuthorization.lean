import UnderstandProof.Foundation.Jsonb
import UnderstandProof.Foundation.OrderedSet
import UnderstandProof.Github.RequestDiscipline

/-!
# What a user may reach

The installations and the writable repositories of a user are listed page by page, on one deadline
for all requests. A listing is returned only when the pages of every installation add up to the
total that its first page announced and every other repeated.
-/

open Foundation
open Foundation.JsValue (get natural array boolean optional)

namespace UnderstandProof

namespace Github

/-! ## Sessions of requests -/

/-- The requests of one operation: where they are, and what has happened. -/
structure Session (Call : Type) where
  cursor : Cursor
  events : List (RequestEvent Call)

abbrev Requesting (Call α : Type) := Stateful GithubControlError (Session Call) α

section Requests

variable {Call : Type} (world : World Call)

def throwControl {α : Type} (code : GithubControlErrorCode) : Requesting Call α :=
  Stateful.lift (.error (.plain code))

/-- What a reader has read, or `INVALID_RESPONSE`. -/
def orInvalid {α : Type} (read : Option α) : Requesting Call α :=
  match read with
  | some a => pure a
  | none => throwControl .invalidResponse

/-- `now()` -/
def readClock : Requesting Call ℚ := fun session =>
  let now := world.clock session.cursor.readings
  (.ok now, ⟨{ session.cursor with readings := session.cursor.readings + 1 },
    session.events ++ [.reads now]⟩)

/-- A request under a policy. -/
def perform (policy : GithubRequestPolicy) (maxApiCalls : Option ℕ) (call : Call) :
    Requesting Call JsValue := fun session =>
  let run := executeGithubRequest world policy maxApiCalls call session.cursor
  (run.2.1, ⟨run.2.2, session.events ++ run.1⟩)

def defaultUserAuthorizationDeadlineMs : ℚ := 25000

/-- A request of `createBoundGithubRequest`. -/
def boundRequest (policy : GithubRequestPolicy) (deadlineAt : ℚ) (call : Call) :
    Requesting Call JsValue := do
  let now ← readClock world
  let remaining := ⌊deadlineAt - now⌋
  if remaining < 1 then throwControl .timeout
  else perform world { policy with deadlineMs := some remaining } none call

end Requests

/-! ## Pages -/

/-- `/^[1-9][0-9]{0,15}$/u` and a safe integer. -/
def isDecimalId (value : JsString) : Bool :=
  value.all (fun c => 0x30 ≤ c && c ≤ 0x39) && value.length ≤ 16 &&
    value.head?.any (fun c => 0x31 ≤ c) && digitsValue value ≤ maxSafeInteger

def isUserToken (userToken : JsString) : Bool := 16 ≤ userToken.length && userToken.length ≤ 1024

/-- `z.object(…).passthrough()` -/
def looseFields : JsValue → Option (List (JsString × JsValue))
  | .obj fields => some fields
  | _ => none

structure ListingPage where
  ids : List JsString
  pageSize : ℕ
  totalCount : ℕ
  deriving DecidableEq, Repr

def userPageSize : ℕ := 100
def maxUserAppInstallationPages : ℕ := 10
def maxUserAppRepositoryPages : ℕ := 32
def maxUserAppRepositoryResults : ℕ := userPageSize * maxUserAppRepositoryPages

/-- `String(id)` under the schema of identifiers. -/
def decimalId (id : ℕ) : Option JsString :=
  if isDecimalId (JsString.decimal id) then some (JsString.decimal id) else none

def readInstallation (value : JsValue) : Option ℕ := do
  let fields ← looseFields value
  natural 1 maxSafeInteger (get (js "id") fields)

def parseAccessibleAppInstallationPage (data : JsValue) : Option ListingPage := do
  let fields ← looseFields data
  let totalCount ← natural 0 maxSafeInteger (get (js "total_count") fields)
  let installations ← array 0 userPageSize readInstallation (get (js "installations") fields)
  let ids ← installations.mapM decimalId
  return ⟨ids, installations.length, totalCount⟩

structure UpstreamRepository where
  id : ℕ
  admin : Bool
  push : Bool
  maintain : Option Bool
  deriving DecidableEq, Repr

def readRepository (value : JsValue) : Option UpstreamRepository := do
  let fields ← looseFields value
  let id ← natural 1 maxSafeInteger (get (js "id") fields)
  let permissions ← looseFields (get (js "permissions") fields)
  let admin ← boolean (get (js "admin") permissions)
  let push ← boolean (get (js "push") permissions)
  let maintain ← optional boolean (get (js "maintain") permissions)
  return ⟨id, admin, push, maintain⟩

def UpstreamRepository.isWritable (repository : UpstreamRepository) : Bool :=
  repository.admin || repository.push || repository.maintain == some true

def parseWritableAppRepositoryPage (data : JsValue) : Option ListingPage := do
  let fields ← looseFields data
  let totalCount ← natural 0 maxSafeInteger (get (js "total_count") fields)
  let repositories ← array 0 userPageSize readRepository (get (js "repositories") fields)
  let ids ← (repositories.filter UpstreamRepository.isWritable).mapM fun repository =>
    decimalId repository.id
  return ⟨ids, repositories.length, totalCount⟩

/-! ## Listings -/

inductive UserCall where
  | listInstallationsForAuthenticatedUser (page perPage : ℕ)
  | listInstallationReposForAuthenticatedUser (installationId page perPage : ℕ)
  deriving DecidableEq, Repr

/-- The total of a listing: announced by its first page, and repeated by every other. -/
def checkTotal (announced : Option ℕ) (page : ListingPage) : Requesting UserCall ℕ :=
  match announced with
  | none => pure page.totalCount
  | some total =>
      if page.totalCount ≠ total then throwControl .invalidResponse else pure total

section Listings

variable (world : World UserCall) (policy : GithubRequestPolicy) (deadlineAt : ℚ)

/-- The pages of the installations, with `left` more allowed. -/
def installationPages : ℕ → ℕ → Option ℕ → ℕ → List JsString →
    Requesting UserCall (List JsString)
  | 0, _, _, _, _ => throwControl .invalidResponse
  | left + 1, page, announced, received, installationIds => do
      let data ← boundRequest world policy deadlineAt
        (.listInstallationsForAuthenticatedUser page userPageSize)
      let parsed ← orInvalid (parseAccessibleAppInstallationPage data)
      let total ← checkTotal announced parsed
      let received := received + parsed.pageSize
      let installationIds := installationIds ++ parsed.ids
      if userPageSize * maxUserAppInstallationPages < total ∨ total < received ∨
          parsed.pageSize = 0 ∧ received < total then throwControl .invalidResponse
      else if received = total then pure installationIds.eraseDups
      else installationPages left (page + 1) (some total) received installationIds

def listAccessibleAppInstallations (hasClient : Bool) (userToken : JsString) :
    Requesting UserCall (List JsString) :=
  if isUserToken userToken = false then throwControl .invalidInput
  else if hasClient = false then throwControl .unavailable
  else do
    let now ← readClock world
    let deadlineAt := now + policy.deadlineMs.getD defaultUserAuthorizationDeadlineMs
    installationPages world policy deadlineAt maxUserAppInstallationPages 1 none 0 []

/-- The variables of the repository listing; `pagesLeft` is what `pagesRead` leaves. -/
structure RepositoryListing where
  pagesLeft : ℕ
  announcedRepositories : ℕ
  repositoryIds : List JsString
  deriving DecidableEq, Repr

/-- `set.add(id)` for every id. -/
def addIds (set ids : List JsString) : List JsString :=
  ids.foldl (fun set id => addIf set True id) set

/-- The pages of an installation. -/
def repositoryPages (installationId : JsString) : ℕ → ℕ → Option ℕ → ℕ → ℕ → List JsString →
    Requesting UserCall RepositoryListing
  | 0, _, _, _, _, _ => throwControl .invalidResponse
  | pagesLeft + 1, page, announced, received, announcedRepositories, repositoryIds => do
      let data ← boundRequest world policy deadlineAt
        (.listInstallationReposForAuthenticatedUser (digitsValue installationId) page
          userPageSize)
      let parsed ← orInvalid (parseWritableAppRepositoryPage data)
      let announcedRepositories :=
        if announced.isNone then announcedRepositories + parsed.totalCount
        else announcedRepositories
      if announced.isNone ∧ maxUserAppRepositoryResults < announcedRepositories then
        throwControl .invalidResponse
      else
        let total ← checkTotal announced parsed
        let received := received + parsed.pageSize
        if parsed.totalCount < received ∨
            parsed.pageSize = 0 ∧ received < parsed.totalCount then throwControl .invalidResponse
        else
          let repositoryIds := addIds repositoryIds parsed.ids
          if parsed.totalCount ≤ received then
            pure ⟨pagesLeft, announcedRepositories, repositoryIds⟩
          else
            repositoryPages installationId pagesLeft (page + 1) (some total) received
              announcedRepositories repositoryIds

/-- The repositories of every installation in turn. -/
def installationRepositories : List JsString → RepositoryListing →
    Requesting UserCall RepositoryListing
  | [], listing => pure listing
  | installationId :: installationIds, listing => do
      let next ← repositoryPages world policy deadlineAt installationId listing.pagesLeft 1 none 0
        listing.announcedRepositories listing.repositoryIds
      installationRepositories installationIds next

def listWritableAppRepositories (hasClient : Bool) (userToken : JsString)
    (githubInstallationIds : List JsString) : Requesting UserCall (List JsString) :=
  if isUserToken userToken = false ∨ githubInstallationIds.all isDecimalId = false ∨
      githubInstallationIds = [] ∨ 32 < githubInstallationIds.length then
    throwControl .invalidInput
  else if hasClient = false then throwControl .unavailable
  else do
    let now ← readClock world
    let deadlineAt := now + policy.deadlineMs.getD defaultUserAuthorizationDeadlineMs
    let listing ← installationRepositories world policy deadlineAt githubInstallationIds
      ⟨maxUserAppRepositoryPages, 0, []⟩
    pure listing.repositoryIds

end Listings

end Github

end UnderstandProof
