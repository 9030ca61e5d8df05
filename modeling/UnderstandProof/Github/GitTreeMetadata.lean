import UnderstandProof.Github.UserAuthorization

/-!
# The kinds of changed paths

The kind of every changed path is read from the trees of its revision, one tree for each segment of
the path. Trees and roots are cached for all files, and the calls and the entries that are read are
counted against limits.
-/

open Foundation
open Foundation.JsValue (get boolean array text)

namespace UnderstandProof

namespace Github

/-! ## Schemas -/

/-- `/^[0-9a-f]{40}$/u` -/
def isGitSha (value : JsString) : Bool :=
  value.length == 40 && value.all fun c => (0x30 ≤ c && c ≤ 0x39) || (0x61 ≤ c && c ≤ 0x66)

def isRepositoryPart (value : JsString) : Bool :=
  1 ≤ value.length && value.length ≤ 100 &&
    value.all (fun c => (0x41 ≤ c && c ≤ 0x5a) || (0x61 ≤ c && c ≤ 0x7a) ||
      (0x30 ≤ c && c ≤ 0x39) || c == 0x5f || c == 0x2e || c == 0x2d) &&
    value != js "." && value != js ".."

structure GitCommit where
  sha : JsString
  treeSha : JsString
  deriving DecidableEq, Repr

def readGitCommit (data : JsValue) : Option GitCommit := do
  let fields ← looseFields data
  let sha ← text isGitSha (get (js "sha") fields)
  let tree ← looseFields (get (js "tree") fields)
  let treeSha ← text isGitSha (get (js "sha") tree)
  return ⟨sha, treeSha⟩

structure GitTreeEntry where
  path : JsString
  mode : JsString
  type : JsString
  sha : JsString
  deriving DecidableEq, Repr

def readGitTreeEntry (value : JsValue) : Option GitTreeEntry := do
  let fields ← looseFields value
  let path ← text (fun s => 1 ≤ s.length && s.length ≤ 1024) (get (js "path") fields)
  let mode ← text (fun s => 1 ≤ s.length && s.length ≤ 16) (get (js "mode") fields)
  let type ← text (fun s => 1 ≤ s.length && s.length ≤ 16) (get (js "type") fields)
  let sha ← text isGitSha (get (js "sha") fields)
  return ⟨path, mode, type, sha⟩

structure GitTree where
  sha : JsString
  truncated : Bool
  tree : List GitTreeEntry
  deriving DecidableEq, Repr

def readGitTree (data : JsValue) : Option GitTree := do
  let fields ← looseFields data
  let sha ← text isGitSha (get (js "sha") fields)
  let truncated ← boolean (get (js "truncated") fields)
  let tree ← array 0 5000 readGitTreeEntry (get (js "tree") fields)
  return ⟨sha, truncated, tree⟩

structure GitTreeMetadataLimits where
  maxDepth : ℕ
  maxApiCalls : ℕ
  maxEntriesPerTree : ℕ
  maxTotalEntries : ℕ
  maxTotalDurationMs : ℕ
  deriving DecidableEq, Repr

def GitTreeMetadataLimits.accepted (limits : GitTreeMetadataLimits) : Bool :=
  (1 ≤ limits.maxDepth && limits.maxDepth ≤ 64) &&
    (1 ≤ limits.maxApiCalls && limits.maxApiCalls ≤ 2000) &&
    (1 ≤ limits.maxEntriesPerTree && limits.maxEntriesPerTree ≤ 5000) &&
    (1 ≤ limits.maxTotalEntries && limits.maxTotalEntries ≤ 200000) &&
    (1 ≤ limits.maxTotalDurationMs && limits.maxTotalDurationMs ≤ 60000)

def defaultGitTreeMetadataLimits : GitTreeMetadataLimits := ⟨32, 1200, 1000, 100000, 20000⟩

theorem defaultGitTreeMetadataLimits_accepted : defaultGitTreeMetadataLimits.accepted = true := by
  decide

/-! ## Files -/

structure RepositoryRevision where
  owner : JsString
  repositoryName : JsString
  commitSha : JsString
  deriving DecidableEq, Repr

inductive FileStatus where
  | added
  | removed
  | modified
  | renamed
  | copied
  | changed
  | unchanged
  deriving DecidableEq, Repr

structure FileForKindResolution where
  filename : JsString
  previousFilename : Option JsString
  status : FileStatus
  deriving DecidableEq, Repr

structure ResolveFileKindsInput where
  head : Option RepositoryRevision
  base : RepositoryRevision
  files : List FileForKindResolution

inductive GitKind where
  | blob
  | symlink
  | submodule
  deriving DecidableEq, Repr

/-- The paths that are looked up on the head and on the base; a renamed or copied file needs its
previous name. -/
def requiredPaths (file : FileForKindResolution) : Option (Option JsString × Option JsString) :=
  match file.status with
  | .added => some (some file.filename, none)
  | .removed => some (none, some file.filename)
  | .renamed | .copied =>
      file.previousFilename.map fun previousFilename => (some file.filename, some previousFilename)
  | _ => some (some file.filename, some file.filename)

def combineKinds (head base : Option GitKind) : Option GitKind :=
  if head = none ∧ base = none then none
  else if head = some .submodule ∨ base = some .submodule then some .submodule
  else if head = some .symlink ∨ base = some .symlink then some .symlink
  else some .blob

def leafKind (entry : GitTreeEntry) : Option GitKind :=
  if (entry.mode = js "100644" ∨ entry.mode = js "100755") ∧ entry.type = js "blob" then some .blob
  else if entry.mode = js "120000" ∧ entry.type = js "blob" then some .symlink
  else if entry.mode = js "160000" ∧ entry.type = js "commit" then some .submodule
  else none

def GitTreeEntry.isTree (entry : GitTreeEntry) : Bool :=
  entry.mode == js "040000" && entry.type == js "tree"

/-- The entries have names of one segment, no two the same, and known modes. -/
def validateTreeEntries : List GitTreeEntry → List JsString → Bool
  | [], _ => true
  | entry :: entries, paths =>
      !(entry.path.contains 0x2f || entry.path.contains 0 || entry.path == js "." ||
        entry.path == js ".." || paths.contains entry.path) &&
      ((leafKind entry).isSome || entry.isTree) && validateTreeEntries entries (entry.path :: paths)

def parseGitPath (path : JsString) (maxDepth : ℕ) : Except GithubControlError (List JsString) :=
  if path.head? = some 0x2f ∨ path.contains 0 then .error (.plain .invalidResponse)
  else
    let segments := path.splitOn 0x2f
    if maxDepth < segments.length then .error (.plain .limitExceeded)
    else if segments.any (fun segment => segment == [] || segment == js "." || segment == js "..")
      then .error (.plain .invalidResponse)
    else .ok segments

def validRevision (revision : RepositoryRevision) : Bool :=
  isRepositoryPart revision.owner && isRepositoryPart revision.repositoryName &&
    isGitSha revision.commitSha

/-- `${owner}/${repositoryName}:${sha}` with the names in lower case. -/
def revisionKey (revision : RepositoryRevision) (sha : JsString) : JsString :=
  toLowerCase revision.owner ++ 0x2f :: toLowerCase revision.repositoryName ++ 0x3a :: sha

/-! ## The resolver -/

inductive GitCall where
  | getGitCommit (owner repositoryName commitSha : JsString)
  | getGitTree (owner repositoryName treeSha : JsString)
  deriving DecidableEq, Repr

structure GithubExactPathKindResolver where
  session : Session GitCall
  treeCache : List (JsString × List GitTreeEntry)
  rootTreeCache : List (JsString × JsString)
  totalEntries : ℕ

abbrev Resolving (α : Type) := Stateful GithubControlError GithubExactPathKindResolver α

/-- Requests of the resolver. -/
def onSession {α : Type} (x : Requesting GitCall α) : Resolving α := fun resolver =>
  let run := x.run resolver.session
  (run.1, { resolver with session := run.2 })

def failWith {α : Type} (code : GithubControlErrorCode) : Resolving α :=
  Stateful.lift (.error (.plain code))

def orInvalidResponse {α : Type} (read : Option α) : Resolving α :=
  match read with
  | some a => pure a
  | none => failWith .invalidResponse

/-- What a cache holds, or what is loaded. -/
def cachedOr {α : Type} (find : GithubExactPathKindResolver → Option α) (load : Resolving α) :
    Resolving α := fun resolver =>
  match find resolver with
  | some cached => (.ok cached, resolver)
  | none => load.run resolver

section Resolver

variable (world : World GitCall) (policy : GithubRequestPolicy) (limits : GitTreeMetadataLimits)
  (deadlineAt : ℚ)

/-- `executeRequest`: within the time left, and counted. -/
def executeRequest (call : GitCall) : Resolving JsValue := onSession do
  let now ← readClock world
  let remaining := ⌊deadlineAt - now⌋
  if remaining < 1 then throwControl .timeout
  else
    let bounded : GithubRequestPolicy :=
      { policy with
        deadlineMs := some (min (policy.deadlineMs.getD remaining) remaining)
        attemptTimeoutMs := some (min (policy.attemptTimeoutMs.getD remaining) remaining) }
    perform world bounded (some limits.maxApiCalls) call

def cacheRoot (key treeSha : JsString) : Resolving Unit := fun resolver =>
  (.ok (), { resolver with rootTreeCache := (key, treeSha) :: resolver.rootTreeCache })

def loadRootTreeSha (revision : RepositoryRevision) : Resolving JsString :=
  if validRevision revision = false then failWith .invalidResponse
  else
    cachedOr (fun resolver =>
      resolver.rootTreeCache.lookup (revisionKey revision revision.commitSha)) do
      let data ← executeRequest world policy limits deadlineAt
        (.getGitCommit revision.owner revision.repositoryName revision.commitSha)
      let parsed ← orInvalidResponse (readGitCommit data)
      if parsed.sha ≠ revision.commitSha then failWith .invalidResponse
      else do
        cacheRoot (revisionKey revision revision.commitSha) parsed.treeSha
        pure parsed.treeSha

/-- `this.totalEntries += …`, under its limit. -/
def countEntries (entries : ℕ) : Resolving Unit := fun resolver =>
  let counted := { resolver with totalEntries := resolver.totalEntries + entries }
  if limits.maxTotalEntries < counted.totalEntries then (.error (.plain .limitExceeded), counted)
  else (.ok (), counted)

def cacheTree (key : JsString) (tree : List GitTreeEntry) : Resolving Unit := fun resolver =>
  (.ok (), { resolver with treeCache := (key, tree) :: resolver.treeCache })

/-- A tree that was read is counted, checked and cached. -/
def keepTree (key : JsString) (tree : List GitTreeEntry) : Resolving (List GitTreeEntry) := do
  countEntries limits tree.length
  if validateTreeEntries tree [] = false then failWith .invalidResponse
  else do
    cacheTree key tree
    pure tree

def loadTree (revision : RepositoryRevision) (treeSha : JsString) :
    Resolving (List GitTreeEntry) :=
  cachedOr (fun resolver => resolver.treeCache.lookup (revisionKey revision treeSha)) do
    let data ← executeRequest world policy limits deadlineAt
      (.getGitTree revision.owner revision.repositoryName treeSha)
    let parsed ← orInvalidResponse (readGitTree data)
    if parsed.sha ≠ treeSha ∨ parsed.truncated = true ∨
        limits.maxEntriesPerTree < parsed.tree.length then failWith .invalidResponse
    else keepTree limits (revisionKey revision treeSha) parsed.tree

/-- The walk along the segments of a path. -/
def walkSegments (revision : RepositoryRevision) : List JsString → JsString → Resolving GitKind
  | [], _ => failWith .invalidResponse
  | segment :: segments, treeSha => do
      let entries ← loadTree world policy limits deadlineAt revision treeSha
      match entries.filter fun entry => entry.path == segment with
      | [entry] =>
          if segments = [] then orInvalidResponse (leafKind entry)
          else if entry.isTree = false then failWith .invalidResponse
          else walkSegments revision segments entry.sha
      | _ => failWith .invalidResponse

def resolvePath (revision : RepositoryRevision) (path : JsString) : Resolving GitKind := do
  let segments ← Stateful.lift (parseGitPath path limits.maxDepth)
  let treeSha ← loadRootTreeSha world policy limits deadlineAt revision
  walkSegments world policy limits deadlineAt revision segments treeSha

/-- The kind of a path that is looked up on a side. -/
def resolveSide (revision : Option RepositoryRevision) (path : Option JsString) :
    Resolving (Option GitKind) :=
  match path with
  | none => pure none
  | some path => do
      let revision ← orInvalidResponse revision
      let kind ← resolvePath world policy limits deadlineAt revision path
      pure (some kind)

def resolveFile (head : Option RepositoryRevision) (base : RepositoryRevision)
    (file : FileForKindResolution) : Resolving GitKind := do
  let paths ← orInvalidResponse (requiredPaths file)
  let headKind ← resolveSide world policy limits deadlineAt head paths.1
  let baseKind ← resolveSide world policy limits deadlineAt (some base) paths.2
  orInvalidResponse (combineKinds headKind baseKind)

def resolveFiles (head : Option RepositoryRevision) (base : RepositoryRevision) :
    List FileForKindResolution → Resolving (List GitKind)
  | [] => pure []
  | file :: files => do
      let kind ← resolveFile world policy limits deadlineAt head base file
      let kinds ← resolveFiles head base files
      pure (kind :: kinds)

/-- A resolver is constructed and resolves the files. -/
def resolve (input : ResolveFileKindsInput) : Resolving (List GitKind) :=
  if limits.accepted = false then failWith .invalidInput
  else do
    let now ← onSession (readClock world)
    resolveFiles world policy limits (now + limits.maxTotalDurationMs) input.head input.base
      input.files

def GithubExactPathKindResolver.fresh : GithubExactPathKindResolver :=
  ⟨⟨⟨0, 0, 0⟩, []⟩, [], [], 0⟩

end Resolver

end Github

end UnderstandProof
