import UnderstandProof.Foundation.History
import UnderstandProof.Foundation.RowLocks
import UnderstandProof.Github.GitTreeMetadata

/-!
# The cache of installation tokens

A token is minted for an installation and a repository, and kept until shortly before it expires.
Calls that find a mint on its way wait for it; a call for a fresh token gives up what is kept and
what is on its way, unless it finds another such call to wait for. The calls interleave where they
wait: every event is what one call does up to there, or the end of a mint.
-/

open Foundation

namespace UnderstandProof

namespace Github

structure GithubRepositoryBinding where
  installationId : JsString
  repositoryId : JsString
  owner : JsString
  repositoryName : JsString
  deriving DecidableEq, Repr

def GithubRepositoryBinding.accepted (binding : GithubRepositoryBinding) : Bool :=
  isDecimalId binding.installationId && isDecimalId binding.repositoryId &&
    isRepositoryPart binding.owner && isRepositoryPart binding.repositoryName

/-- `${installationId}:${repositoryId}` -/
def tokenCacheKey (binding : GithubRepositoryBinding) : JsString :=
  binding.installationId ++ 0x3a :: binding.repositoryId

/-- A token, with the mint that it is from. -/
structure CachedToken where
  token : JsString
  expiresAtMs : ℚ
  mint : ℕ
  deriving DecidableEq

/-- A mint is called by the time at which it began, and keeps the generation of its time; it is
settled at a reading of the clock. -/
structure Mint where
  binding : GithubRepositoryBinding
  generation : ℕ
  settlement : Option (Except GithubControlError CachedToken × ℚ)

/-- Where a call is. A refresh is called by the time at which it began. -/
inductive TokenCallState where
  | minting (mint generation : ℕ)
  | joiningMint (mint : ℕ)
  | refreshing (refresh : ℕ)
  | joiningRefresh (refresh : ℕ)
  | returned (token : CachedToken) (readAt : ℚ)
  | threw (error : GithubControlError)
  deriving DecidableEq

/-- A call of `get` or `getFresh`; the latter started a refresh or joined one. -/
structure TokenCall where
  binding : GithubRepositoryBinding
  refresh : Option ℕ
  state : TokenCallState
  deriving DecidableEq

/-- A call by the time at which it began: one from outside, or the one that a refresh makes. -/
inductive Activation where
  | outer (time : ℕ)
  | inner (time : ℕ)
  deriving DecidableEq, Repr

def Activation.time : Activation → ℕ
  | outer time => time
  | inner time => time

structure RepositoryInstallationTokenCache where
  time : ℕ
  cached : Table JsString CachedToken
  pending : Table JsString ℕ
  refreshing : Table JsString ℕ
  generations : JsString → ℕ
  mints : Table ℕ Mint
  calls : Table Activation TokenCall

/-- The response of a mint: an error, or a token that its schema accepts. -/
inductive TokenEvent where
  | get (binding : GithubRepositoryBinding) (now : ℚ)
  | getFresh (binding : GithubRepositoryBinding) (now : ℚ)
  | invalidate (binding : GithubRepositoryBinding)
  | mintSettles (mint : ℕ) (response : Except GithubControlError (JsString × ℚ)) (now : ℚ)
  | resume (activation : Activation)

namespace RepositoryInstallationTokenCache

/-- `if (map.get(key) === value) map.delete(key)` -/
def withoutIf (table : Table JsString ℕ) (key : JsString) (value : ℕ) : Table JsString ℕ :=
  if table key = some value then table.erase key else table

def initial : RepositoryInstallationTokenCache :=
  ⟨0, fun _ => none, fun _ => none, fun _ => none, fun _ => 0, fun _ => none, fun _ => none⟩

variable (s : RepositoryInstallationTokenCache)

def withCall (activation : Activation) (call : TokenCall) : RepositoryInstallationTokenCache :=
  { s with calls := s.calls.set activation call }

/-- `get`, up to where it waits. -/
def startGet (expirySkewMs now : ℚ) (activation : Activation) (binding : GithubRepositoryBinding) :
    RepositoryInstallationTokenCache :=
  let key := tokenCacheKey binding
  match (s.cached key).filter fun current => now < current.expiresAtMs - expirySkewMs with
  | some current => s.withCall activation ⟨binding, none, .returned current now⟩
  | none =>
      match s.pending key with
      | some existing => s.withCall activation ⟨binding, none, .joiningMint existing⟩
      | none =>
          { s with
            mints := s.mints.set s.time ⟨binding, s.generations key, none⟩
            pending := s.pending.set key s.time
            calls := s.calls.set activation
              ⟨binding, none, .minting s.time (s.generations key)⟩ }

/-- What a refresh gives up before it gets a token. -/
def giveUp (key : JsString) : RepositoryInstallationTokenCache :=
  { s with
    generations := Function.update s.generations key (s.generations key + 1)
    cached := s.cached.erase key
    pending := s.pending.erase key }

/-- `getFresh`, up to where it waits. -/
def startGetFresh (expirySkewMs now : ℚ) (binding : GithubRepositoryBinding) :
    RepositoryInstallationTokenCache :=
  let key := tokenCacheKey binding
  match s.refreshing key with
  | some existing =>
      s.withCall (.outer s.time) ⟨binding, some existing, .joiningRefresh existing⟩
  | none =>
      let next := (s.giveUp key).startGet expirySkewMs now (.inner s.time) binding
      { next with refreshing := next.refreshing.set key s.time }.withCall (.outer s.time)
        ⟨binding, some s.time, .refreshing s.time⟩

/-- The end of `mint`: a token that is about to expire is refused. -/
def settleMint (expirySkewMs : ℚ) (id : ℕ) (response : Except GithubControlError (JsString × ℚ))
    (now : ℚ) : RepositoryInstallationTokenCache :=
  match s.mints id with
  | some ⟨binding, generation, none⟩ =>
      let result : Except GithubControlError CachedToken := response.bind fun minted =>
        if minted.2 - expirySkewMs ≤ now then .error (.plain .invalidResponse)
        else .ok ⟨minted.1, minted.2, id⟩
      { s with mints := s.mints.set id ⟨binding, generation, some (result, now)⟩ }
  | _ => s

/-- How a call ends that waited for a mint. -/
def ended (settlement : Except GithubControlError CachedToken × ℚ) : TokenCallState :=
  match settlement.1 with
  | .ok token => .returned token settlement.2
  | .error error => .threw error

/-- The end of the call behind a refresh, once it has ended. -/
def refreshOutcome (refresh : ℕ) : Option TokenCallState :=
  (s.calls (.inner refresh)).bind fun call =>
    match call.state with
    | .returned token readAt => some (.returned token readAt)
    | .threw error => some (.threw error)
    | _ => none

/-- A minted token is kept unless a refresh has begun since. -/
def keep (key : JsString) (generation : ℕ) (result : Except GithubControlError CachedToken) :
    Table JsString CachedToken :=
  match result with
  | .ok token => if s.generations key = generation then s.cached.set key token else s.cached
  | .error _ => s.cached

/-- A call goes on behind what it waited for. -/
def resume (activation : Activation) : RepositoryInstallationTokenCache :=
  match s.calls activation with
  | none => s
  | some call =>
      let key := tokenCacheKey call.binding
      match call.state with
      | .minting mint generation =>
          match (s.mints mint).bind Mint.settlement with
          | none => s
          | some settlement =>
              { s with
                cached := s.keep key generation settlement.1
                pending := withoutIf s.pending key mint
                calls := s.calls.set activation { call with state := ended settlement } }
      | .joiningMint mint =>
          match (s.mints mint).bind Mint.settlement with
          | none => s
          | some settlement => s.withCall activation { call with state := ended settlement }
      | .refreshing refresh =>
          match s.refreshOutcome refresh with
          | none => s
          | some outcome =>
              { s with
                refreshing := withoutIf s.refreshing key refresh
                calls := s.calls.set activation { call with state := outcome } }
      | .joiningRefresh refresh =>
          match s.refreshOutcome refresh with
          | none => s
          | some outcome => s.withCall activation { call with state := outcome }
      | .returned .. => s
      | .threw _ => s

/-- A call with a binding that its schema refuses. -/
def refuse (binding : GithubRepositoryBinding) : RepositoryInstallationTokenCache :=
  s.withCall (.outer s.time) ⟨binding, none, .threw (.plain .invalidInput)⟩

/-- What an event does to the maps. -/
def act (expirySkewMs : ℚ) : TokenEvent → RepositoryInstallationTokenCache
  | .get binding now =>
      if binding.accepted = true then s.startGet expirySkewMs now (.outer s.time) binding
      else s.refuse binding
  | .getFresh binding now =>
      if binding.accepted = true then s.startGetFresh expirySkewMs now binding
      else s.refuse binding
  | .invalidate binding =>
      if binding.accepted = true then
        { s with cached := s.cached.erase (tokenCacheKey binding) }
      else s
  | .mintSettles mint response now => s.settleMint expirySkewMs mint response now
  | .resume activation => s.resume activation

def step (expirySkewMs : ℚ) (s : RepositoryInstallationTokenCache) (event : TokenEvent) :
    RepositoryInstallationTokenCache :=
  { s.act expirySkewMs event with time := s.time + 1 }

end RepositoryInstallationTokenCache

end Github

end UnderstandProof
