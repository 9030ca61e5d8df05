import UnderstandProof.Domain.Attempt
import UnderstandProof.Foundation.Except
import UnderstandProof.Foundation.History
import UnderstandProof.Foundation.IsoDate
import UnderstandProof.Foundation.RowLocks
import UnderstandProof.Media.Schemas

/-!
# Handing an attempt over to a phone

`createHandoff` gives the author of a ready attempt a token, and `exchangeHandoff` gives
whoever brings the token a session of the author and the wrapping material of the attempt. A
creation locks the row of its attempt, an exchange the row of its token only; what else a call
reads is what its first statement saw, even where it then waits for the lock. Other parts of the
application change attempts, revisions and sessions between any two steps.
-/

open Foundation

namespace UnderstandProof

namespace Auth

open Domain (AttemptStatus Timestamp)

/-! ## Rows -/

inductive ActorRole where
  | author
  | maintainer
  | support
  deriving DecidableEq, Repr

inductive CredentialPurpose where
  | session
  | csrf
  | handoff
  deriving DecidableEq, Repr

/-- What the handoff reads of `attempts`. -/
structure AttemptRow where
  authorId : JsString
  repositoryId : JsString
  revisionId : JsString
  headSha : JsString
  status : AttemptStatus
  expiresAt : Timestamp
  deriving DecidableEq

/-- A row of `auth_sessions`. -/
structure SessionRow where
  id : JsString
  tokenHash : JsString
  actorId : JsString
  actorRole : ActorRole
  repositoryId : Option JsString
  csrfHash : JsString
  expiresAt : Timestamp
  revokedAt : Option Timestamp
  deriving DecidableEq

/-- A row of `handoff_tokens`. -/
structure HandoffToken where
  id : JsString
  attemptId : JsString
  desktopSessionId : JsString
  tokenHash : JsString
  expiresAt : Timestamp
  consumedAt : Option Timestamp
  deriving DecidableEq

/-- A row of `wrapping_materials`. -/
structure WrappingMaterialRow where
  id : JsString
  attemptId : JsString
  objectId : JsString
  keyId : JsString
  algorithm : JsString
  spkiSha256 : JsString
  usableUntil : Timestamp
  deriving DecidableEq

/-! ## Statements on `handoff_tokens` -/

namespace HandoffToken

/-- The token is the open one of its attempt. -/
def isOpenOf (attemptId : JsString) (token : HandoffToken) : Bool :=
  token.attemptId = attemptId && token.consumedAt.isNone

def consume (now : Timestamp) (token : HandoffToken) : HandoffToken :=
  { token with consumedAt := some now }

/-- `UPDATE handoff_tokens SET consumed_at = now WHERE …`; `none` is an exception of
`slopproof_guard_handoff_consumption`, which refuses a token that was consumed. -/
def consumeAll (selected : HandoffToken → Bool) (now : Timestamp) (tokens : List HandoffToken) :
    Option (List HandoffToken) :=
  if tokens.any fun token => selected token && token.consumedAt.isSome then none
  else some (tokens.map fun token => if selected token then token.consume now else token)

/-- `INSERT INTO handoff_tokens`; `none` violates a key, the unique index on the hashes, the one on
the open tokens of an attempt, or the reference to the session. -/
def insert (sessions : List SessionRow) (token : HandoffToken) (tokens : List HandoffToken) :
    Option (List HandoffToken) :=
  if tokens.any fun other => other.id = token.id || other.tokenHash = token.tokenHash ||
      other.isOpenOf token.attemptId && token.consumedAt.isNone then none
  else if sessions.any fun session => session.id = token.desktopSessionId then
    some (tokens ++ [token])
  else none

end HandoffToken

/-! ## Calls -/

structure AuthenticatedSession where
  id : JsString
  actorId : JsString
  actorRole : ActorRole
  repositoryId : Option JsString
  csrfHash : JsString
  expiresAt : Timestamp
  deriving DecidableEq

structure IssuedSession where
  session : AuthenticatedSession
  sessionToken : JsString
  csrfToken : JsString
  deriving DecidableEq

inductive HandoffError where
  /-- `HandoffRejectedError` -/
  | rejected
  /-- The input failed its schema. -/
  | invalidInput
  /-- A statement failed, and the transaction was rolled back. -/
  | failed
  deriving DecidableEq, Repr

/-- The arguments of `createHandoff`, and the time of the call. -/
structure CreateInput where
  attemptId : JsString
  session : AuthenticatedSession
  ttlMs : Option ℤ
  now : Timestamp

structure HandoffGrant where
  token : JsString
  expiresAt : Timestamp
  deriving DecidableEq

structure PublicWrappingMaterialInput where
  keyId : JsString
  algorithm : JsString
  spkiDer : JsString
  spkiSha256 : JsString
  deriving DecidableEq

/-- The characters of `/^[A-Za-z0-9_-]*$/` -/
def isBase64UrlText (value : JsString) : Bool :=
  value.all fun c => Media.isAlphanumeric c || c = 0x5f || c = 0x2d

/-- `PublicWrappingMaterialInputSchema` -/
def PublicWrappingMaterialInput.isAccepted (material : PublicWrappingMaterialInput) : Bool :=
  1 ≤ material.keyId.length && material.keyId.length ≤ 128 &&
    (material.keyId.all fun c => Media.isAlphanumeric c || c = 0x2e || c = 0x5f || c = 0x3a ||
      c = 0x2f || c = 0x2d) &&
    material.algorithm = js "RSA-OAEP-256" &&
    1 ≤ material.spkiDer.length && isBase64UrlText material.spkiDer &&
    material.spkiSha256.length = 43 && isBase64UrlText material.spkiSha256

/-- The arguments of `exchangeHandoff`, and the time of the call. -/
structure ExchangeInput where
  token : JsString
  wrappingMaterial : PublicWrappingMaterialInput
  now : Timestamp

structure ExchangedMaterial where
  version : ℕ
  materialId : JsString
  input : PublicWrappingMaterialInput
  attemptId : JsString
  headSha : JsString
  objectId : JsString
  usableUntil : JsString
  deriving DecidableEq

structure ExchangedHandoff where
  mobileSession : IssuedSession
  wrappingMaterial : ExchangedMaterial
  deriving DecidableEq

/-- What the first statement of an exchange reads. -/
structure GrantRow where
  handoffId : JsString
  attemptId : JsString
  attempt : AttemptRow
  handoffExpiresAt : Timestamp
  isCurrent : Bool
  desktopActorId : JsString
  desktopExpiresAt : Timestamp
  desktopRevokedAt : Option Timestamp
  deriving DecidableEq

/-- The row that `createHandoff` has locked is one that it gives a token for. -/
def CreateInput.admits (input : CreateInput) (attempt : AttemptRow) (isCurrent : Bool) : Bool :=
  attempt.authorId = input.session.actorId &&
    some attempt.repositoryId = input.session.repositoryId &&
    attempt.status = .ready && isCurrent && decide (input.now < attempt.expiresAt)

/-- What a creation draws: the key of its row and its credential. -/
structure CreationDraw where
  id : JsString
  token : JsString

def CreateInput.handoffExpiresAt (input : CreateInput) (attemptExpiresAt : Timestamp) : Timestamp :=
  min attemptExpiresAt (input.now + input.ttlMs.getD (5 * 60000))

/-- The row that a creation inserts. -/
def CreateInput.newToken (hash : CredentialPurpose → JsString → JsString) (input : CreateInput)
    (attemptExpiresAt : Timestamp) (draw : CreationDraw) : HandoffToken where
  id := draw.id
  attemptId := input.attemptId
  desktopSessionId := input.session.id
  tokenHash := hash .handoff draw.token
  expiresAt := input.handoffExpiresAt attemptExpiresAt
  consumedAt := none

/-- The exchange is not rejected; `consumedAt` is that of the locked row. -/
def GrantRow.admits (row : GrantRow) (consumedAt : Option Timestamp) (now : Timestamp) : Bool :=
  consumedAt.isNone && decide (now < row.handoffExpiresAt) && decide (now < row.attempt.expiresAt) &&
    decide (now < row.desktopExpiresAt) && row.desktopRevokedAt.isNone &&
    row.desktopActorId = row.attempt.authorId && row.attempt.status = .ready && row.isCurrent

/-- What an exchange draws: the keys of its rows and two credentials. -/
structure ExchangeDraw where
  sessionId : JsString
  sessionToken : JsString
  csrfToken : JsString
  materialId : JsString
  objectId : JsString

/-- The material that an exchange inserts. -/
def ExchangeInput.newMaterial (input : ExchangeInput) (row : GrantRow) (draw : ExchangeDraw) :
    WrappingMaterialRow where
  id := draw.materialId
  attemptId := row.attemptId
  objectId := draw.objectId
  keyId := input.wrappingMaterial.keyId
  algorithm := input.wrappingMaterial.algorithm
  spkiSha256 := input.wrappingMaterial.spkiSha256
  usableUntil := row.attempt.expiresAt

inductive CreationPhase where
  /-- The first statement has read whether the revision is current. -/
  | reading (input : CreateInput) (isCurrent : Bool)
  /-- The attempt is locked and the call is not rejected. -/
  | locked (input : CreateInput) (attemptExpiresAt : Timestamp)
  | answered (answer : Except HandoffError HandoffGrant)

inductive ExchangePhase where
  | reading (input : ExchangeInput) (row : GrantRow)
  /-- The token is locked and the call is not rejected. -/
  | granted (input : ExchangeInput) (row : GrantRow)
  | answered (answer : Except HandoffError ExchangedHandoff)

structure HandoffSystem where
  attempts : Table JsString AttemptRow
  /-- The column `is_current` of a revision. -/
  revisions : Table JsString Bool
  sessions : List SessionRow
  tokens : List HandoffToken
  materials : List WrappingMaterialRow
  creations : Table ℕ CreationPhase
  exchanges : Table ℕ ExchangePhase
  /-- The creation that holds the lock of an attempt. -/
  attemptLocks : Table JsString ℕ
  /-- The exchange that holds the lock of a token. -/
  tokenLocks : Table JsString ℕ

namespace HandoffSystem

/-- Nothing is stored and no call is under way. -/
def empty : HandoffSystem where
  attempts _ := none
  revisions _ := none
  sessions := []
  tokens := []
  materials := []
  creations _ := none
  exchanges _ := none
  attemptLocks _ := none
  tokenLocks _ := none

variable (hash : CredentialPurpose → JsString → JsString) (s : HandoffSystem)

def setCreation (call : ℕ) (phase : CreationPhase) : HandoffSystem :=
  { s with creations := s.creations.set call phase }

def setExchange (call : ℕ) (phase : ExchangePhase) : HandoffSystem :=
  { s with exchanges := s.exchanges.set call phase }

def unlockAttempt (attemptId : JsString) : HandoffSystem :=
  { s with attemptLocks := s.attemptLocks.erase attemptId }

def unlockToken (handoffId : JsString) : HandoffSystem :=
  { s with tokenLocks := s.tokenLocks.erase handoffId }

/-! ### `createHandoff` -/

/-- The column `is_current` that the join of an attempt with its revision reads. -/
def readCurrent (attemptId : JsString) : Option Bool :=
  (s.attempts attemptId).bind fun attempt => s.revisions attempt.revisionId

/-- The call up to the snapshot of its first statement. -/
def beginCreation (call : ℕ) (input : CreateInput) : Option HandoffSystem :=
  if (s.creations call).isSome then none
  else if input.session.actorRole ≠ .author then
    some (s.setCreation call (.answered (.error .rejected)))
  else
    match s.readCurrent input.attemptId with
    | none => some (s.setCreation call (.answered (.error .rejected)))
    | some isCurrent => some (s.setCreation call (.reading input isCurrent))

/-- The lock is there; the newest version of the attempt is read, and the revision of the
snapshot. -/
def lockAttempt (call : ℕ) : Option HandoffSystem :=
  match s.creations call with
  | some (.reading input isCurrent) =>
      if (s.attemptLocks input.attemptId).isSome then none
      else
        match s.attempts input.attemptId with
        | none => some (s.setCreation call (.answered (.error .rejected)))
        | some attempt =>
            if input.admits attempt isCurrent = false then
              some (s.setCreation call (.answered (.error .rejected)))
            else some { s.setCreation call (.locked input attempt.expiresAt) with
                attemptLocks := s.attemptLocks.set input.attemptId call }
  | _ => none

/-- The tokens that the two statements of a creation leave. -/
def createdTokens (input : CreateInput) (attemptExpiresAt : Timestamp) (draw : CreationDraw) :
    Option (List HandoffToken) :=
  (HandoffToken.consumeAll (HandoffToken.isOpenOf input.attemptId) input.now s.tokens).bind
    (HandoffToken.insert s.sessions (input.newToken hash attemptExpiresAt draw))

/-- No open token of the attempt is locked by an exchange. -/
def openTokensFree (attemptId : JsString) : Bool :=
  s.tokens.all fun token => !token.isOpenOf attemptId || (s.tokenLocks token.id).isNone

/-- The statements of a creation that write, and its commit. They wait for the open tokens that an
exchange has locked. -/
def commitCreation (call : ℕ) (draw : CreationDraw) : Option HandoffSystem :=
  match s.creations call with
  | some (.locked input attemptExpiresAt) =>
      if s.openTokensFree input.attemptId = false then none
      else
        match s.createdTokens hash input attemptExpiresAt draw with
        | none => some ((s.unlockAttempt input.attemptId).setCreation call
            (.answered (.error .failed)))
        | some tokens => some { (s.unlockAttempt input.attemptId).setCreation call
              (.answered (.ok ⟨draw.token, input.handoffExpiresAt attemptExpiresAt⟩)) with
            tokens }
  | _ => none

/-- The connection or a statement of a creation fails, also as the victim of a deadlock. -/
def abortCreation (call : ℕ) : Option HandoffSystem :=
  match s.creations call with
  | some (.reading _ _) => some (s.setCreation call (.answered (.error .failed)))
  | some (.locked input _) =>
      some ((s.unlockAttempt input.attemptId).setCreation call (.answered (.error .failed)))
  | _ => none

/-! ### `exchangeHandoff` -/

/-- The join of the first statement. -/
def readGrant (tokenHash : JsString) : Option GrantRow :=
  (s.tokens.find? fun token => token.tokenHash = tokenHash).bind fun handoff =>
    (s.attempts handoff.attemptId).bind fun attempt =>
      (s.revisions attempt.revisionId).bind fun isCurrent =>
        (s.sessions.find? fun desktop => desktop.id = handoff.desktopSessionId).map fun desktop => {
          handoffId := handoff.id
          attemptId := handoff.attemptId
          attempt
          handoffExpiresAt := handoff.expiresAt
          isCurrent
          desktopActorId := desktop.actorId
          desktopExpiresAt := desktop.expiresAt
          desktopRevokedAt := desktop.revokedAt }

/-- The call up to the snapshot of its first statement. -/
def beginExchange (call : ℕ) (input : ExchangeInput) : Option HandoffSystem :=
  if (s.exchanges call).isSome then none
  else if input.wrappingMaterial.isAccepted = false then
    some (s.setExchange call (.answered (.error .invalidInput)))
  else
    match s.readGrant (hash .handoff input.token) with
    | none => some (s.setExchange call (.answered (.error .rejected)))
    | some row => some (s.setExchange call (.reading input row))

/-- The lock is there; the newest version of the token is read, and the other rows of the
snapshot. -/
def lockToken (call : ℕ) : Option HandoffSystem :=
  match s.exchanges call with
  | some (.reading input row) =>
      if (s.tokenLocks row.handoffId).isSome then none
      else
        match s.tokens.find? fun token => token.id = row.handoffId with
        | none => some (s.setExchange call (.answered (.error .rejected)))
        | some token =>
            if row.admits token.consumedAt input.now = false then
              some (s.setExchange call (.answered (.error .rejected)))
            else some { s.setExchange call (.granted input row) with
                tokenLocks := s.tokenLocks.set row.handoffId call }
  | _ => none

/-- `issueSession`; `none` is an error, or a violated key or unique index. -/
def issueSession (actorId : JsString) (actorRole : ActorRole) (repositoryId : Option JsString)
    (ttlMs now : ℤ) (draw : ExchangeDraw) : Option (List SessionRow × IssuedSession) :=
  if ttlMs ≤ 0 ∨ 9007199254740991 < ttlMs then none
  else if s.sessions.any fun session => session.id = draw.sessionId ||
      session.tokenHash = hash .session draw.sessionToken then none
  else
    let session : AuthenticatedSession := {
      id := draw.sessionId
      actorId
      actorRole
      repositoryId
      csrfHash := hash .csrf draw.csrfToken
      expiresAt := now + ttlMs }
    some (s.sessions ++ [{
        id := session.id
        tokenHash := hash .session draw.sessionToken
        actorId := session.actorId
        actorRole := session.actorRole
        repositoryId := session.repositoryId
        csrfHash := session.csrfHash
        expiresAt := session.expiresAt
        revokedAt := none }],
      ⟨session, draw.sessionToken, draw.csrfToken⟩)

/-- `INSERT INTO wrapping_materials`; `none` violates a key or the index on the objects. -/
def insertMaterial (material : WrappingMaterialRow) : Option (List WrappingMaterialRow) :=
  if s.materials.any fun other => other.id = material.id ||
      other.attemptId = material.attemptId && other.objectId = material.objectId then none
  else some (s.materials ++ [material])

/-- What the statements of an exchange write, and its answer. -/
structure Exchanged where
  tokens : List HandoffToken
  sessions : List SessionRow
  materials : List WrappingMaterialRow
  answer : ExchangedHandoff

def exchanged (input : ExchangeInput) (row : GrantRow) (draw : ExchangeDraw) : Option Exchanged := do
  let tokens ← HandoffToken.consumeAll (fun token => token.id = row.handoffId) input.now s.tokens
  let (sessions, mobileSession) ← s.issueSession hash row.attempt.authorId .author
    (some row.attempt.repositoryId) (row.attempt.expiresAt - input.now) input.now draw
  let materials ← s.insertMaterial (input.newMaterial row draw)
  return {
    tokens
    sessions
    materials
    answer := {
      mobileSession
      wrappingMaterial := {
        version := 1
        materialId := draw.materialId
        input := input.wrappingMaterial
        attemptId := row.attemptId
        headSha := row.attempt.headSha
        objectId := draw.objectId
        usableUntil := JsString.isoString row.attempt.expiresAt } } }

/-- The statements of an exchange that write, and its commit. The reference to the attempt waits
for a creation that has locked it. -/
def commitExchange (call : ℕ) (draw : ExchangeDraw) : Option HandoffSystem :=
  match s.exchanges call with
  | some (.granted input row) =>
      if (s.attemptLocks row.attemptId).isSome then none
      else
        match s.exchanged hash input row draw with
        | none => some ((s.unlockToken row.handoffId).setExchange call
            (.answered (.error .failed)))
        | some written => some { (s.unlockToken row.handoffId).setExchange call
              (.answered (.ok written.answer)) with
            tokens := written.tokens
            sessions := written.sessions
            materials := written.materials }
  | _ => none

/-- The connection or a statement of an exchange fails, also as the victim of a deadlock. -/
def abortExchange (call : ℕ) : Option HandoffSystem :=
  match s.exchanges call with
  | some (.reading _ _) => some (s.setExchange call (.answered (.error .failed)))
  | some (.granted _ row) =>
      some ((s.unlockToken row.handoffId).setExchange call (.answered (.error .failed)))
  | _ => none

/-! ### The rest of the application -/

def insertAttempt (attemptId : JsString) (attempt : AttemptRow) : Option HandoffSystem :=
  if (s.attempts attemptId).isSome then none
  else some { s with attempts := s.attempts.set attemptId attempt }

/-- A start, the expiry, a finalization, an invalidation: every writer of a status locks the row,
and none writes another column of these. -/
def transitionAttempt (attemptId : JsString) (status : AttemptStatus) : Option HandoffSystem :=
  if (s.attemptLocks attemptId).isSome then none
  else (s.attempts attemptId).map fun attempt =>
    { s with attempts := s.attempts.set attemptId { attempt with status } }

/-- One row of a switch of revisions, which makes one current and another one not. -/
def setCurrent (revisionId : JsString) (isCurrent : Bool) : HandoffSystem :=
  { s with revisions := s.revisions.set revisionId isCurrent }

/-- A session of a login. -/
def insertSession (session : SessionRow) : Option HandoffSystem :=
  if s.sessions.any fun other => other.id = session.id || other.tokenHash = session.tokenHash then
    none
  else some { s with sessions := s.sessions ++ [session] }

def revokeSession (sessionId : JsString) (now : Timestamp) : HandoffSystem :=
  { s with sessions := s.sessions.map fun session =>
      if session.id = sessionId then
        { session with revokedAt := some (session.revokedAt.getD now) }
      else session }

end HandoffSystem

inductive HandoffEvent where
  | beginCreation (call : ℕ) (input : CreateInput)
  | lockAttempt (call : ℕ)
  | commitCreation (call : ℕ) (draw : CreationDraw)
  | abortCreation (call : ℕ)
  | beginExchange (call : ℕ) (input : ExchangeInput)
  | lockToken (call : ℕ)
  | commitExchange (call : ℕ) (draw : ExchangeDraw)
  | abortExchange (call : ℕ)
  | insertAttempt (attemptId : JsString) (attempt : AttemptRow)
  | transitionAttempt (attemptId : JsString) (status : AttemptStatus)
  | setCurrent (revisionId : JsString) (isCurrent : Bool)
  | insertSession (session : SessionRow)
  | revokeSession (sessionId : JsString) (now : Timestamp)

/-- The call of `createHandoff` that takes the step. -/
def HandoffEvent.creationCall : HandoffEvent → Option ℕ
  | beginCreation call _ | lockAttempt call | commitCreation call _ | abortCreation call =>
      some call
  | _ => none

/-- The call of `exchangeHandoff` that takes the step. -/
def HandoffEvent.exchangeCall : HandoffEvent → Option ℕ
  | beginExchange call _ | lockToken call | commitExchange call _ | abortExchange call =>
      some call
  | _ => none

namespace HandoffSystem

/-- The step of an event; `none` where it cannot be taken, or waits for a lock. -/
def next (hash : CredentialPurpose → JsString → JsString) (s : HandoffSystem) :
    HandoffEvent → Option HandoffSystem
  | .beginCreation call input => s.beginCreation call input
  | .lockAttempt call => s.lockAttempt call
  | .commitCreation call draw => s.commitCreation hash call draw
  | .abortCreation call => s.abortCreation call
  | .beginExchange call input => s.beginExchange hash call input
  | .lockToken call => s.lockToken call
  | .commitExchange call draw => s.commitExchange hash call draw
  | .abortExchange call => s.abortExchange call
  | .insertAttempt attemptId attempt => s.insertAttempt attemptId attempt
  | .transitionAttempt attemptId status => s.transitionAttempt attemptId status
  | .setCurrent revisionId isCurrent => some (s.setCurrent revisionId isCurrent)
  | .insertSession session => s.insertSession session
  | .revokeSession sessionId now => some (s.revokeSession sessionId now)

def step (hash : CredentialPurpose → JsString → JsString) (s : HandoffSystem)
    (event : HandoffEvent) : HandoffSystem :=
  (s.next hash event).getD s

end HandoffSystem

end Auth

end UnderstandProof
