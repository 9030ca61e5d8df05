import UnderstandProof.Db.ProofQuestionIntervalAgreement
import UnderstandProof.Foundation.JsonValue
import UnderstandProof.Media.FinalizeRecording

/-!
# Validating a manifest

The manifest schema on a JSON value. A missing field, a wrong type, a wrong literal or an unknown
field stops the validation; a wrong format or range does not, so the refinement runs on every value
of the right types, whatever its fields hold. It decodes the nonce prefix and builds the nonce of
every chunk, which raises an error of the protocol where the prefix or an index is not what its own
check asks for.
-/

open Foundation

namespace UnderstandProof

namespace Web

open Media Foundation.JsonValue

/-! ## Values of the right types -/

structure RawManifestChunk where
  index : ℤ
  nonce : JsString
  plaintextBytes : ℤ
  sealedBytes : ℤ
  ciphertextSha256 : JsString
  deriving DecidableEq, Repr

structure RawManifestPart where
  partNumber : ℤ
  firstChunkIndex : ℤ
  lastChunkIndex : ℤ
  byteLength : ℤ
  sha256 : JsString
  deriving DecidableEq, Repr

/-- A manifest whose fields have the right types and literals. -/
structure RawManifest extends RecordingBinding where
  suiteId : JsString
  codec : JsString
  noncePrefixBase64url : JsString
  wrapping : ManifestWrapping
  durationMs : ℤ
  totalPlaintextBytes : ℤ
  totalObjectBytes : ℤ
  questionIntervals : Option (List Db.RawQuestionInterval)
  chunks : List RawManifestChunk
  parts : List RawManifestPart

def RawManifestChunk.ofJson (value : JsonValue) : Option RawManifestChunk := do
  let fields ← value.strictFields [js "index", js "nonce", js "plaintextBytes", js "sealedBytes",
    js "ciphertextSha256"]
  let index ← (field? (js "index") fields).bind integer
  let nonce ← (field? (js "nonce") fields).bind string
  let plaintextBytes ← (field? (js "plaintextBytes") fields).bind integer
  let sealedBytes ← (field? (js "sealedBytes") fields).bind integer
  let ciphertextSha256 ← (field? (js "ciphertextSha256") fields).bind string
  return { index, nonce, plaintextBytes, sealedBytes, ciphertextSha256 }

def RawManifestPart.ofJson (value : JsonValue) : Option RawManifestPart := do
  let fields ← value.strictFields [js "partNumber", js "firstChunkIndex", js "lastChunkIndex",
    js "byteLength", js "sha256"]
  let partNumber ← (field? (js "partNumber") fields).bind integer
  let firstChunkIndex ← (field? (js "firstChunkIndex") fields).bind integer
  let lastChunkIndex ← (field? (js "lastChunkIndex") fields).bind integer
  let byteLength ← (field? (js "byteLength") fields).bind integer
  let sha256 ← (field? (js "sha256") fields).bind string
  return { partNumber, firstChunkIndex, lastChunkIndex, byteLength, sha256 }

def manifestWrappingOfJson (value : JsonValue) : Option ManifestWrapping := do
  let fields ← value.strictFields [js "materialId", js "keyId", js "algorithm",
    js "wrappedKeySha256"]
  let materialId ← (field? (js "materialId") fields).bind string
  let keyId ← (field? (js "keyId") fields).bind string
  let algorithm ← (field? (js "algorithm") fields).bind (literal wrappingAlgorithm)
  let wrappedKeySha256 ← (field? (js "wrappedKeySha256") fields).bind string
  return { materialId, keyId, algorithm, wrappedKeySha256 }

def rawQuestionIntervalOfJson (value : JsonValue) : Option Db.RawQuestionInterval := do
  let fields ← value.strictFields [js "schemaVersion", js "intervalVersion", js "questionId",
    js "ordinal", js "startMs", js "endMs", js "recordedDurationMs", js "source"]
  let schemaVersion ← (field? (js "schemaVersion") fields).bind (literal (js "1"))
  let intervalVersion ← (field? (js "intervalVersion") fields).bind
    (literal proofQuestionIntervalVersion)
  let questionId ← (field? (js "questionId") fields).bind string
  let ordinal ← (field? (js "ordinal") fields).bind integer
  let startMs ← (field? (js "startMs") fields).bind integer
  let endMs ← (field? (js "endMs") fields).bind integer
  let recordedDurationMs ← (field? (js "recordedDurationMs") fields).bind integer
  let source ← (field? (js "source") fields).bind (literal proofQuestionIntervalSource)
  return { schemaVersion, intervalVersion, questionId, ordinal, startMs, endMs,
           recordedDurationMs, source }

/-- `ProofQuestionIntervalsV1Schema.optional()` -/
def rawQuestionIntervalsOfJson : Option JsonValue → Option (Option (List Db.RawQuestionInterval))
  | none => some none
  | some value => (value.items rawQuestionIntervalOfJson).map some

def RawManifest.ofJson (value : JsonValue) : Option RawManifest := do
  let fields ← value.strictFields [js "protocolVersion", js "suiteId", js "attemptId",
    js "headSha", js "objectId", js "codec", js "noncePrefixBase64url", js "wrapping",
    js "durationMs", js "totalPlaintextBytes", js "totalObjectBytes", js "questionIntervals",
    js "chunks", js "parts"]
  let protocolVersion ← (field? (js "protocolVersion") fields).bind integer
  guard (protocolVersion = recordingProtocolVersion)
  let suiteId ← (field? (js "suiteId") fields).bind (literal recordingSuiteId)
  let attemptId ← (field? (js "attemptId") fields).bind string
  let headSha ← (field? (js "headSha") fields).bind string
  let objectId ← (field? (js "objectId") fields).bind string
  let codec ← (field? (js "codec") fields).bind (literal recordingCodec)
  let noncePrefixBase64url ← (field? (js "noncePrefixBase64url") fields).bind string
  let wrapping ← (field? (js "wrapping") fields).bind manifestWrappingOfJson
  let durationMs ← (field? (js "durationMs") fields).bind integer
  let totalPlaintextBytes ← (field? (js "totalPlaintextBytes") fields).bind integer
  let totalObjectBytes ← (field? (js "totalObjectBytes") fields).bind integer
  let questionIntervals ← rawQuestionIntervalsOfJson (field? (js "questionIntervals") fields)
  let chunks ← (field? (js "chunks") fields).bind (items RawManifestChunk.ofJson)
  let parts ← (field? (js "parts") fields).bind (items RawManifestPart.ofJson)
  return { suiteId, attemptId, headSha, objectId, codec, noncePrefixBase64url, wrapping,
           durationMs, totalPlaintextBytes, totalObjectBytes, questionIntervals, chunks, parts }

/-! ## The checks of the fields -/

/-- The number checks refuse a negative number. -/
def RawManifestChunk.toChunk (raw : RawManifestChunk) : Option ManifestChunk := do
  let index ← raw.index.toNat?
  let plaintextBytes ← raw.plaintextBytes.toNat?
  let sealedBytes ← raw.sealedBytes.toNat?
  return { raw with index, plaintextBytes, sealedBytes }

def RawManifestPart.toPart (raw : RawManifestPart) : Option ManifestPart := do
  let partNumber ← raw.partNumber.toNat?
  let firstChunkIndex ← raw.firstChunkIndex.toNat?
  let lastChunkIndex ← raw.lastChunkIndex.toNat?
  let byteLength ← raw.byteLength.toNat?
  return { raw with partNumber, firstChunkIndex, lastChunkIndex, byteLength }

def rawIntervalsToIntervals :
    Option (List Db.RawQuestionInterval) → Option (Option (List ProofQuestionInterval))
  | none => some none
  | some raws => (raws.mapM Db.RawQuestionInterval.toInterval).map some

def RawManifest.toManifest (raw : RawManifest) : Option RecordingManifest := do
  let durationMs ← raw.durationMs.toNat?
  let totalPlaintextBytes ← raw.totalPlaintextBytes.toNat?
  let totalObjectBytes ← raw.totalObjectBytes.toNat?
  let questionIntervals ← rawIntervalsToIntervals raw.questionIntervals
  let chunks ← raw.chunks.mapM RawManifestChunk.toChunk
  let parts ← raw.parts.mapM RawManifestPart.toPart
  return { raw with
    protocolVersion := recordingProtocolVersion
    durationMs, totalPlaintextBytes, totalObjectBytes, questionIntervals, chunks, parts }

/-! ## The refinement

The sums are exact here; the platform rounds them beyond the safe integers, where a number check
has failed already and the issues of the refinement are only added to it. -/

/-- `buildChunkNonce` on any integer. -/
def buildIntegerChunkNonce (noncePrefix : Bytes) (chunkIndex : ℤ) :
    Except RecordingProtocolError Bytes := do
  rejectIf (noncePrefix.length ≠ noncePrefixBytes)
    ⟨.invalidNonce, "Nonce prefix must be 8 bytes"⟩
  rejectIf (maxSafeInteger < chunkIndex.natAbs ∨ chunkIndex < 0 ∨ (maxUint32 : ℤ) < chunkIndex)
    ⟨.invalidNonce, "Chunk index is outside uint32"⟩
  return noncePrefix ++ uint32be chunkIndex.toNat

namespace RawManifest

structure ChunkScan where
  plaintextTotal : ℤ
  objectTotal : ℤ
  nonces : List JsString
  chunkOffsets : List ℤ
  issues : List Issue
  deriving DecidableEq, Repr

def ChunkScan.start : ChunkScan := ⟨0, 0, [], [0], []⟩

def ChunkScan.visit (noncePrefix : Bytes) (scan : ChunkScan) :
    RawManifestChunk × ℕ → Except RecordingProtocolError ChunkScan
  | (chunk, index) => do
    let expectedNonce ← buildIntegerChunkNonce noncePrefix chunk.index
    let objectTotal := scan.objectTotal + (recordHeaderBytes + chunk.sealedBytes)
    return {
      plaintextTotal := scan.plaintextTotal + chunk.plaintextBytes
      objectTotal
      nonces := scan.nonces ++ [chunk.nonce]
      chunkOffsets := scan.chunkOffsets ++ [objectTotal]
      issues := scan.issues ++
        (issueIf (chunk.index ≠ index)
          "Chunk indices must be contiguous and start at zero"
          [.key "chunks", .index index, .key "index"] ++
        issueIf (chunk.sealedBytes ≠ chunk.plaintextBytes + aesGcmTagBytes)
          "Sealed length must equal plaintext length plus GCM tag"
          [.key "chunks", .index index, .key "sealedBytes"] ++
        issueIf (chunk.nonce ≠ encodeBase64Url expectedNonce)
          "Chunk nonce does not match prefix and index"
          [.key "chunks", .index index, .key "nonce"] ++
        issueIf (chunk.nonce ∈ scan.nonces)
          "Chunk nonces must be unique" [.key "chunks", .index index, .key "nonce"]) }

def scanChunks (noncePrefix : Bytes) (chunks : List RawManifestChunk) :
    Except RecordingProtocolError ChunkScan :=
  chunks.zipIdx.foldlM (ChunkScan.visit noncePrefix) ChunkScan.start

/-- The first chunk whose end lies behind `partStart`, or -1. -/
def expectedFirstChunk (chunkOffsets : List ℤ) (chunkCount : ℕ) (partStart : ℤ) : ℤ :=
  RecordingManifestSchema.findIndex
    (fun offset chunkIndex => decide (chunkIndex < chunkCount) &&
      decide (partStart < (chunkOffsets[chunkIndex + 1]?).getD offset))
    chunkOffsets

/-- The last chunk that starts before `partEnd`, or -1. -/
def expectedLastChunk (chunkOffsets : List ℤ) (chunkCount : ℕ) (partEnd : ℤ) : ℤ :=
  (List.range chunkCount).foldl
    (fun (last : ℤ) (chunkIndex : ℕ) => match chunkOffsets[chunkIndex]? with
      | some chunkStart => if chunkStart < partEnd then (chunkIndex : ℤ) else last
      | none => last)
    (-1)

structure PartScan where
  partByteTotal : ℤ
  issues : List Issue
  deriving DecidableEq, Repr

def PartScan.visit (raw : RawManifest) (chunkScan : ChunkScan) (scan : PartScan) :
    RawManifestPart × ℕ → PartScan
  | (part, index) =>
    let partStart := scan.partByteTotal
    let partEnd := partStart + part.byteLength
    let first := expectedFirstChunk chunkScan.chunkOffsets raw.chunks.length partStart
    let last := expectedLastChunk chunkScan.chunkOffsets raw.chunks.length partEnd
    { partByteTotal := scan.partByteTotal + part.byteLength
      issues := scan.issues ++
        (issueIf (part.partNumber ≠ index + 1)
          "Part numbers must be contiguous and start at one"
          [.key "parts", .index index, .key "partNumber"] ++
        issueIf (chunkScan.objectTotal < partEnd ∨ first < 0 ∨ last < first ∨
            part.firstChunkIndex ≠ first ∨ part.lastChunkIndex ≠ last)
          "Part chunk ranges must exactly identify every record intersected by the byte range"
          [.key "parts", .index index] ++
        issueIf (index + 1 < raw.parts.length ∧
            (part.byteLength < s3MinimumNonfinalPartBytes ∨
              part.byteLength ≠ multipartTargetBytes))
          "Every non-final multipart part must use the fixed target size"
          [.key "parts", .index index, .key "byteLength"]) }

def scanParts (raw : RawManifest) (chunkScan : ChunkScan) : PartScan :=
  raw.parts.zipIdx.foldl (PartScan.visit raw chunkScan) ⟨0, []⟩

/-- The refinement on every manifest of the right types. -/
def superRefine (raw : RawManifest) : Except RecordingProtocolError (List Issue) := do
  let noncePrefix ← decodeBase64Url raw.noncePrefixBase64url
  let chunkScan ← scanChunks noncePrefix raw.chunks
  let partScan := scanParts raw chunkScan
  return chunkScan.issues ++
    issueIf (raw.totalPlaintextBytes ≠ chunkScan.plaintextTotal)
      "Plaintext byte total does not match chunks" [.key "totalPlaintextBytes"] ++
    issueIf (raw.totalObjectBytes ≠ chunkScan.objectTotal)
      "Object byte total does not match chunk records" [.key "totalObjectBytes"] ++
    partScan.issues ++
    issueIf (partScan.partByteTotal ≠ raw.totalObjectBytes)
      "Part byte total does not match object size" [.key "parts"]

end RawManifest

/-- An aborting issue. -/
def orZod {α : Type} : Option α → Except Thrown α
  | some a => .ok a
  | none => .error .zod

/-- `RecordingManifestSchema.parse`: the refinement runs on every manifest of the right types,
and its issues are reported together with those of the fields. -/
def RecordingManifestSchema.parse (value : JsonValue) : Except Thrown RecordingManifest := do
  let raw ← orZod (RawManifest.ofJson value)
  let issues ← orThrow raw.superRefine
  let manifest ← orZod raw.toManifest
  rejectIf (Media.RecordingManifestSchema.shape manifest = false ∨ issues ≠ []) .zod
  return manifest

/-! ## The envelope -/

def wrappedMasterKeyOfJson (value : JsonValue) : Option WrappedMasterKey := do
  let fields ← value.strictFields [js "materialId", js "keyId", js "algorithm",
    js "wrappedKeyBase64url", js "wrappedKeySha256"]
  let materialId ← (field? (js "materialId") fields).bind string
  let keyId ← (field? (js "keyId") fields).bind string
  let algorithm ← (field? (js "algorithm") fields).bind string
  let wrappedKeyBase64url ← (field? (js "wrappedKeyBase64url") fields).bind string
  let wrappedKeySha256 ← (field? (js "wrappedKeySha256") fields).bind string
  return { materialId, keyId, algorithm, wrappedKeyBase64url, wrappedKeySha256 }

def uploadedPartReceiptOfJson (value : JsonValue) : Option UploadedPartReceipt := do
  let fields ← value.strictFields [js "partNumber", js "etag"]
  let partNumber ← (field? (js "partNumber") fields).bind fun value =>
    value.integer.bind Int.toNat?
  let etag ← (field? (js "etag") fields).bind string
  return { partNumber, etag }

/-- The fields behind the manifest; no check of them can raise, and neither can the refinement of
the envelope. -/
def finalizeRecordingOfJson (manifest : RecordingManifest)
    (fields : List (JsString × JsonValue)) : Option FinalizeRecording := do
  let manifestTagBase64url ← (field? (js "manifestTagBase64url") fields).bind string
  let manifestDigest ← (field? (js "manifestDigest") fields).bind string
  let wrappedKey ← (field? (js "wrappedKey") fields).bind wrappedMasterKeyOfJson
  let uploadedParts ← (field? (js "uploadedParts") fields).bind (items uploadedPartReceiptOfJson)
  let _ ← strictFields [js "manifest", js "manifestTagBase64url", js "manifestDigest",
    js "wrappedKey", js "uploadedParts"] (.obj fields)
  return { manifest, manifestTagBase64url, manifestDigest, wrappedKey, uploadedParts }

/-- `FinalizeRecordingSchema.parse`: the manifest is validated, its refinement included, whatever
the other fields hold. -/
def FinalizeRecordingSchema.parse : JsonValue → Except Thrown FinalizeRecording
  | .obj fields => do
      let value ← orZod (field? (js "manifest") fields)
      let manifest ← RecordingManifestSchema.parse value
      let finalization ← orZod (finalizeRecordingOfJson manifest fields)
      rejectIf (Media.FinalizeRecordingSchema.accepts finalization = false) .zod
      return finalization
  | _ => .error .zod

/-- The status of the finalize route for an error of its schema. -/
def finalizeErrorStatus : Thrown → ℕ
  | .zod => 400
  | .protocol _ | .error _ => 503

/-! ## What a valid manifest becomes -/

def RawManifestChunk.ofChunk (chunk : ManifestChunk) : RawManifestChunk where
  index := chunk.index
  nonce := chunk.nonce
  plaintextBytes := chunk.plaintextBytes
  sealedBytes := chunk.sealedBytes
  ciphertextSha256 := chunk.ciphertextSha256

def RawManifestPart.ofPart (part : ManifestPart) : RawManifestPart where
  partNumber := part.partNumber
  firstChunkIndex := part.firstChunkIndex
  lastChunkIndex := part.lastChunkIndex
  byteLength := part.byteLength
  sha256 := part.sha256

def RawManifest.ofManifest (manifest : RecordingManifest) : RawManifest where
  toRecordingBinding := manifest.toRecordingBinding
  suiteId := manifest.suiteId
  codec := manifest.codec
  noncePrefixBase64url := manifest.noncePrefixBase64url
  wrapping := manifest.wrapping
  durationMs := manifest.durationMs
  totalPlaintextBytes := manifest.totalPlaintextBytes
  totalObjectBytes := manifest.totalObjectBytes
  questionIntervals := manifest.questionIntervals.map
    (List.map Db.RawQuestionInterval.ofInterval)
  chunks := manifest.chunks.map RawManifestChunk.ofChunk
  parts := manifest.parts.map RawManifestPart.ofPart

theorem mapM_eq_some_iff_of {α β : Type} {f : α → Option β} {g : β → α}
    (h : ∀ a b, f a = some b ↔ a = g b) {l : List α} {m : List β} :
    l.mapM f = some m ↔ l = m.map g := by
  induction l generalizing m with
  | nil => cases m <;> simp
  | cons a l ih =>
      rw [List.mapM_cons]
      simp only [Option.bind_eq_bind, Option.bind_eq_some_iff, h, ih, Option.pure_def,
        Option.some.injEq]
      constructor
      · rintro ⟨b, rfl, rest, rfl, rfl⟩
        rfl
      · intro hmap
        obtain ⟨b, rest, rfl, rfl, rfl⟩ := List.map_eq_cons_iff.mp hmap.symm
        exact ⟨b, rfl, rest, rfl, rfl⟩

theorem toChunk_eq_some_iff (raw : RawManifestChunk) (chunk : ManifestChunk) :
    raw.toChunk = some chunk ↔ raw = .ofChunk chunk := by
  obtain ⟨index, nonce, plaintextBytes, sealedBytes, sha⟩ := raw
  obtain ⟨index', nonce', plaintextBytes', sealedBytes', sha'⟩ := chunk
  simp only [RawManifestChunk.toChunk, RawManifestChunk.ofChunk, Option.bind_eq_bind,
    Option.bind_eq_some_iff, Int.mem_toNat?, Option.pure_def, Option.some.injEq,
    RawManifestChunk.mk.injEq, ManifestChunk.mk.injEq]
  constructor
  · rintro ⟨_, rfl, _, rfl, _, rfl, rfl, rfl, rfl, rfl, rfl⟩
    exact ⟨rfl, rfl, rfl, rfl, rfl⟩
  · rintro ⟨rfl, rfl, rfl, rfl, rfl⟩
    exact ⟨_, rfl, _, rfl, _, rfl, rfl, rfl, rfl, rfl, rfl⟩

theorem toPart_eq_some_iff (raw : RawManifestPart) (part : ManifestPart) :
    raw.toPart = some part ↔ raw = .ofPart part := by
  obtain ⟨number, first, last, length, sha⟩ := raw
  obtain ⟨number', first', last', length', sha'⟩ := part
  simp only [RawManifestPart.toPart, RawManifestPart.ofPart, Option.bind_eq_bind,
    Option.bind_eq_some_iff, Int.mem_toNat?, Option.pure_def, Option.some.injEq,
    RawManifestPart.mk.injEq, ManifestPart.mk.injEq]
  constructor
  · rintro ⟨_, rfl, _, rfl, _, rfl, _, rfl, rfl, rfl, rfl, rfl, rfl⟩
    exact ⟨rfl, rfl, rfl, rfl, rfl⟩
  · rintro ⟨rfl, rfl, rfl, rfl, rfl⟩
    exact ⟨_, rfl, _, rfl, _, rfl, _, rfl, rfl, rfl, rfl, rfl, rfl⟩

theorem rawIntervalsToIntervals_eq_some_iff {raws : Option (List Db.RawQuestionInterval)}
    {intervals : Option (List ProofQuestionInterval)} :
    rawIntervalsToIntervals raws = some intervals ↔
      raws = intervals.map (List.map Db.RawQuestionInterval.ofInterval) := by
  cases raws with
  | none => cases intervals <;> simp [rawIntervalsToIntervals]
  | some raws =>
      cases intervals <;>
        simp [rawIntervalsToIntervals,
          mapM_eq_some_iff_of fun _ _ => Db.toInterval_eq_some_iff]

theorem toManifest_eq_some_iff {raw : RawManifest} {manifest : RecordingManifest} :
    raw.toManifest = some manifest ↔
      raw = .ofManifest manifest ∧ manifest.protocolVersion = recordingProtocolVersion := by
  obtain ⟨binding, suite, codec, pre, wrap, duration, plain, object, intervals, chunks, parts⟩ := raw
  obtain ⟨binding', version', suite', codec', pre', wrap', duration', plain', object', intervals',
    chunks', parts'⟩ := manifest
  simp only [RawManifest.toManifest, RawManifest.ofManifest, Option.bind_eq_bind,
    Option.bind_eq_some_iff, Int.mem_toNat?, Option.pure_def, Option.some.injEq,
    RawManifest.mk.injEq, RecordingManifest.mk.injEq, rawIntervalsToIntervals_eq_some_iff,
    mapM_eq_some_iff_of toChunk_eq_some_iff, mapM_eq_some_iff_of toPart_eq_some_iff]
  constructor
  · rintro ⟨_, rfl, _, rfl, _, rfl, _, rfl, _, rfl, _, rfl, rfl, rfl, rfl, rfl, rfl, rfl, rfl, rfl,
      rfl, rfl, rfl, rfl⟩
    exact ⟨⟨rfl, rfl, rfl, rfl, rfl, rfl, rfl, rfl, rfl, rfl, rfl⟩, rfl⟩
  · rintro ⟨⟨rfl, rfl, rfl, rfl, rfl, rfl, rfl, rfl, rfl, rfl, rfl⟩, rfl⟩
    exact ⟨_, rfl, _, rfl, _, rfl, _, rfl, _, rfl, _, rfl, rfl, rfl, rfl, rfl, rfl, rfl, rfl,
      rfl, rfl, rfl, rfl, rfl⟩

/-! ## The refinement on a valid manifest -/

theorem buildIntegerChunkNonce_natCast (noncePrefix : Bytes) (chunkIndex : ℕ) :
    buildIntegerChunkNonce noncePrefix chunkIndex = buildChunkNonce noncePrefix chunkIndex := by
  have hbound : (maxSafeInteger < (chunkIndex : ℤ).natAbs ∨ (chunkIndex : ℤ) < 0 ∨
      (maxUint32 : ℤ) < chunkIndex) ↔ (maxSafeInteger < chunkIndex ∨ maxUint32 < chunkIndex) := by
    omega
  simp only [buildIntegerChunkNonce, buildChunkNonce, hbound, Int.toNat_natCast]

namespace RawManifest

def ChunkScan.ofScan (scan : Media.RecordingManifestSchema.ChunkScan) : ChunkScan where
  plaintextTotal := scan.plaintextTotal
  objectTotal := scan.objectTotal
  nonces := scan.nonces
  chunkOffsets := scan.chunkOffsets.map Nat.cast
  issues := scan.issues

theorem foldlM_map_comm {ε σ τ α β : Type} {f : σ → α → Except ε σ} {f' : τ → β → Except ε τ}
    {g : σ → τ} {h : α → β} (hcomm : ∀ s a, f' (g s) (h a) = g <$> f s a) (l : List α) (s : σ) :
    (l.map h).foldlM f' (g s) = g <$> l.foldlM f s := by
  induction l generalizing s with
  | nil => rfl
  | cons a l ih =>
      rw [List.map_cons, List.foldlM_cons, List.foldlM_cons, hcomm]
      cases f s a with
      | error e => rfl
      | ok next => exact ih next

theorem visit_ofScan (noncePrefix : Bytes) (scan : Media.RecordingManifestSchema.ChunkScan)
    (entry : ManifestChunk × ℕ) :
    (ChunkScan.ofScan scan).visit noncePrefix (entry.map RawManifestChunk.ofChunk id) =
      ChunkScan.ofScan <$> scan.visit noncePrefix entry := by
  obtain ⟨chunk, index⟩ := entry
  have hsealed : ((chunk.sealedBytes : ℤ) ≠ chunk.plaintextBytes + aesGcmTagBytes) ↔
      chunk.sealedBytes ≠ chunk.plaintextBytes + aesGcmTagBytes := by omega
  simp only [ChunkScan.visit, Media.RecordingManifestSchema.ChunkScan.visit, Prod.map, id_eq,
    RawManifestChunk.ofChunk, buildIntegerChunkNonce_natCast]
  cases buildChunkNonce noncePrefix chunk.index with
  | error e => rfl
  | ok nonce =>
      simp only [except_ok_bind, except_pure, except_map_ok, ChunkScan.ofScan, ne_eq,
        Nat.cast_inj, Nat.cast_add, List.map_append, List.map_cons, List.map_nil] at hsealed ⊢
      simp only [hsealed]
      rfl

theorem scanChunks_ofManifest (noncePrefix : Bytes) (chunks : List ManifestChunk) :
    scanChunks noncePrefix (chunks.map RawManifestChunk.ofChunk) =
      ChunkScan.ofScan <$> Media.RecordingManifestSchema.scanChunks noncePrefix chunks := by
  rw [scanChunks, List.zipIdx_map, Media.RecordingManifestSchema.scanChunks]
  exact foldlM_map_comm (visit_ofScan noncePrefix) chunks.zipIdx .start

theorem expectedFirstChunk_map (offsets : List ℕ) (count start : ℕ) :
    expectedFirstChunk (offsets.map Nat.cast) count start =
      Media.RecordingManifestSchema.expectedFirstChunk offsets count start := by
  rw [expectedFirstChunk, Media.RecordingManifestSchema.expectedFirstChunk,
    Media.RecordingManifestSchema.findIndex, Media.RecordingManifestSchema.findIndex,
    List.zipIdx_map, List.findIdx?_map]
  simp only [Function.comp_def, Prod.map, id_eq, List.getElem?_map, Option.getD_map, Nat.cast_lt]

theorem expectedLastChunk_map (offsets : List ℕ) (count stop : ℕ) :
    expectedLastChunk (offsets.map Nat.cast) count stop =
      Media.RecordingManifestSchema.expectedLastChunk offsets count stop := by
  rw [expectedLastChunk, Media.RecordingManifestSchema.expectedLastChunk]
  refine congrArg (fun step => List.foldl step (-1) (List.range count)) ?_
  funext last index
  rw [List.getElem?_map]
  cases offsets[index]? with
  | none => rfl
  | some offset =>
      simp only [Option.map_some, Nat.cast_lt]

def PartScan.ofScan (scan : Media.RecordingManifestSchema.PartScan) : PartScan where
  partByteTotal := scan.partByteTotal
  issues := scan.issues

theorem partVisit_ofScan (manifest : RecordingManifest)
    (chunkScan : Media.RecordingManifestSchema.ChunkScan)
    (scan : Media.RecordingManifestSchema.PartScan) (entry : ManifestPart × ℕ) :
    (PartScan.ofScan scan).visit (ofManifest manifest) (ChunkScan.ofScan chunkScan)
        (entry.map RawManifestPart.ofPart id) =
      PartScan.ofScan (scan.visit manifest chunkScan entry) := by
  obtain ⟨part, index⟩ := entry
  have hend : (scan.partByteTotal : ℤ) + part.byteLength =
      ((scan.partByteTotal + part.byteLength : ℕ) : ℤ) := (Nat.cast_add _ _).symm
  have hnumber : ((part.partNumber : ℤ) ≠ index + 1) ↔ part.partNumber ≠ index + 1 := by omega
  simp only [PartScan.visit, Media.RecordingManifestSchema.PartScan.visit, Prod.map, id_eq,
    RawManifestPart.ofPart, PartScan.ofScan, ChunkScan.ofScan, ofManifest, List.length_map, hend,
    expectedFirstChunk_map, expectedLastChunk_map, Nat.cast_lt, Nat.cast_inj, ne_eq]
    at hnumber ⊢
  simp only [hnumber]

theorem scanParts_ofManifest (manifest : RecordingManifest)
    (chunkScan : Media.RecordingManifestSchema.ChunkScan) :
    scanParts (ofManifest manifest) (ChunkScan.ofScan chunkScan) =
      PartScan.ofScan (Media.RecordingManifestSchema.scanParts manifest chunkScan) := by
  rw [scanParts, Media.RecordingManifestSchema.scanParts]
  have hparts : (ofManifest manifest).parts.zipIdx =
      manifest.parts.zipIdx.map (Prod.map RawManifestPart.ofPart id) := List.zipIdx_map ..
  rw [hparts, List.foldl_map]
  exact @List.foldl_hom _ _ _ PartScan.ofScan _
    (fun (scan : PartScan) (entry : ManifestPart × ℕ) => scan.visit (ofManifest manifest)
      (ChunkScan.ofScan chunkScan) (entry.map RawManifestPart.ofPart id))
    _ ⟨0, []⟩ (partVisit_ofScan manifest chunkScan)

/-- On a manifest of natural numbers the refinement is the one of the schema. -/
theorem superRefine_ofManifest (manifest : RecordingManifest) :
    (ofManifest manifest).superRefine = Media.RecordingManifestSchema.superRefine manifest := by
  rw [superRefine, Media.RecordingManifestSchema.superRefine]
  cases hprefix : decodeBase64Url manifest.noncePrefixBase64url with
  | error e =>
      have : decodeBase64Url (ofManifest manifest).noncePrefixBase64url = .error e := hprefix
      rw [this]
      rfl
  | ok noncePrefix =>
      have : decodeBase64Url (ofManifest manifest).noncePrefixBase64url = .ok noncePrefix :=
        hprefix
      have hchunks : scanChunks noncePrefix (ofManifest manifest).chunks = _ :=
        scanChunks_ofManifest noncePrefix manifest.chunks
      rw [this, except_ok_bind, except_ok_bind, hchunks]
      cases Media.RecordingManifestSchema.scanChunks noncePrefix manifest.chunks with
      | error e => rfl
      | ok scan =>
          simp only [except_map_ok, except_ok_bind, scanParts_ofManifest, except_pure]
          simp only [ChunkScan.ofScan, PartScan.ofScan, ofManifest, ne_eq, Nat.cast_inj]

end RawManifest

@[simp] theorem orZod_eq_ok {α : Type} {x : Option α} {a : α} :
    orZod x = .ok a ↔ x = some a := by
  cases x <;> simp [orZod]

/-- The schema on JSON accepts what the schema on records accepts. -/
theorem RecordingManifestSchema.parse_eq_ok_iff {value : JsonValue}
    {manifest : RecordingManifest} :
    RecordingManifestSchema.parse value = .ok manifest ↔
      RawManifest.ofJson value = some (.ofManifest manifest) ∧
        Media.RecordingManifestSchema.accepts manifest = true := by
  simp only [RecordingManifestSchema.parse, Media.RecordingManifestSchema.accepts,
    Bool.and_eq_true, bind_eq_ok, orZod_eq_ok, orThrow_eq_ok, rejectIf_eq_ok, exists_const, not_or,
    Bool.not_eq_false, ne_eq, not_not, except_pure, Except.ok.injEq, toManifest_eq_some_iff]
  constructor
  · rintro ⟨_, hraw, _, hissues, _, ⟨rfl, -⟩, ⟨hshape, rfl⟩, rfl⟩
    rw [RawManifest.superRefine_ofManifest] at hissues
    exact ⟨hraw, hshape, by rw [hissues]; rfl⟩
  · rintro ⟨hraw, hshape, hissues⟩
    have hversion : manifest.protocolVersion = recordingProtocolVersion := by
      simp only [Media.RecordingManifestSchema.shape, Bool.and_eq_true, beq_iff_eq] at hshape
      tauto
    refine ⟨_, hraw, [], ?_, _, ⟨rfl, hversion⟩, ⟨hshape, rfl⟩, rfl⟩
    rw [RawManifest.superRefine_ofManifest]
    split at hissues
    · rename_i issues hok
      rw [hok, List.isEmpty_iff.mp hissues]
    · cases hissues

/-! ## When the refinement raises -/

/-- The nonce prefix decodes, to eight bytes where there is a chunk, and every index is one that
a nonce can hold. -/
def RawManifest.NoncesCanBeBuilt (raw : RawManifest) : Prop :=
  ∃ noncePrefix, decodeBase64Url raw.noncePrefixBase64url = .ok noncePrefix ∧
    (raw.chunks ≠ [] → noncePrefix.length = noncePrefixBytes) ∧
    ∀ chunk ∈ raw.chunks, 0 ≤ chunk.index ∧ chunk.index ≤ maxUint32

theorem buildIntegerChunkNonce_isOk {noncePrefix : Bytes} {chunkIndex : ℤ} :
    (∃ nonce, buildIntegerChunkNonce noncePrefix chunkIndex = .ok nonce) ↔
      noncePrefix.length = noncePrefixBytes ∧ 0 ≤ chunkIndex ∧ chunkIndex ≤ maxUint32 := by
  have hbound : ¬ (maxSafeInteger < chunkIndex.natAbs ∨ chunkIndex < 0 ∨
      (maxUint32 : ℤ) < chunkIndex) ↔ 0 ≤ chunkIndex ∧ chunkIndex ≤ maxUint32 := by
    simp only [maxSafeInteger, maxUint32]
    omega
  simp only [buildIntegerChunkNonce, rejectIf_bind_eq_ok, hbound, not_not, except_pure,
    Except.ok.injEq, exists_and_left, exists_eq', and_true]

theorem foldlM_isOk_iff {ε σ α : Type} {step : σ → α → Except ε σ} {P : α → Prop}
    (hstep : ∀ s a, (∃ t, step s a = .ok t) ↔ P a) {l : List α} {s : σ} :
    (∃ t, l.foldlM step s = .ok t) ↔ ∀ a ∈ l, P a := by
  induction l generalizing s with
  | nil => simp
  | cons a l ih =>
      rw [List.forall_mem_cons, ← hstep s a]
      simp only [List.foldlM_cons, bind_eq_ok]
      constructor
      · rintro ⟨t, next, hnext, hrest⟩
        exact ⟨⟨next, hnext⟩, ih.mp ⟨t, hrest⟩⟩
      · rintro ⟨⟨next, hnext⟩, hrest⟩
        obtain ⟨t, ht⟩ := ih.mpr hrest
        exact ⟨t, next, hnext, ht⟩

theorem RawManifest.scanChunks_isOk {noncePrefix : Bytes} {chunks : List RawManifestChunk} :
    (∃ scan, scanChunks noncePrefix chunks = .ok scan) ↔
      ∀ chunk ∈ chunks, noncePrefix.length = noncePrefixBytes ∧
        0 ≤ chunk.index ∧ chunk.index ≤ maxUint32 := by
  have hvisit : ∀ (scan : ChunkScan) (entry : RawManifestChunk × ℕ),
      (∃ next, scan.visit noncePrefix entry = .ok next) ↔
        noncePrefix.length = noncePrefixBytes ∧ 0 ≤ entry.1.index ∧
          entry.1.index ≤ maxUint32 := by
    rintro scan ⟨chunk, index⟩
    rw [← buildIntegerChunkNonce_isOk]
    simp only [ChunkScan.visit]
    cases buildIntegerChunkNonce noncePrefix chunk.index <;> simp
  rw [scanChunks, foldlM_isOk_iff hvisit]
  constructor
  · intro h chunk hchunk
    obtain ⟨index, hindex⟩ := List.mem_iff_getElem?.mp hchunk
    exact h (chunk, index) (List.mem_zipIdx_iff_getElem?.mpr hindex)
  · intro h entry hentry
    exact h entry.1 (List.fst_mem_of_mem_zipIdx hentry)

theorem RawManifest.superRefine_isOk {raw : RawManifest} :
    (∃ issues, raw.superRefine = .ok issues) ↔ raw.NoncesCanBeBuilt := by
  rw [superRefine, NoncesCanBeBuilt]
  cases decodeBase64Url raw.noncePrefixBase64url with
  | error e => simp
  | ok noncePrefix =>
      have hscan := @scanChunks_isOk noncePrefix raw.chunks
      simp only [except_ok_bind, bind_eq_ok, except_pure, Except.ok.injEq]
      constructor
      · rintro ⟨issues, scan, hok, -⟩
        have hall := hscan.mp ⟨scan, hok⟩
        refine ⟨noncePrefix, rfl, fun hne => ?_, fun chunk hchunk => (hall chunk hchunk).2⟩
        obtain ⟨chunk, hchunk⟩ := List.exists_mem_of_ne_nil _ hne
        exact (hall chunk hchunk).1
      · rintro ⟨_, rfl, hlength, hindex⟩
        obtain ⟨scan, hok⟩ := hscan.mpr fun chunk hchunk =>
          ⟨hlength (List.ne_nil_of_mem hchunk), hindex chunk hchunk⟩
        exact ⟨_, scan, hok, rfl⟩

/-- A value is accepted, or its failure is one of the schema. -/
def AcceptsOrReports {α : Type} (outcome : Except Thrown α) : Prop :=
  ∀ error, outcome = .error error → error = .zod

namespace AcceptsOrReports

variable {α β : Type}

theorem ok (a : α) : AcceptsOrReports (.ok a) := fun _ h => nomatch h

theorem zod : AcceptsOrReports (.error .zod : Except Thrown α) :=
  fun _ h => (Except.error.inj h).symm

theorem bind_iff {x : Except Thrown α} {f : α → Except Thrown β} :
    AcceptsOrReports (x >>= f) ↔
      AcceptsOrReports x ∧ ∀ a, x = .ok a → AcceptsOrReports (f a) := by
  cases x with
  | ok a => simp [ok]
  | error e =>
      constructor
      · exact fun h => ⟨fun e' he' => h e' (congrArg _ (Except.error.inj he')), fun a h => nomatch h⟩
      · exact fun h e' he' => h.1 e' (congrArg _ (Except.error.inj he'))

theorem orZod (x : Option α) : AcceptsOrReports (orZod x) := by
  cases x with
  | none => exact zod
  | some a => exact ok a

theorem rejectIf_zod (c : Prop) [Decidable c] : AcceptsOrReports (rejectIf c .zod) :=
  fun _ h => (rejectIf_eq_error.mp h).2.symm

theorem orThrow_iff {x : Except RecordingProtocolError α} :
    AcceptsOrReports (orThrow x) ↔ ∃ a, x = .ok a := by
  cases x with
  | ok a => simp [ok]
  | error e => simp [AcceptsOrReports]

end AcceptsOrReports

theorem RecordingManifestSchema.acceptsOrReports_iff {value : JsonValue} :
    AcceptsOrReports (RecordingManifestSchema.parse value) ↔
      ∀ raw, RawManifest.ofJson value = some raw → raw.NoncesCanBeBuilt := by
  rw [RecordingManifestSchema.parse, AcceptsOrReports.bind_iff]
  simp only [AcceptsOrReports.orZod, true_and, orZod_eq_ok]
  refine forall₂_congr fun raw _ => ?_
  rw [AcceptsOrReports.bind_iff, AcceptsOrReports.orThrow_iff, RawManifest.superRefine_isOk]
  refine and_iff_left fun issues _ => AcceptsOrReports.bind_iff.mpr ⟨.orZod _, fun manifest _ => ?_⟩
  exact AcceptsOrReports.bind_iff.mpr ⟨.rejectIf_zod _, fun _ _ => .ok _⟩

theorem FinalizeRecordingSchema.acceptsOrReports_iff {value : JsonValue} :
    AcceptsOrReports (FinalizeRecordingSchema.parse value) ↔
      ∀ fields manifest, value = .obj fields → field? (js "manifest") fields = some manifest →
        AcceptsOrReports (RecordingManifestSchema.parse manifest) := by
  cases value with
  | obj fields =>
      rw [FinalizeRecordingSchema.parse, AcceptsOrReports.bind_iff]
      simp only [AcceptsOrReports.orZod, true_and, orZod_eq_ok]
      constructor
      · rintro h _ manifest ⟨⟩ hmanifest
        exact (AcceptsOrReports.bind_iff.mp (h manifest hmanifest)).1
      · intro h manifest hmanifest
        refine AcceptsOrReports.bind_iff.mpr ⟨h fields manifest rfl hmanifest, fun _ _ => ?_⟩
        refine AcceptsOrReports.bind_iff.mpr ⟨.orZod _, fun _ _ => ?_⟩
        exact AcceptsOrReports.bind_iff.mpr ⟨.rejectIf_zod _, fun _ _ => .ok _⟩
  | _ => exact iff_of_true .zod (fun _ _ h => by cases h)

theorem finalizeErrorStatus_eq_iff {error : Thrown} :
    finalizeErrorStatus error = 400 ↔ error = .zod := by
  cases error <;> simp [finalizeErrorStatus]

/-- Validation accepts or reports exactly where the nonces of the manifest can be built, and only
there the finalize route answers a refused envelope with 400. -/
theorem validation_reports_iff (value : JsonValue) :
    (AcceptsOrReports (RecordingManifestSchema.parse value) ↔
      ∀ raw, RawManifest.ofJson value = some raw → raw.NoncesCanBeBuilt) ∧
    (AcceptsOrReports (FinalizeRecordingSchema.parse value) ↔
      ∀ fields manifest raw, value = .obj fields → field? (js "manifest") fields = some manifest →
        RawManifest.ofJson manifest = some raw → raw.NoncesCanBeBuilt) ∧
    ((∀ error, FinalizeRecordingSchema.parse value = .error error →
        finalizeErrorStatus error = 400) ↔
      AcceptsOrReports (FinalizeRecordingSchema.parse value)) := by
  refine ⟨RecordingManifestSchema.acceptsOrReports_iff, ?_, ?_⟩
  · rw [FinalizeRecordingSchema.acceptsOrReports_iff]
    simp only [RecordingManifestSchema.acceptsOrReports_iff]
    exact ⟨fun h fields manifest raw hvalue hmanifest => h fields manifest hvalue hmanifest raw,
      fun h fields manifest hvalue hmanifest raw => h fields manifest raw hvalue hmanifest⟩
  · exact forall₂_congr fun error _ => finalizeErrorStatus_eq_iff

/-- A manifest of one chunk under a nonce prefix. -/
def sampleManifestJson (noncePrefix : JsString) : JsonValue :=
  let zeros := List.replicate 64 0x30
  let uuid := js "00000000-0000-0000-0000-000000000000"
  .obj [(js "protocolVersion", .num 1), (js "suiteId", .str recordingSuiteId),
    (js "attemptId", .str uuid), (js "headSha", .str (zeros.take 40)), (js "objectId", .str uuid),
    (js "codec", .str recordingCodec), (js "noncePrefixBase64url", .str noncePrefix),
    (js "wrapping", .obj [(js "materialId", .str uuid), (js "keyId", .str (js "key")),
      (js "algorithm", .str wrappingAlgorithm), (js "wrappedKeySha256", .str zeros)]),
    (js "durationMs", .num 1000), (js "totalPlaintextBytes", .num 1),
    (js "totalObjectBytes", .num 49),
    (js "chunks", .arr [.obj [(js "index", .num 0), (js "nonce", .str (js "AAAAAAAAAAAAAAAA")),
      (js "plaintextBytes", .num 1), (js "sealedBytes", .num 17),
      (js "ciphertextSha256", .str zeros)]]),
    (js "parts", .arr [.obj [(js "partNumber", .num 1), (js "firstChunkIndex", .num 0),
      (js "lastChunkIndex", .num 0), (js "byteLength", .num 49), (js "sha256", .str zeros)]])]

def sampleFinalizationJson (noncePrefix : JsString) : JsonValue :=
  let zeros := List.replicate 64 0x30
  .obj [(js "manifest", sampleManifestJson noncePrefix),
    (js "manifestTagBase64url", .str (List.replicate 43 0x41)),
    (js "manifestDigest", .str zeros),
    (js "wrappedKey", .obj [(js "materialId", .str (js "00000000-0000-0000-0000-000000000000")),
      (js "keyId", .str (js "key")), (js "algorithm", .str wrappingAlgorithm),
      (js "wrappedKeyBase64url", .str (js "AAAA")), (js "wrappedKeySha256", .str zeros)]),
    (js "uploadedParts", .arr [.obj [(js "partNumber", .num 1), (js "etag", .str (js "e"))]])]

example : (FinalizeRecordingSchema.parse (sampleFinalizationJson (js "AAAAAAAAAAA"))).isOk := by
  decide +kernel

/-- The prefix `!` fails its format check, and the refinement raises on it. -/
theorem validation_raises_sample :
    RecordingManifestSchema.parse (sampleManifestJson (js "!")) =
        .error (.protocol notCanonicalBase64Url) ∧
      FinalizeRecordingSchema.parse (sampleFinalizationJson (js "!")) =
        .error (.protocol notCanonicalBase64Url) ∧
      ¬ ∀ value, AcceptsOrReports (RecordingManifestSchema.parse value) := by
  have hmanifest : RecordingManifestSchema.parse (sampleManifestJson (js "!")) =
      .error (.protocol notCanonicalBase64Url) := by decide
  refine ⟨hmanifest, by decide, fun h => ?_⟩
  exact nomatch h (sampleManifestJson (js "!")) _ hmanifest

end Web

end UnderstandProof
