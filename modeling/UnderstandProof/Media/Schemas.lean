import UnderstandProof.Foundation.Tiling
import UnderstandProof.Media.QuestionIntervals
import UnderstandProof.Media.Records

/-!
# Schemas of the recording protocol

The records that the protocol exchanges and the checks of their schemas. A
manifest is checked in two stages: the shape of its fields, and a refinement
that walks over the chunks and the parts and recomputes from the chunk offsets
which chunks each part meets.
-/

open Foundation

namespace UnderstandProof

namespace Media

/-! ## Strings -/

/-- Five groups of lowercase hexadecimal digits. -/
def CanonicalUuidSchema.accepts (value : JsString) : Bool :=
  value.length == 36 &&
    value.zipIdx.all fun (c, i) =>
      if i == 8 || i == 13 || i == 18 || i == 23 then c == 0x2d else isLowerHex c

def HeadShaSchema.accepts (value : JsString) : Bool :=
  value.length == 40 && value.all isLowerHex

def Sha256Schema.accepts (value : JsString) : Bool :=
  value.length == 64 && value.all isLowerHex

def isAlphanumeric (c : UInt16) : Bool :=
  (0x41 ≤ c && c ≤ 0x5a) || (0x61 ≤ c && c ≤ 0x7a) || (0x30 ≤ c && c ≤ 0x39)

/-- A letter or digit, then at most 127 letters, digits, dots, underscores,
colons, slashes or hyphens. -/
def keyIdPattern (value : JsString) : Bool :=
  1 ≤ value.length && value.length ≤ 128 && value.head?.any isAlphanumeric &&
    value.all fun c =>
      isAlphanumeric c || c == 0x2e || c == 0x5f || c == 0x3a || c == 0x2f || c == 0x2d

def hasDecodedLength (value : JsString) (expectedBytes : ℕ) : Bool :=
  match decodeBase64Url value with
  | .ok bytes => bytes.length == expectedBytes
  | .error _ => false

def Base64UrlSchema.accepts (value : JsString) : Bool :=
  (value.all fun c => isAlphanumeric c || c == 0x5f || c == 0x2d) &&
    match decodeBase64Url value with
    | .ok _ => true
    | .error _ => false

theorem base64UrlChar_accepted : ∀ digit < 64, (isAlphanumeric (base64UrlChar digit) ||
    base64UrlChar digit == 0x5f || base64UrlChar digit == 0x2d) = true := by
  decide +kernel

@[simp] theorem Base64UrlSchema.accepts_encode (value : Bytes) :
    Base64UrlSchema.accepts (encodeBase64Url value) = true := by
  rw [Base64UrlSchema.accepts, decodeBase64Url_encodeBase64Url, Bool.and_true,
    encodeBase64Url, List.all_map, List.all_eq_true]
  exact fun digit hdigit => base64UrlChar_accepted digit (base64UrlDigits_lt value digit hdigit)

@[simp] theorem hasDecodedLength_encode (value : Bytes) (n : ℕ) :
    hasDecodedLength (encodeBase64Url value) n = (value.length == n) := by
  simp [hasDecodedLength]

/-! ## Records -/

structure RecordingBinding where
  attemptId : JsString
  headSha : JsString
  objectId : JsString
  deriving DecidableEq, Repr

def RecordingBindingSchema.accepts (binding : RecordingBinding) : Bool :=
  CanonicalUuidSchema.accepts binding.attemptId && HeadShaSchema.accepts binding.headSha &&
    CanonicalUuidSchema.accepts binding.objectId

structure ChunkAadContext extends RecordingBinding where
  codec : JsString
  chunkIndex : ℕ
  nonceBase64url : JsString
  plaintextBytes : ℕ
  deriving DecidableEq, Repr

def ChunkAadContextSchema.accepts (context : ChunkAadContext) : Bool :=
  RecordingBindingSchema.accepts context.toRecordingBinding &&
    context.codec == recordingCodec && context.chunkIndex ≤ maxUint32 &&
    Base64UrlSchema.accepts context.nonceBase64url &&
    hasDecodedLength context.nonceBase64url 12 &&
    1 ≤ context.plaintextBytes && context.plaintextBytes ≤ maxPlaintextChunkBytes

structure ManifestChunk where
  index : ℕ
  nonce : JsString
  plaintextBytes : ℕ
  sealedBytes : ℕ
  ciphertextSha256 : JsString
  deriving DecidableEq, Repr

def ManifestChunkSchema.accepts (chunk : ManifestChunk) : Bool :=
  chunk.index ≤ maxUint32 &&
    Base64UrlSchema.accepts chunk.nonce && hasDecodedLength chunk.nonce 12 &&
    1 ≤ chunk.plaintextBytes && chunk.plaintextBytes ≤ maxPlaintextChunkBytes &&
    aesGcmTagBytes + 1 ≤ chunk.sealedBytes &&
    chunk.sealedBytes ≤ maxPlaintextChunkBytes + aesGcmTagBytes &&
    Sha256Schema.accepts chunk.ciphertextSha256

structure ManifestPart where
  partNumber : ℕ
  firstChunkIndex : ℕ
  lastChunkIndex : ℕ
  byteLength : ℕ
  sha256 : JsString
  deriving DecidableEq, Repr

def ManifestPartSchema.accepts (part : ManifestPart) : Bool :=
  1 ≤ part.partNumber && part.partNumber ≤ maxMultipartParts &&
    part.firstChunkIndex ≤ maxUint32 && part.lastChunkIndex ≤ maxUint32 &&
    1 ≤ part.byteLength && part.byteLength ≤ maxRecordingObjectBytes &&
    Sha256Schema.accepts part.sha256

def ManifestPartSchema.parse (part : ManifestPart) : Except Thrown ManifestPart :=
  if ManifestPartSchema.accepts part then .ok part else .error .zod

structure ManifestWrapping where
  materialId : JsString
  keyId : JsString
  algorithm : JsString
  wrappedKeySha256 : JsString
  deriving DecidableEq, Repr

def ManifestWrappingSchema.accepts (wrapping : ManifestWrapping) : Bool :=
  CanonicalUuidSchema.accepts wrapping.materialId && keyIdPattern wrapping.keyId &&
    wrapping.algorithm == wrappingAlgorithm &&
    Sha256Schema.accepts wrapping.wrappedKeySha256

structure RecordingManifest extends RecordingBinding where
  protocolVersion : ℕ
  suiteId : JsString
  codec : JsString
  noncePrefixBase64url : JsString
  wrapping : ManifestWrapping
  durationMs : ℕ
  totalPlaintextBytes : ℕ
  totalObjectBytes : ℕ
  questionIntervals : Option (List ProofQuestionInterval)
  chunks : List ManifestChunk
  parts : List ManifestPart
  deriving DecidableEq, Repr

/-! ## The manifest -/

namespace RecordingManifestSchema

/-- The checks of the fields, before the refinement. -/
def shape (manifest : RecordingManifest) : Bool :=
  manifest.protocolVersion == recordingProtocolVersion &&
    manifest.suiteId == recordingSuiteId &&
    RecordingBindingSchema.accepts manifest.toRecordingBinding &&
    manifest.codec == recordingCodec &&
    Base64UrlSchema.accepts manifest.noncePrefixBase64url &&
    hasDecodedLength manifest.noncePrefixBase64url noncePrefixBytes &&
    ManifestWrappingSchema.accepts manifest.wrapping &&
    manifest.durationMs ≤ maxRecordingDurationMs &&
    1 ≤ manifest.totalPlaintextBytes &&
    manifest.totalPlaintextBytes ≤ maxRecordingObjectBytes &&
    1 ≤ manifest.totalObjectBytes &&
    manifest.totalObjectBytes ≤ maxRecordingObjectBytes &&
    manifest.questionIntervals.all ProofQuestionIntervalsV1Schema.accepts &&
    1 ≤ manifest.chunks.length && manifest.chunks.length ≤ maxRecordingChunks &&
    manifest.chunks.all ManifestChunkSchema.accepts &&
    1 ≤ manifest.parts.length && manifest.parts.length ≤ maxMultipartParts &&
    manifest.parts.all ManifestPartSchema.accepts

/-- The variables that the walk over the chunks fills. -/
structure ChunkScan where
  plaintextTotal : ℕ
  objectTotal : ℕ
  nonces : List JsString
  chunkOffsets : List ℕ
  issues : List Issue
  deriving DecidableEq, Repr

def ChunkScan.start : ChunkScan := ⟨0, 0, [], [0], []⟩

def ChunkScan.visit (noncePrefix : Bytes) (scan : ChunkScan) :
    ManifestChunk × ℕ → Except RecordingProtocolError ChunkScan
  | (chunk, index) => do
    let expectedNonce ← buildChunkNonce noncePrefix chunk.index
    let objectTotal := scan.objectTotal + (recordHeaderBytes + chunk.sealedBytes)
    return {
      plaintextTotal := scan.plaintextTotal + chunk.plaintextBytes
      objectTotal
      nonces := scan.nonces ++ [chunk.nonce]
      chunkOffsets := scan.chunkOffsets ++ [objectTotal]
      issues := scan.issues ++
        (issueIf (chunk.index ≠ index)
          "Chunk indices must be contiguous and start at zero"
          [.key "chunks", .index index, .key "index"] ++
        issueIf (chunk.sealedBytes ≠ chunk.plaintextBytes + aesGcmTagBytes)
          "Sealed length must equal plaintext length plus GCM tag"
          [.key "chunks", .index index, .key "sealedBytes"] ++
        issueIf (chunk.nonce ≠ encodeBase64Url expectedNonce)
          "Chunk nonce does not match prefix and index"
          [.key "chunks", .index index, .key "nonce"] ++
        issueIf (chunk.nonce ∈ scan.nonces)
          "Chunk nonces must be unique" [.key "chunks", .index index, .key "nonce"]) }

/-- The walk over the chunks; `zipIdx` is the index that `forEach` hands in. -/
def scanChunks (noncePrefix : Bytes) (chunks : List ManifestChunk) :
    Except RecordingProtocolError ChunkScan :=
  chunks.zipIdx.foldlM (ChunkScan.visit noncePrefix) ChunkScan.start

/-- `findIndex` with the element and its index, or -1. -/
def findIndex {α : Type} (test : α → ℕ → Bool) (items : List α) : ℤ :=
  match items.zipIdx.findIdx? fun entry => test entry.1 entry.2 with
  | some index => index
  | none => -1

/-- The first chunk whose end lies behind `partStart`, or -1. -/
def expectedFirstChunk (chunkOffsets : List ℕ) (chunkCount partStart : ℕ) : ℤ :=
  findIndex
    (fun offset chunkIndex => decide (chunkIndex < chunkCount) &&
      decide (partStart < (chunkOffsets[chunkIndex + 1]?).getD offset))
    chunkOffsets

/-- The last chunk that starts before `partEnd`, or -1. -/
def expectedLastChunk (chunkOffsets : List ℕ) (chunkCount partEnd : ℕ) : ℤ :=
  (List.range chunkCount).foldl
    (fun (last : ℤ) (chunkIndex : ℕ) => match chunkOffsets[chunkIndex]? with
      | some chunkStart => if chunkStart < partEnd then (chunkIndex : ℤ) else last
      | none => last)
    (-1)

structure PartScan where
  partByteTotal : ℕ
  issues : List Issue
  deriving DecidableEq, Repr

def PartScan.visit (manifest : RecordingManifest) (chunkScan : ChunkScan)
    (scan : PartScan) : ManifestPart × ℕ → PartScan
  | (part, index) =>
    let partStart := scan.partByteTotal
    let partEnd := partStart + part.byteLength
    let first := expectedFirstChunk chunkScan.chunkOffsets manifest.chunks.length partStart
    let last := expectedLastChunk chunkScan.chunkOffsets manifest.chunks.length partEnd
    { partByteTotal := scan.partByteTotal + part.byteLength
      issues := scan.issues ++
        (issueIf (part.partNumber ≠ index + 1)
          "Part numbers must be contiguous and start at one"
          [.key "parts", .index index, .key "partNumber"] ++
        issueIf (chunkScan.objectTotal < partEnd ∨ first < 0 ∨ last < first ∨
            (part.firstChunkIndex : ℤ) ≠ first ∨ (part.lastChunkIndex : ℤ) ≠ last)
          "Part chunk ranges must exactly identify every record intersected by the byte range"
          [.key "parts", .index index] ++
        issueIf (index + 1 < manifest.parts.length ∧
            (part.byteLength < s3MinimumNonfinalPartBytes ∨
              part.byteLength ≠ multipartTargetBytes))
          "Every non-final multipart part must use the fixed target size"
          [.key "parts", .index index, .key "byteLength"]) }

def scanParts (manifest : RecordingManifest) (chunkScan : ChunkScan) : PartScan :=
  manifest.parts.zipIdx.foldl (PartScan.visit manifest chunkScan) ⟨0, []⟩

/-- The refinement: the issues it adds, in their order. -/
def superRefine (manifest : RecordingManifest) :
    Except RecordingProtocolError (List Issue) := do
  let noncePrefix ← decodeBase64Url manifest.noncePrefixBase64url
  let chunkScan ← scanChunks noncePrefix manifest.chunks
  let partScan := scanParts manifest chunkScan
  return chunkScan.issues ++
    issueIf (manifest.totalPlaintextBytes ≠ chunkScan.plaintextTotal)
      "Plaintext byte total does not match chunks" [.key "totalPlaintextBytes"] ++
    issueIf (manifest.totalObjectBytes ≠ chunkScan.objectTotal)
      "Object byte total does not match chunk records" [.key "totalObjectBytes"] ++
    partScan.issues ++
    issueIf (partScan.partByteTotal ≠ manifest.totalObjectBytes)
      "Part byte total does not match object size" [.key "parts"]

/-- A manifest is accepted when its shape is right and the refinement neither
throws nor adds an issue. -/
def accepts (manifest : RecordingManifest) : Bool :=
  shape manifest &&
    match superRefine manifest with
    | .ok issues => issues.isEmpty
    | .error _ => false

end RecordingManifestSchema

end Media

end UnderstandProof
