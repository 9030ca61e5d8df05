import UnderstandProof.Media.Canonical

/-!
# Finalizing a recording

The envelope that finalizes a recording: the manifest with its digest and its tag, the wrapped
master key, and the receipts of the uploaded parts. The worker unwraps the master key, derives the
two keys of the recording from it, and authenticates the manifest before it returns the key that
opens the chunks.
-/

open Foundation

namespace UnderstandProof

namespace Media

def maxFinalizeJsonBytes : ℕ := 512 * 1024
def manifestTagBytes : ℕ := 32
structure WrappedMasterKey where
  materialId : JsString
  keyId : JsString
  algorithm : JsString
  wrappedKeyBase64url : JsString
  wrappedKeySha256 : JsString
  deriving DecidableEq, Repr

def WrappedMasterKeySchema.accepts (wrapped : WrappedMasterKey) : Bool :=
  CanonicalUuidSchema.accepts wrapped.materialId && keyIdPattern wrapped.keyId &&
    wrapped.algorithm == wrappingAlgorithm &&
    Base64UrlSchema.accepts wrapped.wrappedKeyBase64url &&
    1 ≤ wrapped.wrappedKeyBase64url.length && wrapped.wrappedKeyBase64url.length ≤ 2048 &&
    Sha256Schema.accepts wrapped.wrappedKeySha256

structure UploadedPartReceipt where
  partNumber : ℕ
  etag : JsString
  deriving DecidableEq, Repr

def UploadedPartReceiptSchema.accepts (receipt : UploadedPartReceipt) : Bool :=
  1 ≤ receipt.partNumber && receipt.partNumber ≤ maxMultipartParts &&
    1 ≤ receipt.etag.length && receipt.etag.length ≤ 512

structure FinalizeRecording where
  manifest : RecordingManifest
  manifestTagBase64url : JsString
  manifestDigest : JsString
  wrappedKey : WrappedMasterKey
  uploadedParts : List UploadedPartReceipt
  deriving DecidableEq, Repr

/-! ## The text of an envelope -/

def ManifestChunk.toJson (chunk : ManifestChunk) : Json :=
  .obj [(js "index", .num chunk.index), (js "nonce", .str chunk.nonce),
    (js "plaintextBytes", .num chunk.plaintextBytes), (js "sealedBytes", .num chunk.sealedBytes),
    (js "ciphertextSha256", .str chunk.ciphertextSha256)]

def ManifestPart.toJson (part : ManifestPart) : Json :=
  .obj [(js "partNumber", .num part.partNumber), (js "firstChunkIndex", .num part.firstChunkIndex),
    (js "lastChunkIndex", .num part.lastChunkIndex), (js "byteLength", .num part.byteLength),
    (js "sha256", .str part.sha256)]

def ManifestWrapping.toJson (wrapping : ManifestWrapping) : Json :=
  .obj [(js "materialId", .str wrapping.materialId), (js "keyId", .str wrapping.keyId),
    (js "algorithm", .str wrapping.algorithm),
    (js "wrappedKeySha256", .str wrapping.wrappedKeySha256)]

def ProofQuestionInterval.toJson (interval : ProofQuestionInterval) : Json :=
  .obj [(js "schemaVersion", .str interval.schemaVersion),
    (js "intervalVersion", .str interval.intervalVersion),
    (js "questionId", .str interval.questionId), (js "ordinal", .num interval.ordinal),
    (js "startMs", .num interval.startMs), (js "endMs", .num interval.endMs),
    (js "recordedDurationMs", .num interval.recordedDurationMs),
    (js "source", .str interval.source)]

def RecordingManifest.toJson (manifest : RecordingManifest) : Json :=
  .obj ([(js "protocolVersion", .num manifest.protocolVersion),
    (js "suiteId", .str manifest.suiteId), (js "attemptId", .str manifest.attemptId),
    (js "headSha", .str manifest.headSha), (js "objectId", .str manifest.objectId),
    (js "codec", .str manifest.codec),
    (js "noncePrefixBase64url", .str manifest.noncePrefixBase64url),
    (js "wrapping", manifest.wrapping.toJson), (js "durationMs", .num manifest.durationMs),
    (js "totalPlaintextBytes", .num manifest.totalPlaintextBytes),
    (js "totalObjectBytes", .num manifest.totalObjectBytes)] ++
    (manifest.questionIntervals.toList.map fun intervals =>
      (js "questionIntervals", .arr (intervals.map ProofQuestionInterval.toJson))) ++
    [(js "chunks", .arr (manifest.chunks.map ManifestChunk.toJson)),
      (js "parts", .arr (manifest.parts.map ManifestPart.toJson))])

def WrappedMasterKey.toJson (wrapped : WrappedMasterKey) : Json :=
  .obj [(js "materialId", .str wrapped.materialId), (js "keyId", .str wrapped.keyId),
    (js "algorithm", .str wrapped.algorithm),
    (js "wrappedKeyBase64url", .str wrapped.wrappedKeyBase64url),
    (js "wrappedKeySha256", .str wrapped.wrappedKeySha256)]

def FinalizeRecording.toJson (finalization : FinalizeRecording) : Json :=
  .obj [(js "manifest", finalization.manifest.toJson),
    (js "manifestTagBase64url", .str finalization.manifestTagBase64url),
    (js "manifestDigest", .str finalization.manifestDigest),
    (js "wrappedKey", finalization.wrappedKey.toJson),
    (js "uploadedParts", .arr (finalization.uploadedParts.map fun receipt =>
      .obj [(js "partNumber", .num receipt.partNumber), (js "etag", .str receipt.etag)]))]

/-- `FinalizeRecordingSchema` on an envelope. -/
def FinalizeRecordingSchema.accepts (finalization : FinalizeRecording) : Bool :=
  RecordingManifestSchema.accepts finalization.manifest &&
    Base64UrlSchema.accepts finalization.manifestTagBase64url &&
    hasDecodedLength finalization.manifestTagBase64url manifestTagBytes &&
    Sha256Schema.accepts finalization.manifestDigest &&
    WrappedMasterKeySchema.accepts finalization.wrappedKey &&
    1 ≤ finalization.uploadedParts.length &&
    finalization.uploadedParts.length ≤ maxMultipartParts &&
    finalization.uploadedParts.all UploadedPartReceiptSchema.accepts &&
    finalization.wrappedKey.materialId == finalization.manifest.wrapping.materialId &&
    finalization.wrappedKey.keyId == finalization.manifest.wrapping.keyId &&
    finalization.wrappedKey.algorithm == finalization.manifest.wrapping.algorithm &&
    finalization.wrappedKey.wrappedKeySha256 ==
      finalization.manifest.wrapping.wrappedKeySha256 &&
    finalization.uploadedParts.length == finalization.manifest.parts.length &&
    finalization.uploadedParts.map UploadedPartReceipt.partNumber ==
      (List.range finalization.uploadedParts.length).map (· + 1) &&
    (JsString.utf8Encode (Json.stringify finalization.toJson)).length ≤ maxFinalizeJsonBytes

end Media

end UnderstandProof
