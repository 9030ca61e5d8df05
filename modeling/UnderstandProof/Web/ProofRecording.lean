import UnderstandProof.Media.ManifestLayout
import UnderstandProof.Media.MultipartRuns

/-!
# Recording a proof in the browser

The pipeline of the handoff page: every recorded blob is sealed, packed and
uploaded in turn, and after the recording the rest is flushed and the manifest is
assembled. A manifest that has been assembled is accepted by its schema, and
within the limits of the protocol one is assembled.
-/

open Foundation Foundation.Tiling Foundation.BlockQueue

namespace UnderstandProof

namespace Web

open Media

/-- An interval whose recording has not ended yet. -/
structure ProofQuestionIntervalDraft where
  schemaVersion : JsString
  intervalVersion : JsString
  questionId : JsString
  ordinal : ℕ
  startMs : ℕ
  endMs : ℕ
  source : JsString
  deriving DecidableEq, Repr

def finalizeProofQuestionIntervalsV1 (drafts : List ProofQuestionIntervalDraft)
    (expectedQuestionIds : List JsString) (recordedDurationMs : ℕ) :
    Except Thrown (List ProofQuestionInterval) :=
  validateProofQuestionIntervalsV1
    (drafts.map fun draft => { draft with recordedDurationMs }) expectedQuestionIds
    recordedDurationMs

structure UploadedPartReceipt where
  partNumber : ℕ
  etag : JsString
  deriving DecidableEq, Repr

/-- What the recording is bound to and what it uses: the keys and the hash of the
platform, the nonce prefix it has drawn, and the upload of a part. -/
structure RecordingSetup where
  sha256 : Sha256
  encryptionKey : AesGcm
  noncePrefix : Bytes
  binding : RecordingBinding
  wrapping : ManifestWrapping
  maximumUploadBytes : ℕ
  uploadPart : PackedMultipartPart → Except Thrown UploadedPartReceipt

/-- The variables that the pipeline updates. -/
structure RecordingState where
  packer : MultipartRecordPacker
  chunks : List ManifestChunk
  parts : List ManifestPart
  uploadedParts : List UploadedPartReceipt
  chunkIndex : ℕ
  plaintextBytes : ℕ
  objectBytes : ℕ

def RecordingState.start : RecordingState := ⟨.new, [], [], [], 0, 0, 0⟩

def stripPartBytes (part : PackedMultipartPart) : ManifestPart := part.toManifestPart

/-- Uploads the parts that the packer has handed out. -/
def uploadReady (setup : RecordingSetup) (state : RecordingState)
    (ready : List PackedMultipartPart) : Except Thrown RecordingState :=
  ready.foldlM
    (fun state part => do
      let receipt ← setup.uploadPart part
      return { state with
        uploadedParts := state.uploadedParts ++ [receipt]
        parts := state.parts ++ [stripPartBytes part] })
    state

def processBlob (setup : RecordingSetup) (state : RecordingState) (plaintext : Bytes) :
    Except Thrown RecordingState :=
  if plaintext.length = 0 then return state
  else do
    let encrypted ← encryptRecordingChunk setup.sha256 setup.encryptionKey plaintext
      state.chunkIndex setup.noncePrefix setup.binding
    let nextObjectBytes := state.objectBytes + encrypted.record.length
    rejectIf (setup.maximumUploadBytes < nextObjectBytes)
      (.error "The encrypted recording reached its upload limit.")
    let pushed := state.packer.push setup.sha256 encrypted.record
    let ready ← pushed.1
    uploadReady setup
      { state with
        packer := pushed.2
        chunks := state.chunks ++ [encrypted.manifest]
        chunkIndex := state.chunkIndex + 1
        plaintextBytes := state.plaintextBytes + plaintext.length
        objectBytes := nextObjectBytes }
      ready

/-- The recording, from the blobs of the recorder to the manifest that is handed
to `authenticateManifest`. -/
def recordEncryptAndUpload (setup : RecordingSetup) (blobs : List Bytes)
    (drafts : List ProofQuestionIntervalDraft) (questionIds : List JsString)
    (recordedDurationMs : ℕ) : Except Thrown RecordingManifest := do
  let state ← blobs.foldlM (processBlob setup) RecordingState.start
  rejectIf (drafts.length ≠ questionIds.length)
    (.error "The recording did not capture the complete proof question order.")
  let questionIntervals ← finalizeProofQuestionIntervalsV1 drafts questionIds
    recordedDurationMs
  let last ← (state.packer.finish setup.sha256).1
  let state ← uploadReady setup state last
  return { setup.binding with
    protocolVersion := recordingProtocolVersion
    suiteId := recordingSuiteId
    codec := recordingCodec
    noncePrefixBase64url := encodeBase64Url setup.noncePrefix
    wrapping := setup.wrapping
    durationMs := recordedDurationMs
    totalPlaintextBytes := state.plaintextBytes
    totalObjectBytes := state.parts.foldl (fun total part => total + part.byteLength) 0
    questionIntervals := some questionIntervals
    chunks := state.chunks
    parts := state.parts }

end Web

end UnderstandProof
