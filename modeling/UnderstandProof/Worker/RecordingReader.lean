import UnderstandProof.Foundation.Drain
import UnderstandProof.Media.Crypto

/-!
# Reading a recording back

The worker reads the stored object chunk by chunk. One cursor hashes the incoming
bytes part by part, a second one frames the pending bytes into records and opens
them; the plaintexts go to a sink, here the list of what it has received.
-/

open Foundation

namespace UnderstandProof

namespace Worker

open Media

/-- `manifest.parts[partIndex]?.byteLength ?? 0` -/
def partByteLength (manifest : RecordingManifest) (partIndex : ℕ) : ℕ :=
  (manifest.parts[partIndex]?.map ManifestPart.byteLength).getD 0

/-- The cursor over the parts; `partHash` is what the hash was updated with. -/
structure PartCursor where
  partIndex : ℕ
  partRemaining : ℕ
  partHash : Bytes
  deriving DecidableEq, Repr

/-- The body of the loop that hashes the incoming bytes. -/
def hashStep (sha256 : Sha256) (manifest : RecordingManifest) (cursor : PartCursor)
    (incoming : Bytes) : Verdict PartCursor Thrown :=
  if incoming.length = 0 then .wait
  else
    let take := min cursor.partRemaining incoming.length
    if take = 0 then .fail (.error "object exceeds manifest part ranges")
    else
      let partHash := cursor.partHash ++ incoming.take take
      let partRemaining := cursor.partRemaining - take
      if partRemaining = 0 then
        if (manifest.parts[cursor.partIndex]?.map ManifestPart.sha256) =
            some (sha256Hex sha256 partHash) then
          .consume take
            ⟨cursor.partIndex + 1, partByteLength manifest (cursor.partIndex + 1), []⟩
        else .fail (.error "ciphertext part hash mismatch")
      else .consume take ⟨cursor.partIndex, partRemaining, partHash⟩

def partHasher (sha256 : Sha256) (manifest : RecordingManifest) :
    Consumer PartCursor UInt8 Thrown where
  step := hashStep sha256 manifest
  progress := by
    intro s input count next h
    simp only [hashStep] at h
    split_ifs at h <;> cases h <;> omega

/-- The cursor over the records, and what the sink has received. -/
structure RecordCursor where
  recordIndex : ℕ
  delivered : List Bytes
  deriving DecidableEq, Repr

/-- A framed record agrees with its entry in the manifest. -/
structure Agrees (sha256 : Sha256) (record : ChunkRecord) (expected : ManifestChunk) :
    Prop where
  index : record.chunkIndex = expected.index
  plaintextBytes : record.plaintextLength = expected.plaintextBytes
  sealedBytes : record.sealedLength = expected.sealedBytes
  ciphertextSha256 : sha256Hex sha256 record.sealed = expected.ciphertextSha256

/-- What happens to the bytes of one framed record, up to its plaintext. -/
def readRecord (sha256 : Sha256) (encryptionKey : AesGcm) (noncePrefix : Bytes)
    (manifest : RecordingManifest) (recordIndex : ℕ) (recordBytes : Bytes) :
    Except Thrown Bytes := do
  let record ← orThrow (parseChunkRecord recordBytes)
  match manifest.chunks[recordIndex]? with
  | none => throw (.error "ciphertext record does not match manifest")
  | some expected =>
      rejectIf (record.chunkIndex ≠ expected.index ∨
          record.plaintextLength ≠ expected.plaintextBytes ∨
          record.sealedLength ≠ expected.sealedBytes ∨
          sha256Hex sha256 record.sealed ≠ expected.ciphertextSha256)
        (.error "ciphertext record does not match manifest")
      decryptRecordingChunk encryptionKey recordBytes recordIndex noncePrefix
        manifest.toRecordingBinding

/-- The body of the loop that frames the pending bytes. -/
def recordStep (sha256 : Sha256) (encryptionKey : AesGcm) (noncePrefix : Bytes)
    (manifest : RecordingManifest) (cursor : RecordCursor) (pending : Bytes) :
    Verdict RecordCursor Thrown :=
  if pending.length < recordHeaderBytes then .wait
  else
    let sealedLength := getUint 4 pending 28
    if sealedLength < 17 ∨ maxPlaintextChunkBytes + 16 < sealedLength then
      .fail (.error "invalid framed record length")
    else
      let recordLength := recordHeaderBytes + sealedLength
      if pending.length < recordLength then .wait
      else
        match readRecord sha256 encryptionKey noncePrefix manifest cursor.recordIndex
            (pending.take recordLength) with
        | .error e => .fail e
        | .ok plaintext =>
            .consume recordLength ⟨cursor.recordIndex + 1, cursor.delivered ++ [plaintext]⟩

def recordReader (sha256 : Sha256) (encryptionKey : AesGcm) (noncePrefix : Bytes)
    (manifest : RecordingManifest) : Consumer RecordCursor UInt8 Thrown where
  step := recordStep sha256 encryptionKey noncePrefix manifest
  progress := by
    intro s input count next h
    simp only [recordStep] at h
    split_ifs at h
    split at h
    · cases h
    · cases h
      rw [recordHeaderBytes] at *
      omega

/-- The variables of the reading loop. -/
structure ReaderState where
  pending : Bytes
  records : RecordCursor
  parts : PartCursor
  objectBytes : ℕ
  deriving DecidableEq, Repr

def ReaderState.start (manifest : RecordingManifest) : ReaderState :=
  ⟨[], ⟨0, []⟩, ⟨0, partByteLength manifest 0, []⟩, 0⟩

/-- One turn of the reading loop: the incoming bytes are hashed, then framed behind
the pending ones. -/
def readIncoming (sha256 : Sha256) (encryptionKey : AesGcm) (noncePrefix : Bytes)
    (manifest : RecordingManifest) (incoming : Bytes) : Stateful Thrown ReaderState Unit :=
  fun state =>
    let hashed := (partHasher sha256 manifest).drain state.parts incoming
    let hashedState := { state with
      parts := hashed.state
      objectBytes := state.objectBytes + incoming.length }
    match hashed.outcome with
    | .error e => (.error e, hashedState)
    | .ok () =>
        let drained := (recordReader sha256 encryptionKey noncePrefix manifest).drain
          state.records (state.pending ++ incoming)
        (drained.outcome, { hashedState with
          pending := drained.rest
          records := drained.state })

/-- The check behind the loop. -/
def checkEnd (manifest : RecordingManifest) : Stateful Thrown ReaderState Unit :=
  fun state =>
    (rejectIf (state.pending.length ≠ 0 ∨
        state.records.recordIndex ≠ manifest.chunks.length ∨
        state.parts.partIndex ≠ manifest.parts.length ∨
        state.parts.partRemaining ≠ 0 ∨
        state.objectBytes ≠ manifest.totalObjectBytes)
      (.error "ciphertext object ended outside manifest boundaries"), state)

/-- Reads a stream, and returns how the call ends and what the sink has received. -/
def streamDecryptedRecording (sha256 : Sha256) (encryptionKey : AesGcm)
    (stream : List Bytes) (manifest : RecordingManifest) : Except Thrown Unit × List Bytes :=
  match decodeBase64Url manifest.noncePrefixBase64url with
  | .error e => (.error (.protocol e), [])
  | .ok noncePrefix =>
      let (outcome, state) := Stateful.run (do
        stream.forM (readIncoming sha256 encryptionKey noncePrefix manifest)
        checkEnd manifest) (ReaderState.start manifest)
      (outcome, state.records.delivered)

end Worker

end UnderstandProof
