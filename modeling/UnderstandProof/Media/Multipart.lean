import UnderstandProof.Media.Crypto

/-!
# Packing records into multipart parts

The packer keeps the pushed records in a queue of segments and cuts parts of
exactly 8 MiB off its front; the rest becomes the final part. A call returns its
outcome together with the packer it leaves behind, also when it throws.
-/

open Foundation

namespace UnderstandProof

namespace Media

structure PackedMultipartPart extends ManifestPart where
  bytes : Bytes
  deriving DecidableEq, Repr

/-- A pushed record of which the first `offset` bytes have been taken. -/
structure PendingRecordSegment where
  chunkIndex : ℕ
  bytes : Bytes
  offset : ℕ
  offset_le : offset ≤ bytes.length
  deriving DecidableEq, Repr

namespace PendingRecordSegment

def available (segment : PendingRecordSegment) : ℕ :=
  segment.bytes.length - segment.offset

/-- The next bytes of the segment, at most `limit` many. -/
def subarray (segment : PendingRecordSegment) (limit : ℕ) : Bytes :=
  slice segment.bytes segment.offset (segment.offset + min segment.available limit)

/-- Takes these bytes: they are overwritten by zeros. -/
def advance (segment : PendingRecordSegment) (limit : ℕ) : PendingRecordSegment where
  chunkIndex := segment.chunkIndex
  bytes := segment.bytes.take segment.offset ++
    List.replicate (min segment.available limit) 0 ++
      segment.bytes.drop (segment.offset + min segment.available limit)
  offset := segment.offset + min segment.available limit
  offset_le := by
    have hle := segment.offset_le
    simp only [available, List.length_append, List.length_take, List.length_replicate,
      List.length_drop]
    omega

theorem length_subarray (segment : PendingRecordSegment) (limit : ℕ) :
    (segment.subarray limit).length = min segment.available limit := by
  have hle := segment.offset_le
  rw [subarray, length_slice (by simp only [available]; omega)]
  omega

theorem length_bytes_advance (segment : PendingRecordSegment) (limit : ℕ) :
    (segment.advance limit).bytes.length = segment.bytes.length := by
  have hle := segment.offset_le
  simp only [advance, available, List.length_append, List.length_take,
    List.length_replicate, List.length_drop]
  omega

end PendingRecordSegment

structure MultipartRecordPacker where
  pending : List PendingRecordSegment
  pendingBytes : ℕ
  chunkCount : ℕ
  partCount : ℕ
  objectBytes : ℕ
  finished : Bool
  deriving DecidableEq, Repr

def stagingBufferExceeded : Thrown :=
  .protocol ⟨.limitExceeded, "Multipart staging buffer exceeds the protocol limit"⟩

def flushOutsidePending : Thrown :=
  .protocol ⟨.invalidRecord, "Cannot flush outside the pending multipart buffer"⟩

def sizeBoundsViolated : Thrown :=
  .protocol ⟨.limitExceeded, "Multipart buffer violates the generic S3 size bounds"⟩

def partCountExceeded : Thrown :=
  .protocol ⟨.limitExceeded, "Multipart part count exceeds the protocol limit"⟩

def stagingBufferEnded : Thrown :=
  .protocol ⟨.invalidRecord, "Multipart staging buffer ended before the requested part"⟩

/-- The variables of the loop that fills a part: the segments left, the written
beginning of the part, whose length is `outputOffset`, and the last chunk. -/
structure PartBuffer where
  pending : List PendingRecordSegment
  bytes : Bytes
  lastChunkIndex : ℕ
  deriving DecidableEq, Repr

/-- The loop that fills a part; `none` when the segments end before it is full. -/
def PartBuffer.fill (byteLength : ℕ) : PartBuffer → Option PartBuffer
  | ⟨pending, bytes, lastChunkIndex⟩ =>
    if bytes.length < byteLength then
      match pending with
      | [] => none
      | segment :: rest =>
          let limit := byteLength - bytes.length
          if (segment.advance limit).offset = (segment.advance limit).bytes.length then
            fill byteLength ⟨rest, bytes ++ segment.subarray limit, segment.chunkIndex⟩
          else
            fill byteLength ⟨segment.advance limit :: rest, bytes ++ segment.subarray limit,
              segment.chunkIndex⟩
    else some ⟨pending, bytes, lastChunkIndex⟩
termination_by buffer => buffer.pending.length + (byteLength - buffer.bytes.length)
decreasing_by
  · simp only [List.length_append, List.length_cons]
    omega
  · next hnot =>
    rw [PendingRecordSegment.length_bytes_advance] at hnot
    have hle := segment.offset_le
    simp only [PendingRecordSegment.advance, PendingRecordSegment.available] at hnot
    simp only [List.length_append, List.length_cons, PendingRecordSegment.length_subarray,
      PendingRecordSegment.available]
    omega

namespace MultipartRecordPacker

def new : MultipartRecordPacker := ⟨[], 0, 0, 0, 0, false⟩

/-- The guards of `#flush`. -/
def checkFlush (packer : MultipartRecordPacker) (byteLength : ℕ) (finalPart : Bool) :
    Except Thrown Unit := do
  rejectIf (packer.pending.length = 0 ∨ byteLength < 1 ∨ packer.pendingBytes < byteLength)
    flushOutsidePending
  rejectIf (maxEncryptedBufferBytes < byteLength ∨ (finalPart = false ∧
      (byteLength < s3MinimumNonfinalPartBytes ∨ byteLength ≠ multipartTargetBytes)))
    sizeBoundsViolated
  rejectIf (maxMultipartParts ≤ packer.partCount) partCountExceeded

/-- The index of `this.#pending[0]`, which the guards have found to exist. -/
def firstPendingIndex (packer : MultipartRecordPacker) : ℕ :=
  (packer.pending.head?.map PendingRecordSegment.chunkIndex).getD 0

def flush (sha256 : Sha256) (packer : MultipartRecordPacker) (byteLength : ℕ)
    (finalPart : Bool) : Except Thrown PackedMultipartPart × MultipartRecordPacker :=
  match packer.checkFlush byteLength finalPart with
  | .error e => (.error e, packer)
  | .ok () =>
      let firstChunkIndex := packer.firstPendingIndex
      match PartBuffer.fill byteLength ⟨packer.pending, [], firstChunkIndex⟩ with
      | none => (.error stagingBufferEnded, { packer with pending := [] })
      | some ⟨pending, bytes, lastChunkIndex⟩ =>
          let packer := { packer with
            pending, pendingBytes := packer.pendingBytes - byteLength }
          match ManifestPartSchema.parse {
            partNumber := packer.partCount + 1
            firstChunkIndex
            lastChunkIndex
            byteLength := bytes.length
            sha256 := sha256Hex sha256 bytes } with
          | .error e => (.error e, packer)
          | .ok metadata =>
              (.ok { metadata with bytes }, { packer with partCount := packer.partCount + 1 })

theorem flush_pendingBytes {sha256 : Sha256} {packer next : MultipartRecordPacker}
    {byteLength : ℕ} {finalPart : Bool} {part : PackedMultipartPart}
    (h : packer.flush sha256 byteLength finalPart = (.ok part, next)) :
    0 < byteLength ∧ byteLength ≤ packer.pendingBytes ∧
      next.pendingBytes = packer.pendingBytes - byteLength := by
  unfold flush at h
  split at h
  · cases h
  · next hcheck =>
      rw [checkFlush, rejectIf_bind_eq_ok] at hcheck
      dsimp only at h
      split at h
      · cases h
      · split at h
        · cases h
        · cases h
          exact ⟨by omega, by omega, rfl⟩

/-- The loop of `push`: parts of the target size while the queue holds one. -/
def flushReady (sha256 : Sha256) (packer : MultipartRecordPacker) :
    Except Thrown (List PackedMultipartPart) × MultipartRecordPacker :=
  if multipartTargetBytes ≤ packer.pendingBytes then
    match _h : packer.flush sha256 multipartTargetBytes false with
    | (.error e, next) => (.error e, next)
    | (.ok part, next) =>
        let (ready, last) := next.flushReady sha256
        (ready.map (part :: ·), last)
  else (.ok [], packer)
termination_by packer.pendingBytes
decreasing_by
  have hpending := flush_pendingBytes _h
  omega

/-- The guards of `push`, in their order. -/
def checkPush (packer : MultipartRecordPacker) (recordBytes : Bytes) :
    Except Thrown ChunkRecord := do
  rejectIf (packer.finished = true)
    (.protocol ⟨.invalidRecord,
      "Cannot append a record after multipart packing is finalized"⟩)
  rejectIf (maxRecordingChunks ≤ packer.chunkCount)
    (.protocol ⟨.limitExceeded, "Record count exceeds the protocol limit"⟩)
  let record ← orThrow (parseChunkRecord recordBytes)
  rejectIf (record.chunkIndex ≠ packer.chunkCount)
    (.protocol ⟨.invalidRecord,
      "Records must be contiguous and ordered before multipart packing"⟩)
  rejectIf (maxRecordingObjectBytes < packer.objectBytes + record.bytes.length)
    (.protocol ⟨.limitExceeded, "Recording object exceeds the protocol limit"⟩)
  rejectIf (maxEncryptedBufferBytes < packer.pendingBytes + record.bytes.length)
    stagingBufferExceeded
  return record

/-- The packer with an accepted record at the end of its queue. -/
def append (packer : MultipartRecordPacker) (record : ChunkRecord) :
    MultipartRecordPacker where
  pending := packer.pending ++ [⟨record.chunkIndex, record.bytes, 0, Nat.zero_le _⟩]
  pendingBytes := packer.pendingBytes + record.bytes.length
  chunkCount := packer.chunkCount + 1
  partCount := packer.partCount
  objectBytes := packer.objectBytes + record.bytes.length
  finished := packer.finished

def push (sha256 : Sha256) (packer : MultipartRecordPacker) (recordBytes : Bytes) :
    Except Thrown (List PackedMultipartPart) × MultipartRecordPacker :=
  match packer.checkPush recordBytes with
  | .error e => (.error e, packer)
  | .ok record => (packer.append record).flushReady sha256

def finish (sha256 : Sha256) (packer : MultipartRecordPacker) :
    Except Thrown (List PackedMultipartPart) × MultipartRecordPacker :=
  if packer.finished then
    (.error (.protocol ⟨.invalidRecord, "Multipart packing was already finalized"⟩), packer)
  else
    let packer := { packer with finished := true }
    if packer.chunkCount = 0 then
      (.error (.protocol ⟨.limitExceeded, "Record sequence must not be empty"⟩), packer)
    else if packer.pending.length = 0 then (.ok [], packer)
    else
      match packer.flush sha256 packer.pendingBytes true with
      | (.error e, next) => (.error e, next)
      | (.ok part, next) => (.ok [part], next)

/-- Pushes the records one after the other and finishes. -/
def pack (sha256 : Sha256) (packer : MultipartRecordPacker) :
    List Bytes → Except Thrown (List PackedMultipartPart) × MultipartRecordPacker
  | [] => packer.finish sha256
  | record :: records =>
      match packer.push sha256 record with
      | (.error e, next) => (.error e, next)
      | (.ok ready, next) =>
          let (parts, last) := next.pack sha256 records
          (parts.map (ready ++ ·), last)

end MultipartRecordPacker

def packChunkRecords (sha256 : Sha256) (records : List Bytes) :
    Except Thrown (List PackedMultipartPart) := do
  rejectIf (records.length < 1 ∨ maxRecordingChunks < records.length)
    (.protocol ⟨.limitExceeded, "Record count is outside the protocol limit"⟩)
  (MultipartRecordPacker.new.pack sha256 records).1

end Media

end UnderstandProof
