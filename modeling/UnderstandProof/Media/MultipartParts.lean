import UnderstandProof.Foundation.BlockQueue
import UnderstandProof.Media.Multipart

/-!
# What the packer emits

The queue of the packer holds the pushed records behind the bytes of the emitted
parts. This invariant says which bytes and which chunks the next part has, and it
bounds the queue, so that the guards of `#flush` never fail.
-/

open Foundation Foundation.Tiling Foundation.BlockQueue

namespace UnderstandProof

namespace Media

/-- The segment as a block of the queue: its number and the bytes not yet taken. -/
def PendingRecordSegment.view (segment : PendingRecordSegment) : ℕ × Bytes :=
  (segment.chunkIndex, segment.bytes.drop segment.offset)

theorem PendingRecordSegment.length_view (segment : PendingRecordSegment) :
    segment.view.2.length = segment.available := by
  simp [view, available]

theorem PendingRecordSegment.subarray_eq (segment : PendingRecordSegment) (limit : ℕ) :
    segment.subarray limit = segment.view.2.take limit := by
  rw [subarray, slice, view, Nat.add_sub_cancel_left, ← List.take_take,
    List.take_take, List.take_eq_take_iff]
  simp only [available, List.length_drop]
  omega

theorem PendingRecordSegment.view_advance (segment : PendingRecordSegment) (limit : ℕ) :
    (segment.advance limit).view =
      (segment.chunkIndex, segment.view.2.drop (min segment.available limit)) := by
  have hle := segment.offset_le
  have hlength : (segment.bytes.take segment.offset ++
      List.replicate (min segment.available limit) (0 : UInt8)).length =
        segment.offset + min segment.available limit := by
    rw [List.length_append, List.length_take, List.length_replicate]
    omega
  rw [view, view, advance, List.drop_left' hlength, List.drop_drop]

/-! ## Filling a part -/

/-- The last chunk of a part that starts at `s` and has `n` bytes. -/
def EndsIn (records : List Bytes) (last e : ℕ) : Prop :=
  offset (lengths records) last < e ∧ e ≤ offset (lengths records) (last + 1)

/-- The next `m` bytes of the object come from the front segment, as long as it has
that many. -/
theorem take_front {records : List Bytes} {s m k : ℕ} {bytes front : Bytes}
    {queue : List (ℕ × Bytes)}
    (hqueue : remaining 0 records (s + bytes.length) = (k, front) :: queue)
    (hbytes : bytes = (records.flatten.drop s).take bytes.length) (hm : m ≤ front.length) :
    (records.flatten.drop s).take (bytes.length + m) = bytes ++ front.take m := by
  have hflat : (remaining 0 records (s + bytes.length)).flatMap Prod.snd =
      records.flatten.drop (s + bytes.length) := flatMap_remaining
  rw [hqueue, List.flatMap_cons] at hflat
  rw [List.take_add, ← hbytes, List.drop_drop, ← hflat, List.take_append_of_le_length hm]

theorem PartBuffer.fill_eq {records : List Bytes} {s n : ℕ} (buffer : PartBuffer)
    (hpending : buffer.pending.map PendingRecordSegment.view =
      remaining 0 records (s + buffer.bytes.length))
    (hbytes : buffer.bytes = (records.flatten.drop s).take buffer.bytes.length)
    (hle : buffer.bytes.length ≤ n) (hn : s + n ≤ records.flatten.length)
    (hlast : buffer.bytes.length = n → EndsIn records buffer.lastChunkIndex (s + n)) :
    ∃ filled, PartBuffer.fill n buffer = some filled ∧
      filled.bytes = (records.flatten.drop s).take n ∧
      filled.pending.map PendingRecordSegment.view = remaining 0 records (s + n) ∧
      EndsIn records filled.lastChunkIndex (s + n) := by
  fun_induction PartBuffer.fill n buffer with
  | case1 bytes lastChunkIndex hlt =>
      have hnil := remaining_eq_nil_iff.mp hpending.symm
      simp only at hnil hlt
      omega
  | case2 bytes lastChunkIndex hlt segment rest limit hpopped ih =>
      -- the whole front segment goes into the part
      dsimp only at hpending hbytes hle
      have hqueue : remaining 0 records (s + bytes.length) =
          (segment.chunkIndex, segment.view.2) :: rest.map PendingRecordSegment.view :=
        hpending.symm
      obtain ⟨⟨k, hk, hstart, hend⟩, hne, -, hpop⟩ := front_of_cons hqueue
      have hview := segment.length_view
      have hpos := List.length_pos_of_ne_nil hne
      have htaken : min segment.available limit = segment.available := by
        rw [PendingRecordSegment.length_bytes_advance] at hpopped
        simp only [PendingRecordSegment.advance, PendingRecordSegment.available] at hpopped ⊢
        omega
      have hlength : (segment.subarray limit).length = segment.available := by
        rw [PendingRecordSegment.length_subarray, htaken]
      have hlimit : limit = n - bytes.length := rfl
      apply ih
      · rw [List.length_append, hlength, ← hview, ← Nat.add_assoc]
        exact hpop.symm
      · rw [List.length_append, hlength, take_front hqueue hbytes hview.ge,
          PendingRecordSegment.subarray_eq]
        rw [List.take_of_length_le hview.le, List.take_of_length_le (by omega)]
      · simp only [List.length_append, hlength]
        omega
      · intro hfull
        simp only [List.length_append, hlength] at hfull
        have hindex : segment.chunkIndex = k := by omega
        change EndsIn records segment.chunkIndex (s + n)
        rw [EndsIn, hindex]
        exact ⟨by omega, by omega⟩
  | case3 bytes lastChunkIndex hlt segment rest limit hleft ih =>
      -- the part ends inside the front segment
      dsimp only at hpending hbytes hle
      have hqueue : remaining 0 records (s + bytes.length) =
          (segment.chunkIndex, segment.view.2) :: rest.map PendingRecordSegment.view :=
        hpending.symm
      obtain ⟨⟨k, hk, hstart, hend⟩, hne, htake, -⟩ := front_of_cons hqueue
      have hview := segment.length_view
      have hlimit : limit = n - bytes.length := rfl
      have htaken : limit < segment.available := by
        have hle := segment.offset_le
        rw [PendingRecordSegment.length_bytes_advance] at hleft
        simp only [PendingRecordSegment.advance, PendingRecordSegment.available] at hleft ⊢
        omega
      have hmin : min segment.available limit = limit := min_eq_right htaken.le
      have hlength : (segment.subarray limit).length = limit := by
        rw [PendingRecordSegment.length_subarray, hmin]
      apply ih
      · rw [List.map_cons, PendingRecordSegment.view_advance, hmin, List.length_append,
          hlength, ← Nat.add_assoc]
        exact (htake limit (by omega)).symm
      · rw [List.length_append, hlength, take_front hqueue hbytes (by omega),
          PendingRecordSegment.subarray_eq]
      · simp only [List.length_append, hlength]
        omega
      · intro _
        have hindex : segment.chunkIndex = k := by omega
        change EndsIn records segment.chunkIndex (s + n)
        rw [EndsIn, hindex]
        exact ⟨by omega, by omega⟩
  | case4 pending bytes lastChunkIndex hge =>
      have hfull : bytes.length = n := by
        simp only at hle
        omega
      refine ⟨_, rfl, ?_, ?_, hlast hfull⟩
      · rw [← hfull]
        exact hbytes
      · rw [← hfull]
        exact hpending

/-! ## Flushing -/

/-- The part with this number that holds the `n` bytes from `s` on. -/
structure IsPart (sha256 : Sha256) (records : List Bytes) (number s n : ℕ)
    (part : PackedMultipartPart) : Prop where
  number_eq : part.partNumber = number
  length_eq : part.byteLength = n
  bytes_eq : part.bytes = (records.flatten.drop s).take n
  sha256_eq : part.sha256 = sha256Hex sha256 part.bytes
  window : Window (lengths records) s (s + n) part.firstChunkIndex part.lastChunkIndex

/-- The queue of the packer holds the records behind the first `s` bytes. -/
structure Queued (records : List Bytes) (s : ℕ) (packer : MultipartRecordPacker) :
    Prop where
  pending : packer.pending.map PendingRecordSegment.view = remaining 0 records s
  pendingBytes : packer.pendingBytes + s = records.flatten.length
  count : records.length ≤ maxRecordingChunks

theorem Queued.pending_eq_nil_iff {records : List Bytes} {s : ℕ}
    {packer : MultipartRecordPacker} (h : Queued records s packer) :
    packer.pending = [] ↔ packer.pendingBytes = 0 := by
  have hbytes := h.pendingBytes
  rw [← List.map_eq_nil_iff, h.pending, remaining_eq_nil_iff]
  omega

/-- The first segment is the record that holds the next byte. -/
theorem Queued.firstPendingIndex {records : List Bytes} {s : ℕ}
    {packer : MultipartRecordPacker} (h : Queued records s packer)
    (hpos : 0 < packer.pendingBytes) :
    offset (lengths records) packer.firstPendingIndex ≤ s ∧
      s < offset (lengths records) (packer.firstPendingIndex + 1) := by
  have hne : packer.pending ≠ [] := by
    rw [Ne, h.pending_eq_nil_iff]
    omega
  obtain ⟨segment, rest, hpending⟩ := List.exists_cons_of_ne_nil hne
  have hqueue : remaining 0 records s =
      (segment.chunkIndex, segment.view.2) :: rest.map PendingRecordSegment.view := by
    rw [← h.pending, hpending]
    rfl
  obtain ⟨⟨k, hk, hstart, hend⟩, hfront, -, -⟩ := front_of_cons hqueue
  have hlength := List.length_pos_of_ne_nil hfront
  have hindex : packer.firstPendingIndex = k := by
    rw [MultipartRecordPacker.firstPendingIndex, hpending]
    simpa using hk
  rw [hindex]
  omega

/-- Flushing a part within the bounds succeeds and takes it off the queue. -/
theorem Queued.flush (sha256 : Sha256) {records : List Bytes} {s n : ℕ}
    {packer : MultipartRecordPacker} (h : Queued records s packer) (finalPart : Bool)
    (hpos : 0 < n) (hle : n ≤ packer.pendingBytes) (hmax : n ≤ maxEncryptedBufferBytes)
    (hfinal : finalPart = false → n = multipartTargetBytes)
    (hcount : packer.partCount < maxMultipartParts) :
    ∃ part next, packer.flush sha256 n finalPart = (.ok part, next) ∧
      IsPart sha256 records (packer.partCount + 1) s n part ∧ Queued records (s + n) next ∧
      next = { packer with
        pending := next.pending
        pendingBytes := packer.pendingBytes - n
        partCount := packer.partCount + 1 } := by
  have hbytes := h.pendingBytes
  have hne : packer.pending ≠ [] := by
    rw [Ne, h.pending_eq_nil_iff]
    omega
  obtain ⟨filled, hfill, hfilled, hpending, hlast⟩ := PartBuffer.fill_eq (n := n)
    ⟨packer.pending, [], packer.firstPendingIndex⟩ h.pending rfl (Nat.zero_le n)
    (show s + n ≤ records.flatten.length by omega) (by simp only [List.length_nil]; omega)
  have hlength : filled.bytes.length = n := by
    rw [hfilled, List.length_take, List.length_drop]
    omega
  obtain ⟨hfirst, hfirst'⟩ := h.firstPendingIndex (by omega)
  have hwindow : Window (lengths records) s (s + n) packer.firstPendingIndex
      filled.lastChunkIndex := ⟨by omega, hfirst, hfirst', hlast.1, hlast.2⟩
  have hcheck : packer.checkFlush n finalPart = .ok () := by
    rw [MultipartRecordPacker.checkFlush, rejectIf_bind_eq_ok, rejectIf_bind_eq_ok,
      rejectIf_eq_ok]
    refine ⟨?_, ?_, by omega⟩
    · rw [List.length_eq_zero_iff]
      simp only [hne, false_or]
      omega
    · rintro (hlarge | ⟨hnot, hsmall | hother⟩)
      · omega
      · have htarget := hfinal hnot
        simp only [s3MinimumNonfinalPartBytes, multipartTargetBytes] at hsmall htarget
        omega
      · exact hother (hfinal hnot)
  have hschema : ManifestPartSchema.parse ⟨packer.partCount + 1, packer.firstPendingIndex,
      filled.lastChunkIndex, filled.bytes.length, sha256Hex sha256 filled.bytes⟩ =
        .ok ⟨packer.partCount + 1, packer.firstPendingIndex, filled.lastChunkIndex,
          filled.bytes.length, sha256Hex sha256 filled.bytes⟩ := by
    have hfirstLt := hwindow.first_lt_length
    have hlastLt := hwindow.last_lt_length
    have hrecords := h.count
    have huint : maxRecordingChunks ≤ maxUint32 := by decide
    have hobject : maxEncryptedBufferBytes ≤ maxRecordingObjectBytes := by decide
    rw [length_lengths] at hfirstLt hlastLt
    rw [ManifestPartSchema.parse, if_pos]
    simp only [ManifestPartSchema.accepts, sha256Hex_accepted, Bool.and_eq_true,
      decide_eq_true_eq, and_true]
    omega
  refine ⟨⟨⟨packer.partCount + 1, packer.firstPendingIndex, filled.lastChunkIndex,
    filled.bytes.length, sha256Hex sha256 filled.bytes⟩, filled.bytes⟩,
    { packer with
      pending := filled.pending
      pendingBytes := packer.pendingBytes - n
      partCount := packer.partCount + 1 }, ?_, ⟨rfl, hlength, hfilled, rfl, hwindow⟩, ⟨hpending, ?_, h.count⟩, rfl⟩
  · rw [MultipartRecordPacker.flush, hcheck]
    simp only [hfill, hschema]
  · simp only
    omega

/-! ## Pushing -/

/-- The packer after the records have been pushed and the parts emitted: every
emitted part is a window of the target size. -/
structure Packed (sha256 : Sha256) (records : List Bytes) (parts : List PackedMultipartPart)
    (packer : MultipartRecordPacker) : Prop
    extends Queued records (multipartTargetBytes * parts.length) packer where
  finished : packer.finished = false
  chunkCount : packer.chunkCount = records.length
  objectBytes : packer.objectBytes = records.flatten.length
  partCount : packer.partCount = parts.length
  object_le : records.flatten.length ≤ maxRecordingObjectBytes
  records_ne : ∀ record ∈ records, record ≠ []
  parts : ∀ k (hk : k < parts.length), IsPart sha256 records (k + 1)
    (multipartTargetBytes * k) multipartTargetBytes parts[k]

theorem Packed.new (sha256 : Sha256) : Packed sha256 [] [] .new where
  pending := rfl
  pendingBytes := rfl
  count := by decide
  finished := rfl
  chunkCount := rfl
  objectBytes := rfl
  partCount := rfl
  object_le := by decide
  records_ne := by simp
  parts := by simp

theorem IsPart.append {sha256 : Sha256} {records : List Bytes} {number s n : ℕ}
    {part : PackedMultipartPart} (h : IsPart sha256 records number s n part)
    (record : Bytes) : IsPart sha256 (records ++ [record]) number s n part where
  number_eq := h.number_eq
  length_eq := h.length_eq
  bytes_eq := by
    have hle := h.window.le_sum
    rw [sum_lengths] at hle
    rw [h.bytes_eq, List.flatten_append, List.drop_append_of_le_length (by omega),
      List.take_append_of_le_length (by rw [List.length_drop]; omega)]
  sha256_eq := h.sha256_eq
  window := by
    rw [lengths, List.map_append]
    exact h.window.append _

/-- The object limit leaves room for half of the parts that the protocol allows. -/
theorem partCount_lt {count : ℕ}
    (h : multipartTargetBytes * count < maxRecordingObjectBytes) :
    count < maxMultipartParts := by
  simp only [multipartTargetBytes, maxRecordingObjectBytes, maxMultipartParts] at h ⊢
  omega

/-- One part of the target size goes from the queue to the emitted parts. -/
theorem Packed.flush {sha256 : Sha256} {records : List Bytes}
    {parts : List PackedMultipartPart} {packer : MultipartRecordPacker}
    (h : Packed sha256 records parts packer)
    (hle : multipartTargetBytes ≤ packer.pendingBytes) :
    ∃ part next, packer.flush sha256 multipartTargetBytes false = (.ok part, next) ∧
      Packed sha256 records (parts ++ [part]) next := by
  have hbytes := h.pendingBytes
  have hobject := h.object_le
  have htarget : 0 < multipartTargetBytes := by decide
  obtain ⟨part, next, hflush, hpart, hqueued, hnext⟩ := h.toQueued.flush sha256 false
    htarget hle (by decide) (fun _ => rfl) (by
      rw [h.partCount]
      exact partCount_lt (by omega))
  have hposition : multipartTargetBytes * (parts ++ [part]).length =
      multipartTargetBytes * parts.length + multipartTargetBytes := by
    rw [List.length_append, List.length_singleton, Nat.mul_succ]
  rw [h.partCount] at hpart
  refine ⟨part, next, hflush, ⟨hposition ▸ hqueued, ?_, ?_, ?_, ?_, h.object_le,
    h.records_ne, ?_⟩⟩
  · rw [hnext]
    exact h.finished
  · rw [hnext]
    exact h.chunkCount
  · rw [hnext]
    exact h.objectBytes
  · rw [hnext, List.length_append, List.length_singleton, h.partCount]
  · exact (forall_getElem_concat (P := fun p k => IsPart sha256 records (k + 1)
      (multipartTargetBytes * k) multipartTargetBytes p)).mpr ⟨h.parts, hpart⟩

/-- The loop of `push` emits parts until less than one part is left. -/
theorem Packed.flushReady {sha256 : Sha256} {records : List Bytes}
    {parts : List PackedMultipartPart} {packer : MultipartRecordPacker}
    (h : Packed sha256 records parts packer) :
    ∃ ready next, packer.flushReady sha256 = (.ok ready, next) ∧
      Packed sha256 records (parts ++ ready) next ∧
      next.pendingBytes < multipartTargetBytes := by
  fun_induction MultipartRecordPacker.flushReady sha256 packer generalizing parts with
  | case1 packer hle e next herror =>
      obtain ⟨part, next', hflush, -⟩ := h.flush hle
      rw [hflush] at herror
      cases herror
  | case2 packer hle part next hflush ready last hrest ih =>
      obtain ⟨part', next', hflush', hpacked⟩ := h.flush hle
      rw [hflush] at hflush'
      cases hflush'
      obtain ⟨ready', last', hready, hpacked', hlt⟩ := ih hpacked
      rw [hready] at hrest
      cases hrest
      refine ⟨part :: ready', last, rfl, ?_, hlt⟩
      rwa [List.append_assoc] at hpacked'
  | case3 packer hlt =>
      exact ⟨[], packer, rfl, by rwa [List.append_nil], by omega⟩

/-- An accepted record goes to the end of the queue. -/
theorem Packed.append {sha256 : Sha256} {records : List Bytes}
    {parts : List PackedMultipartPart} {packer : MultipartRecordPacker}
    (h : Packed sha256 records parts packer) {recordBytes : Bytes} {record : ChunkRecord}
    (hcheck : packer.checkPush recordBytes = .ok record) :
    Packed sha256 (records ++ [recordBytes]) parts (packer.append record) := by
  rw [MultipartRecordPacker.checkPush, rejectIf_bind_eq_ok, rejectIf_bind_eq_ok,
    bind_eq_ok] at hcheck
  obtain ⟨-, hcount, parsed, hparse, hcheck⟩ := hcheck
  rw [rejectIf_bind_eq_ok, rejectIf_bind_eq_ok, rejectIf_bind_eq_ok] at hcheck
  obtain ⟨hindex, hobject, -, hrecord⟩ := hcheck
  cases hrecord
  obtain ⟨frame, rfl, rfl⟩ := parseChunkRecord_eq_ok.mp (orThrow_eq_ok.mp hparse)
  have hbytes := h.pendingBytes
  have hflat : (records ++ [frame.encode]).flatten.length =
      records.flatten.length + frame.encode.length := by
    simp
  have hrecordBytes : frame.record.bytes = frame.encode := rfl
  rw [h.chunkCount] at hcount
  rw [h.objectBytes] at hobject
  rw [hrecordBytes] at hobject
  refine ⟨⟨?_, ?_, ?_⟩, h.finished, ?_, ?_, h.partCount, by omega, ?_,
    fun k hk => (h.parts k hk).append _⟩
  · rw [MultipartRecordPacker.append, List.map_append, h.pending,
      remaining_concat (by omega) frame.encode_ne_nil, Nat.zero_add]
    simp [PendingRecordSegment.view, hrecordBytes, not_not.mp hindex, h.chunkCount]
  · rw [hflat]
    change packer.pendingBytes + frame.encode.length + _ = _
    omega
  · rw [List.length_append, List.length_singleton]
    omega
  · simp [MultipartRecordPacker.append, h.chunkCount]
  · rw [hflat, ← h.objectBytes]
    rfl
  · intro record hrecord
    rcases List.mem_append.mp hrecord with hrecord | hrecord
    · exact h.records_ne record hrecord
    · rw [List.mem_singleton.mp hrecord]
      exact frame.encode_ne_nil

/-! ## Errors -/

/-- The errors that stand for a broken queue, part or count. -/
def internalErrors : List Thrown :=
  [stagingBufferExceeded, flushOutsidePending, sizeBoundsViolated, partCountExceeded,
    stagingBufferEnded, .zod]

theorem parseChunkRecord_error {bytes : Bytes} {e : RecordingProtocolError}
    (h : parseChunkRecord bytes = .error e) : Thrown.protocol e ∉ internalErrors := by
  rw [parseChunkRecord, bind_eq_error] at h
  rcases h with h | ⟨record, -, h⟩
  · rw [parseRecordAt, rejectIf_bind_eq_error] at h
    rcases h with ⟨-, rfl⟩ | ⟨-, h⟩
    · decide
    rw [rejectIf_bind_eq_error] at h
    rcases h with ⟨-, rfl⟩ | ⟨-, h⟩
    · decide
    rw [rejectIf_bind_eq_error] at h
    rcases h with ⟨-, rfl⟩ | ⟨-, h⟩
    · decide
    rw [bind_eq_error] at h
    rcases h with h | ⟨nonce, -, h⟩
    · rw [buildChunkNonce, rejectIf_bind_eq_error, rejectIf_bind_eq_error] at h
      rcases h with ⟨-, rfl⟩ | ⟨-, ⟨-, rfl⟩ | ⟨-, h⟩⟩
      · decide
      · decide
      · cases h
    rw [rejectIf_bind_eq_error] at h
    rcases h with ⟨-, rfl⟩ | ⟨-, h⟩
    · decide
    rw [rejectIf_bind_eq_error, rejectIf_bind_eq_error] at h
    rcases h with ⟨-, rfl⟩ | ⟨-, ⟨-, rfl⟩ | ⟨-, h⟩⟩
    · decide
    · decide
    · cases h
  · rw [rejectIf_bind_eq_error] at h
    rcases h with ⟨-, rfl⟩ | ⟨-, h⟩
    · decide
    · cases h

/-- A record of at most 4 MiB fits into the staging buffer beside less than one
part, so the guards of `push` only refuse what the caller hands in. -/
theorem checkPush_error {packer : MultipartRecordPacker}
    (hlt : packer.pendingBytes < multipartTargetBytes) {recordBytes : Bytes} {e : Thrown}
    (hcheck : packer.checkPush recordBytes = .error e) : e ∉ internalErrors := by
  rw [MultipartRecordPacker.checkPush, rejectIf_bind_eq_error, rejectIf_bind_eq_error,
    bind_eq_error] at hcheck
  rcases hcheck with ⟨-, rfl⟩ | ⟨-, ⟨-, rfl⟩ | ⟨-, hparse | ⟨record, hparse, hcheck⟩⟩⟩
  · decide
  · decide
  · cases hrecord : parseChunkRecord recordBytes with
    | ok record =>
        rw [hrecord] at hparse
        cases hparse
    | error e' =>
        rw [hrecord] at hparse
        cases hparse
        exact parseChunkRecord_error hrecord
  · rw [rejectIf_bind_eq_error, rejectIf_bind_eq_error, rejectIf_bind_eq_error] at hcheck
    rcases hcheck with ⟨-, rfl⟩ | ⟨-, ⟨-, rfl⟩ | ⟨-, ⟨hbuffer, rfl⟩ | ⟨-, hcheck⟩⟩⟩
    · decide
    · decide
    · obtain ⟨frame, rfl, rfl⟩ := parseChunkRecord_eq_ok.mp (orThrow_eq_ok.mp hparse)
      have hlength := frame.length_encode
      have hsealed := frame.sealed_le
      have hrecordBytes : frame.record.bytes.length = frame.encode.length := rfl
      simp only [recordHeaderBytes, maxPlaintextChunkBytes, aesGcmTagBytes,
        multipartTargetBytes, maxEncryptedBufferBytes] at hlength hsealed hlt hbuffer
      omega
    · cases hcheck

/-- A record is accepted when it is the frame at the next index and fits into the
object. -/
theorem Packed.checkPush_frame {sha256 : Sha256} {records : List Bytes}
    {parts : List PackedMultipartPart} {packer : MultipartRecordPacker}
    (h : Packed sha256 records parts packer)
    (hlt : packer.pendingBytes < multipartTargetBytes) {frame : Frame}
    (hcount : records.length < maxRecordingChunks) (hindex : frame.chunkIndex = records.length)
    (hobject : records.flatten.length + frame.encode.length ≤ maxRecordingObjectBytes) :
    packer.checkPush frame.encode = .ok frame.record := by
  have hlength := frame.length_encode
  have hsealed := frame.sealed_le
  have hrecordBytes : frame.record.bytes.length = frame.encode.length := rfl
  rw [MultipartRecordPacker.checkPush, rejectIf_bind_eq_ok, rejectIf_bind_eq_ok, bind_eq_ok,
    h.finished, h.chunkCount]
  refine ⟨by simp, by omega, frame.record,
    orThrow_eq_ok.mpr (parseChunkRecord_eq_ok.mpr ⟨frame, rfl, rfl⟩), ?_⟩
  rw [rejectIf_bind_eq_ok, rejectIf_bind_eq_ok, rejectIf_bind_eq_ok, h.objectBytes]
  refine ⟨not_not.mpr hindex, by omega, ?_, rfl⟩
  simp only [recordHeaderBytes, maxPlaintextChunkBytes, aesGcmTagBytes,
    multipartTargetBytes, maxEncryptedBufferBytes] at hlength hsealed hlt ⊢
  omega

/-! ## Whole runs -/

/-- The parts are the consecutive windows of the target size over all records;
only the last one may be shorter. -/
structure Packs (sha256 : Sha256) (records : List Bytes) (parts : List PackedMultipartPart) :
    Prop where
  ne_nil : records ≠ []
  count : records.length ≤ maxRecordingChunks
  lt_total : ∀ k < parts.length, multipartTargetBytes * k < records.flatten.length
  total_le : records.flatten.length ≤ multipartTargetBytes * parts.length
  object_le : records.flatten.length ≤ maxRecordingObjectBytes
  records_ne : ∀ record ∈ records, record ≠ []
  parts : ∀ k (hk : k < parts.length), IsPart sha256 records (k + 1)
    (multipartTargetBytes * k)
    (min multipartTargetBytes (records.flatten.length - multipartTargetBytes * k)) parts[k]

/-- `finish` emits what is left in the queue. -/
theorem Packed.finish {sha256 : Sha256} {records : List Bytes}
    {parts : List PackedMultipartPart} {packer : MultipartRecordPacker}
    (h : Packed sha256 records parts packer)
    (hlt : packer.pendingBytes < multipartTargetBytes) (hne : records ≠ []) :
    ∃ last next, packer.finish sha256 = (.ok last, next) ∧ next.finished = true ∧
      Packs sha256 records (parts ++ last) := by
  have hbytes := h.pendingBytes
  have hobject := h.object_le
  have hcount : packer.chunkCount ≠ 0 := by
    rw [h.chunkCount]
    exact fun h0 => hne (List.length_eq_zero_iff.mp h0)
  have hfull : ∀ k < parts.length,
      multipartTargetBytes * k + multipartTargetBytes ≤ records.flatten.length := by
    intro k hk
    have hmul := Nat.mul_le_mul_left multipartTargetBytes (show k + 1 ≤ parts.length by omega)
    rw [Nat.mul_succ] at hmul
    omega
  have hparts : ∀ k (hk : k < parts.length), IsPart sha256 records (k + 1)
      (multipartTargetBytes * k)
      (min multipartTargetBytes (records.flatten.length - multipartTargetBytes * k))
      parts[k] := by
    intro k hk
    have hle := hfull k hk
    rw [min_eq_left (by omega)]
    exact h.parts k hk
  have htarget : 0 < multipartTargetBytes := by decide
  by_cases hpending : packer.pending = []
  · have hempty := h.toQueued.pending_eq_nil_iff.mp hpending
    refine ⟨[], { packer with finished := true }, ?_, rfl, ?_⟩
    · simp [MultipartRecordPacker.finish, h.finished, hcount, hpending]
    · rw [List.append_nil]
      refine ⟨hne, h.count, ?_, by omega, hobject, h.records_ne, hparts⟩
      intro k hk
      have hle := hfull k hk
      omega
  · have hpos : packer.pendingBytes ≠ 0 := fun h0 =>
      hpending (h.toQueued.pending_eq_nil_iff.mpr h0)
    have hqueued : Queued records (multipartTargetBytes * parts.length)
        { packer with finished := true } := ⟨h.pending, h.pendingBytes, h.count⟩
    have hbuffer : multipartTargetBytes ≤ maxEncryptedBufferBytes := by decide
    obtain ⟨part, next, hflush, hpart, -, hnext⟩ := hqueued.flush sha256
      (n := packer.pendingBytes) true (by omega) le_rfl (by omega)
      (by simp) (by
        rw [h.partCount]
        exact partCount_lt (by omega))
    refine ⟨[part], next, ?_, ?_, hne, h.count, ?_, ?_, hobject, h.records_ne, ?_⟩
    · simp [MultipartRecordPacker.finish, h.finished, hcount, hpending, hflush]
    · rw [hnext]
    · intro k hk
      rw [List.length_append, List.length_singleton] at hk
      by_cases hlast : k < parts.length
      · have hle := hfull k hlast
        omega
      · obtain rfl : k = parts.length := by omega
        omega
    · rw [List.length_append, List.length_singleton, Nat.mul_succ]
      omega
    · refine (forall_getElem_concat (P := fun p k => IsPart sha256 records (k + 1)
        (multipartTargetBytes * k)
        (min multipartTargetBytes (records.flatten.length - multipartTargetBytes * k))
        p)).mpr ⟨hparts, ?_⟩
      rw [h.partCount] at hpart
      rwa [show min multipartTargetBytes (records.flatten.length -
        multipartTargetBytes * parts.length) = packer.pendingBytes by omega]

end Media

end UnderstandProof
