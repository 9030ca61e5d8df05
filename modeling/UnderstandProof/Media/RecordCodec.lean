import Mathlib.Algebra.Group.Action.Defs
import UnderstandProof.Media.Records

/-!
# The record codec

Building and parsing a record are inverse to each other, and a sequence of
records is parsed exactly when it is the concatenation of records that parse on
their own, continue one another's index and share one nonce prefix. The parser
also bounds the length of the concatenation, so a list within the chunk limit may
still be too long for it.
-/

open Foundation

namespace UnderstandProof

namespace Media

/-- The fields that a record was built from. -/
def ChunkRecord.fields (record : ChunkRecord) : RecordFields where
  chunkIndex := record.chunkIndex
  nonce := record.nonce
  plaintextLength := record.plaintextLength
  sealed := record.sealed

/-- Records that parse on their own, carry consecutive indices from `first` on
and share one nonce prefix. -/
structure RecordSequence (first : ℕ) (records : List ChunkRecord) : Prop where
  parsed : ∀ record ∈ records, parseChunkRecord record.bytes = .ok record
  length_pos : 1 ≤ records.length
  length_le : records.length ≤ maxRecordingChunks
  indices : records.map ChunkRecord.chunkIndex = List.range' first records.length
  prefixes : ∃ noncePrefix, ∀ record ∈ records, slice record.nonce 0 8 = noncePrefix

def concatRecords (records : List ChunkRecord) : Bytes := records.flatMap ChunkRecord.bytes

/-! ## One record -/

/-- What is built from valid fields parses to these fields. -/
theorem parseChunkRecord_buildChunkRecord {chunkIndex plaintextLength : ℕ}
    {noncePrefix sealed : Bytes} (hindex : chunkIndex ≤ maxUint32)
    (hpre : noncePrefix.length = noncePrefixBytes) (hpos : 1 ≤ plaintextLength)
    (hle : plaintextLength ≤ maxPlaintextChunkBytes)
    (hsealed : sealed.length = plaintextLength + aesGcmTagBytes) :
    ∃ nonce bytes, buildChunkNonce noncePrefix chunkIndex = .ok nonce ∧
      buildChunkRecord ⟨chunkIndex, nonce, plaintextLength, sealed⟩ = .ok bytes ∧
      parseChunkRecord bytes =
        .ok ⟨chunkIndex, nonce, plaintextLength, sealed.length, sealed, bytes⟩ := by
  let frame : Frame := ⟨noncePrefix, chunkIndex, sealed, hpre, hindex, by omega, by omega⟩
  have hplain : frame.plaintextLength = plaintextLength := by
    simp only [frame, Frame.plaintextLength]
    omega
  refine ⟨frame.nonce, frame.encode, buildChunkNonce_of hpre hindex, ?_, ?_⟩
  · refine buildChunkRecord_eq_ok.mpr ⟨frame, ?_, rfl⟩
    rw [Frame.fields, hplain]
  · refine parseChunkRecord_eq_ok.mpr ⟨frame, ?_, rfl⟩
    rw [Frame.record, hplain]

/-- What parses is built again, byte for byte, from the parsed fields. -/
theorem buildChunkRecord_parseChunkRecord {bytes : Bytes} {record : ChunkRecord}
    (h : parseChunkRecord bytes = .ok record) :
    record.bytes = bytes ∧ buildChunkRecord record.fields = .ok bytes := by
  obtain ⟨frame, rfl, rfl⟩ := parseChunkRecord_eq_ok.mp h
  exact ⟨rfl, buildChunkRecord_eq_ok.mpr ⟨frame, rfl, rfl⟩⟩

/-! ## Sequences -/

theorem concatRecords_map_record (frames : List Frame) :
    concatRecords (frames.map Frame.record) = encodeFrames frames := by
  simp only [concatRecords, encodeFrames, List.flatMap_map]
  rfl

/-- A list of records that parse on their own is the list of the records of
frames. -/
theorem exists_frames_of_parsed {records : List ChunkRecord}
    (h : ∀ record ∈ records, parseChunkRecord record.bytes = .ok record) :
    ∃ frames : List Frame, records = frames.map Frame.record := by
  induction records with
  | nil => exact ⟨[], rfl⟩
  | cons record records ih =>
      obtain ⟨frames, rfl⟩ := ih fun r hr => h r (List.mem_cons_of_mem _ hr)
      obtain ⟨frame, rfl, -⟩ := parseChunkRecord_eq_ok.mp (h record List.mem_cons_self)
      exact ⟨frame :: frames, rfl⟩

theorem recordSequence_map_record_iff {first : ℕ} {frames : List Frame} :
    RecordSequence first (frames.map Frame.record) ↔
      (∃ noncePrefix, Consecutive noncePrefix first frames) ∧ frames ≠ [] ∧
        frames.length ≤ maxRecordingChunks := by
  constructor
  · rintro ⟨-, hpos, hle, hindices, noncePrefix, hprefixes⟩
    rw [List.length_map] at hpos hle hindices
    refine ⟨⟨noncePrefix, ?_, ?_⟩, List.ne_nil_of_length_pos hpos, hle⟩
    · rw [← hindices, List.map_map]
      rfl
    · intro frame hframe
      rw [← hprefixes frame.record (List.mem_map_of_mem hframe)]
      exact frame.slice_nonce.symm
  · rintro ⟨⟨noncePrefix, hconsecutive⟩, hne, hle⟩
    refine ⟨?_, ?_, ?_, ?_, noncePrefix, ?_⟩
    · intro record hrecord
      obtain ⟨frame, -, rfl⟩ := List.mem_map.mp hrecord
      exact parseChunkRecord_eq_ok.mpr ⟨frame, rfl, rfl⟩
    · rw [List.length_map]
      exact List.length_pos_of_ne_nil hne
    · rwa [List.length_map]
    · rw [List.length_map, ← hconsecutive.indices, List.map_map]
      rfl
    · intro record hrecord
      obtain ⟨frame, hframe, rfl⟩ := List.mem_map.mp hrecord
      exact frame.slice_nonce.trans (hconsecutive.prefixes frame hframe)

theorem RecordSequence.first_le {first : ℕ} {frames : List Frame}
    (h : RecordSequence first (frames.map Frame.record)) : first ≤ maxUint32 := by
  obtain ⟨⟨_, hconsecutive⟩, hne, -⟩ := recordSequence_map_record_iff.mp h
  obtain ⟨frame, frames, rfl⟩ := List.exists_cons_of_ne_nil hne
  rw [← (Consecutive.cons_iff.mp hconsecutive).1]
  exact frame.index_le

/-- The byte strings that parse as a sequence are the concatenations, within the
size limit, of the records that come back. -/
theorem parseChunkRecordSequence_eq_ok_iff {first : ℕ} {bytes : Bytes}
    {records : List ChunkRecord} :
    parseChunkRecordSequence bytes first = .ok records ↔
      RecordSequence first records ∧ bytes = concatRecords records ∧
        bytes.length ≤ maxRecordingObjectBytes := by
  rw [parseChunkRecordSequence_eq_ok]
  constructor
  · rintro ⟨-, hsize, noncePrefix, frames, hbytes, hconsecutive, hne, hle, rfl⟩
    refine ⟨recordSequence_map_record_iff.mpr ⟨⟨noncePrefix, hconsecutive⟩, hne, hle⟩, ?_, hsize⟩
    rw [concatRecords_map_record, hbytes]
  · rintro ⟨hsequence, hbytes, hsize⟩
    obtain ⟨frames, rfl⟩ := exists_frames_of_parsed hsequence.parsed
    obtain ⟨⟨noncePrefix, hconsecutive⟩, hne, hle⟩ :=
      recordSequence_map_record_iff.mp hsequence
    refine ⟨hsequence.first_le, hsize, noncePrefix, frames, ?_, hconsecutive, hne, hle, rfl⟩
    rw [hbytes, concatRecords_map_record]

/-- The codec is a bijection with its image: build then parse, parse then build,
and the sequence parser, which accepts the concatenations within the size limit
and nothing else. -/
theorem recordCodec_bijective :
    (∀ (chunkIndex plaintextLength : ℕ) (noncePrefix sealed : Bytes),
      chunkIndex ≤ maxUint32 → noncePrefix.length = noncePrefixBytes →
      1 ≤ plaintextLength → plaintextLength ≤ maxPlaintextChunkBytes →
      sealed.length = plaintextLength + aesGcmTagBytes →
      ∃ nonce bytes, buildChunkNonce noncePrefix chunkIndex = .ok nonce ∧
        buildChunkRecord ⟨chunkIndex, nonce, plaintextLength, sealed⟩ = .ok bytes ∧
        parseChunkRecord bytes =
          .ok ⟨chunkIndex, nonce, plaintextLength, sealed.length, sealed, bytes⟩) ∧
    (∀ bytes record, parseChunkRecord bytes = .ok record →
      record.bytes = bytes ∧ buildChunkRecord record.fields = .ok bytes) ∧
    (∀ first records, RecordSequence first records →
      (concatRecords records).length ≤ maxRecordingObjectBytes →
      parseChunkRecordSequence (concatRecords records) first = .ok records) ∧
    (∀ first bytes records, parseChunkRecordSequence bytes first = .ok records →
      RecordSequence first records ∧ bytes = concatRecords records) := by
  refine ⟨?_, ?_, ?_, ?_⟩
  · intro chunkIndex plaintextLength noncePrefix sealed hindex hpre hpos hle hsealed
    exact parseChunkRecord_buildChunkRecord hindex hpre hpos hle hsealed
  · intro bytes record h
    exact buildChunkRecord_parseChunkRecord h
  · intro first records hsequence hsize
    exact parseChunkRecordSequence_eq_ok_iff.mpr ⟨hsequence, rfl, hsize⟩
  · intro first bytes records h
    obtain ⟨hsequence, hbytes, -⟩ := parseChunkRecordSequence_eq_ok_iff.mp h
    exact ⟨hsequence, hbytes⟩

/-- The shortest record goes through the codec and back. -/
theorem recordCodec_bijective_shortest :
    ∃ bytes record, buildChunkRecord ⟨0, List.replicate 12 0, 1, List.replicate 17 0⟩ =
        .ok bytes ∧
      parseChunkRecord bytes = .ok record ∧ buildChunkRecord record.fields = .ok bytes ∧
      parseChunkRecordSequence bytes 0 = .ok [record] := by
  obtain ⟨hbuild, hparse, hsequence, -⟩ := recordCodec_bijective
  obtain ⟨nonce, bytes, hnonce, hbuilt, hparsed⟩ :=
    hbuild 0 1 (List.replicate 8 0) (List.replicate 17 0) (by decide) (by decide)
      (by decide) (by decide) (by decide)
  obtain rfl : List.replicate 12 0 = nonce :=
    Except.ok.inj ((by decide : buildChunkNonce _ 0 = .ok (List.replicate 12 0)).symm.trans hnonce)
  obtain ⟨-, hrebuilt⟩ := hparse _ _ hparsed
  have hlength : bytes.length = 49 := by
    obtain ⟨frame, hfields, rfl⟩ := buildChunkRecord_eq_ok.mp hbuilt
    rw [Frame.length_encode, show frame.sealed = List.replicate 17 0 from
      (congrArg RecordFields.sealed hfields).symm]
    rfl
  have hrecord : RecordSequence 0 [⟨0, List.replicate 12 0, 1, (List.replicate 17 0).length,
      List.replicate 17 0, bytes⟩] := by
    refine ⟨?_, Nat.le_refl 1, (by decide : 1 ≤ maxRecordingChunks), rfl, List.replicate 8 0, ?_⟩
    · intro record hmem
      obtain rfl := List.mem_singleton.mp hmem
      exact hparsed
    · intro record hmem
      obtain rfl := List.mem_singleton.mp hmem
      rfl
  refine ⟨bytes, _, hbuilt, hparsed, hrebuilt, ?_⟩
  have happly := hsequence 0 _ hrecord
  simp only [concatRecords, List.flatMap_cons, List.flatMap_nil, List.append_nil, hlength]
    at happly
  exact happly (by decide)

/-! ## The size limit -/

theorem length_zeroPrefix :
    (List.replicate noncePrefixBytes (0 : UInt8)).length = noncePrefixBytes :=
  List.length_replicate

theorem tag_lt_fullSealed : aesGcmTagBytes <
    (List.replicate (maxPlaintextChunkBytes + aesGcmTagBytes) (0 : UInt8)).length := by
  rw [List.length_replicate, maxPlaintextChunkBytes]
  omega

theorem fullSealed_le :
    (List.replicate (maxPlaintextChunkBytes + aesGcmTagBytes) (0 : UInt8)).length ≤
      maxPlaintextChunkBytes + aesGcmTagBytes := by
  rw [List.length_replicate]

/-- A frame of the greatest length. -/
def fullFrame (chunkIndex : ℕ) (hindex : chunkIndex ≤ maxUint32) : Frame where
  noncePrefix := List.replicate noncePrefixBytes 0
  chunkIndex := chunkIndex
  sealed := List.replicate (maxPlaintextChunkBytes + aesGcmTagBytes) 0
  prefix_length := length_zeroPrefix
  index_le := hindex
  tag_lt := tag_lt_fullSealed
  sealed_le := fullSealed_le

/-- Frames of the greatest length with the indices from 0 on. -/
def fullFrames (count : ℕ) (hcount : count ≤ maxRecordingChunks) : List Frame :=
  List.ofFn fun i : Fin count => fullFrame i (by
    have hi := i.isLt
    simp only [maxRecordingChunks, maxUint32] at hcount ⊢
    omega)

theorem consecutive_fullFrames {count : ℕ} (hcount : count ≤ maxRecordingChunks) :
    Consecutive (List.replicate noncePrefixBytes 0) 0 (fullFrames count hcount) := by
  refine ⟨?_, ?_⟩
  · apply List.ext_getElem
    · simp [fullFrames]
    · intro i _ _
      simp [fullFrames, fullFrame]
  · intro frame hframe
    obtain ⟨i, rfl⟩ := List.mem_ofFn.mp hframe
    rfl

theorem length_encodeFrames_fullFrames {count : ℕ} (hcount : count ≤ maxRecordingChunks) :
    (encodeFrames (fullFrames count hcount)).length =
      count * (recordHeaderBytes + (maxPlaintextChunkBytes + aesGcmTagBytes)) := by
  have hlength : ∀ frame ∈ fullFrames count hcount, frame.encode.length =
      recordHeaderBytes + (maxPlaintextChunkBytes + aesGcmTagBytes) := by
    intro frame hframe
    obtain ⟨i, rfl⟩ := List.mem_ofFn.mp hframe
    rw [Frame.length_encode, fullFrame, List.length_replicate]
  rw [encodeFrames, List.length_flatMap, List.map_congr_left hlength, List.map_const',
    List.sum_replicate, fullFrames, List.length_ofFn, smul_eq_mul]

/-- Thirty-three records of the greatest length are too long for the sequence
parser. -/
theorem recordSequence_not_parsed :
    ¬ ∀ first records, RecordSequence first records →
      parseChunkRecordSequence (concatRecords records) first = .ok records := by
  intro h
  have hcount : 33 ≤ maxRecordingChunks := by decide
  have hsequence : RecordSequence 0 ((fullFrames 33 hcount).map Frame.record) := by
    refine recordSequence_map_record_iff.mpr ⟨⟨_, consecutive_fullFrames hcount⟩, ?_, ?_⟩
    · simp [fullFrames]
    · rw [fullFrames, List.length_ofFn]
      exact hcount
  obtain ⟨-, -, hsize⟩ := parseChunkRecordSequence_eq_ok_iff.mp (h _ _ hsequence)
  rw [concatRecords_map_record, length_encodeFrames_fullFrames] at hsize
  simp only [recordHeaderBytes, maxPlaintextChunkBytes, aesGcmTagBytes,
    maxRecordingObjectBytes] at hsize
  omega

end Media

end UnderstandProof
