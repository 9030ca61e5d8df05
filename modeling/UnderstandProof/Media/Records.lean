import UnderstandProof.Media.Encoding

/-!
# SPC1 records

A record is a header of 32 bytes and the sealed chunk. `Frame` is the content of
a well-formed record: its fields carry the bounds that the parser checks, so a
frame that breaks them cannot be built. Parsing succeeds exactly on the encoding
of a frame, whatever follows it, and a sequence parses exactly when it is the
concatenation of the encodings of consecutive frames under one nonce prefix.
-/

open Foundation

namespace UnderstandProof

namespace Media

/-- The bytes from `start` to `stop`, as `slice` and `subarray` return them. -/
def slice (bytes : Bytes) (start stop : ℕ) : Bytes :=
  (bytes.drop start).take (stop - start)

def buildChunkNonce (noncePrefix : Bytes) (chunkIndex : ℕ) :
    Except RecordingProtocolError Bytes := do
  rejectIf (noncePrefix.length ≠ noncePrefixBytes)
    ⟨.invalidNonce, "Nonce prefix must be 8 bytes"⟩
  rejectIf (maxSafeInteger < chunkIndex ∨ maxUint32 < chunkIndex)
    ⟨.invalidNonce, "Chunk index is outside uint32"⟩
  return noncePrefix ++ uint32be chunkIndex

theorem buildChunkNonce_eq_ok {noncePrefix nonce : Bytes} {chunkIndex : ℕ} :
    buildChunkNonce noncePrefix chunkIndex = .ok nonce ↔
      noncePrefix.length = noncePrefixBytes ∧ chunkIndex ≤ maxUint32 ∧
        nonce = noncePrefix ++ uint32be chunkIndex := by
  have hbound : ¬ (maxSafeInteger < chunkIndex ∨ maxUint32 < chunkIndex) ↔
      chunkIndex ≤ maxUint32 := by
    simp only [maxSafeInteger, maxUint32]
    omega
  simp only [buildChunkNonce, rejectIf_bind_eq_ok, hbound, not_not, except_pure,
    Except.ok.injEq]
  exact Iff.rfl.and (Iff.rfl.and eq_comm)

theorem buildChunkNonce_of {noncePrefix : Bytes} {chunkIndex : ℕ}
    (hlength : noncePrefix.length = noncePrefixBytes)
    (hindex : chunkIndex ≤ maxUint32) :
    buildChunkNonce noncePrefix chunkIndex =
      .ok (noncePrefix ++ uint32be chunkIndex) :=
  buildChunkNonce_eq_ok.mpr ⟨hlength, hindex, rfl⟩

/-! ## Building and parsing -/

def magicBytes : Bytes := [0x53, 0x50, 0x43, 0x31]

example : JsString.utf8Encode recordMagic = magicBytes := by decide

structure ChunkRecord where
  chunkIndex : ℕ
  nonce : Bytes
  plaintextLength : ℕ
  sealedLength : ℕ
  sealed : Bytes
  bytes : Bytes
  deriving DecidableEq, Repr

/-- What `buildChunkRecord` receives. -/
structure RecordFields where
  chunkIndex : ℕ
  nonce : Bytes
  plaintextLength : ℕ
  sealed : Bytes

def validateRecordFields (input : RecordFields) :
    Except RecordingProtocolError Unit := do
  rejectIf (maxSafeInteger < input.chunkIndex ∨ maxUint32 < input.chunkIndex)
    ⟨.invalidRecord, "Chunk index is outside uint32"⟩
  rejectIf (input.nonce.length ≠ 12)
    ⟨.invalidRecord, "Record nonce must be 12 bytes"⟩
  let nonce ← buildChunkNonce (slice input.nonce 0 8) input.chunkIndex
  rejectIf (bytesEqual input.nonce nonce = false)
    ⟨.invalidNonce, "Record nonce suffix must match its chunk index"⟩
  rejectIf (maxSafeInteger < input.plaintextLength ∨ input.plaintextLength < 1 ∨
      maxPlaintextChunkBytes < input.plaintextLength)
    ⟨.limitExceeded, "Record plaintext length exceeds the chunk limit"⟩
  rejectIf (input.sealed.length ≠ input.plaintextLength + aesGcmTagBytes)
    ⟨.invalidRecord, "Record sealed length does not match plaintext length plus tag"⟩

/-- The header: the magic at 0, the version and a zero at 4 and 5, the header
length at 6, the chunk index at 8, the nonce at 12 and the two lengths at 24 and
28. -/
def recordHeader (input : RecordFields) : Bytes :=
  magicBytes ++ [UInt8.ofNat recordVersion, 0] ++ uint16be recordHeaderBytes ++
    uint32be input.chunkIndex ++ input.nonce ++ uint32be input.plaintextLength ++
      uint32be input.sealed.length

def buildChunkRecord (input : RecordFields) : Except RecordingProtocolError Bytes := do
  validateRecordFields input
  return recordHeader input ++ input.sealed

def parseRecordAt (bytes : Bytes) (offset : ℕ) :
    Except RecordingProtocolError ChunkRecord := do
  rejectIf (bytes.length - offset < recordHeaderBytes)
    ⟨.invalidRecord, "Truncated SPC1 record header"⟩
  let header := slice bytes offset (offset + recordHeaderBytes)
  rejectIf (bytesEqual (slice header 0 4) magicBytes = false)
    ⟨.invalidRecord, "Unknown record magic"⟩
  rejectIf (getUint 1 header 4 ≠ recordVersion ∨ getUint 1 header 5 ≠ 0 ∨
      getUint 2 header 6 ≠ recordHeaderBytes)
    ⟨.invalidRecord, "Unknown SPC1 record header"⟩
  let chunkIndex := getUint 4 header 8
  let nonce := slice header 12 24
  let expectedNonce ← buildChunkNonce (slice nonce 0 8) chunkIndex
  rejectIf (bytesEqual nonce expectedNonce = false)
    ⟨.invalidNonce, "SPC1 nonce suffix does not match its chunk index"⟩
  let plaintextLength := getUint 4 header 24
  let sealedLength := getUint 4 header 28
  let recordLength := recordHeaderBytes + sealedLength
  rejectIf (plaintextLength < 1 ∨ maxPlaintextChunkBytes < plaintextLength ∨
      sealedLength ≠ plaintextLength + aesGcmTagBytes)
    ⟨.invalidRecord, "Invalid SPC1 record lengths"⟩
  rejectIf (bytes.length - offset < recordLength)
    ⟨.invalidRecord, "Truncated SPC1 record body"⟩
  let recordBytes := slice bytes offset (offset + recordLength)
  return { chunkIndex, nonce, plaintextLength, sealedLength
           sealed := recordBytes.drop recordHeaderBytes
           bytes := recordBytes }

def parseChunkRecord (bytes : Bytes) : Except RecordingProtocolError ChunkRecord := do
  let record ← parseRecordAt bytes 0
  rejectIf (record.bytes.length ≠ bytes.length)
    ⟨.invalidRecord, "SPC1 record has trailing bytes"⟩
  return record

/-! ## Frames -/

/-- The content of a well-formed record. -/
structure Frame where
  noncePrefix : Bytes
  chunkIndex : ℕ
  sealed : Bytes
  prefix_length : noncePrefix.length = noncePrefixBytes
  index_le : chunkIndex ≤ maxUint32
  tag_lt : aesGcmTagBytes < sealed.length
  sealed_le : sealed.length ≤ maxPlaintextChunkBytes + aesGcmTagBytes

namespace Frame

variable (frame : Frame)

def nonce : Bytes := frame.noncePrefix ++ uint32be frame.chunkIndex

def plaintextLength : ℕ := frame.sealed.length - aesGcmTagBytes

def fields : RecordFields :=
  ⟨frame.chunkIndex, frame.nonce, frame.plaintextLength, frame.sealed⟩

/-- The bytes of the record. -/
def encode : Bytes := recordHeader frame.fields ++ frame.sealed

/-- The record as the parser returns it. -/
def record : ChunkRecord where
  chunkIndex := frame.chunkIndex
  nonce := frame.nonce
  plaintextLength := frame.plaintextLength
  sealedLength := frame.sealed.length
  sealed := frame.sealed
  bytes := frame.encode

@[simp] theorem length_nonce : frame.nonce.length = 12 := by
  simp [nonce, frame.prefix_length, noncePrefixBytes]

@[simp] theorem length_header : (recordHeader frame.fields).length = 32 := by
  simp [recordHeader, fields, magicBytes, uint16be]

theorem length_encode : frame.encode.length = recordHeaderBytes + frame.sealed.length := by
  simp [encode, recordHeaderBytes]

theorem encode_ne_nil : frame.encode ≠ [] := by
  apply List.ne_nil_of_length_pos
  rw [length_encode, recordHeaderBytes]
  omega

theorem length_sealed : frame.sealed.length = frame.plaintextLength + aesGcmTagBytes :=
  (Nat.sub_add_cancel frame.tag_lt.le).symm

theorem slice_nonce : slice frame.nonce 0 8 = frame.noncePrefix := by
  simp [slice, nonce, frame.prefix_length, noncePrefixBytes]

end Frame

theorem slice_append_slice (bytes : Bytes) {i j k : ℕ} (hij : i ≤ j) (hjk : j ≤ k) :
    slice bytes i j ++ slice bytes j k = slice bytes i k := by
  have hj : j = i + (j - i) := by omega
  have hk : k - i = (j - i) + (k - j) := by omega
  rw [slice, slice, slice, hk, List.take_add, List.drop_drop, ← hj]

theorem length_slice {bytes : Bytes} {i j : ℕ} (hj : j ≤ bytes.length) :
    (slice bytes i j).length = j - i := by
  simp only [slice, List.length_take, List.length_drop]
  omega

theorem validateRecordFields_eq_ok {input : RecordFields} {u : Unit} :
    validateRecordFields input = .ok u ↔
      input.chunkIndex ≤ maxUint32 ∧ input.nonce.length = 12 ∧
        input.nonce = slice input.nonce 0 8 ++ uint32be input.chunkIndex ∧
        (1 ≤ input.plaintextLength ∧ input.plaintextLength ≤ maxPlaintextChunkBytes) ∧
        input.sealed.length = input.plaintextLength + aesGcmTagBytes := by
  have hindex : ¬ (maxSafeInteger < input.chunkIndex ∨ maxUint32 < input.chunkIndex) ↔
      input.chunkIndex ≤ maxUint32 := by
    simp only [maxSafeInteger, maxUint32]
    omega
  have hplain : ¬ (maxSafeInteger < input.plaintextLength ∨ input.plaintextLength < 1 ∨
      maxPlaintextChunkBytes < input.plaintextLength) ↔
      1 ≤ input.plaintextLength ∧ input.plaintextLength ≤ maxPlaintextChunkBytes := by
    simp only [maxSafeInteger, maxPlaintextChunkBytes]
    omega
  rw [validateRecordFields, rejectIf_bind_eq_ok, rejectIf_bind_eq_ok, bind_eq_ok]
  simp only [rejectIf_bind_eq_ok, rejectIf_eq_ok, buildChunkNonce_eq_ok, hindex, hplain,
    not_not, Bool.not_eq_false, bytesEqual_iff]
  constructor
  · rintro ⟨hi, hn, nonce, ⟨-, -, rfl⟩, hnonce, hp, hs⟩
    exact ⟨hi, hn, hnonce, hp, hs⟩
  · rintro ⟨hi, hn, hnonce, hp, hs⟩
    refine ⟨hi, hn, _, ⟨?_, hi, rfl⟩, hnonce, hp, hs⟩
    rw [length_slice (by omega)]
    rfl

/-- A record is built exactly from the fields of a frame, and it is the encoding
of that frame. -/
theorem buildChunkRecord_eq_ok {input : RecordFields} {bytes : Bytes} :
    buildChunkRecord input = .ok bytes ↔
      ∃ frame : Frame, input = frame.fields ∧ bytes = frame.encode := by
  simp only [buildChunkRecord, bind_eq_ok, validateRecordFields_eq_ok, except_pure,
    Except.ok.injEq]
  constructor
  · rintro ⟨-, ⟨hindex, hlength, hnonce, hplain, hsealed⟩, rfl⟩
    obtain ⟨chunkIndex, nonce, plaintextLength, sealed⟩ := input
    simp only at hindex hlength hnonce hplain hsealed
    refine ⟨⟨slice nonce 0 8, chunkIndex, sealed, ?_, hindex, ?_, ?_⟩, ?_⟩
    · rw [length_slice (by omega)]
      rfl
    · omega
    · omega
    · have hp : plaintextLength = sealed.length - aesGcmTagBytes := by omega
      subst hp
      simp only [Frame.fields, Frame.nonce, Frame.plaintextLength, Frame.encode, ← hnonce,
        and_self]
  · rintro ⟨frame, rfl, rfl⟩
    have htag := frame.tag_lt
    have hsealed := frame.sealed_le
    refine ⟨(), ⟨frame.index_le, frame.length_nonce, ?_, ?_, frame.length_sealed⟩, rfl⟩
    · simp only [Frame.fields, frame.slice_nonce]
      rfl
    · simp only [Frame.fields, Frame.plaintextLength]
      omega

/-- The fields that fill a header of 32 bytes. -/
theorem header_eq_fields {header : Bytes} (hlength : header.length = 32) :
    header = slice header 0 4 ++ (slice header 4 5 ++ slice header 5 6) ++
      slice header 6 8 ++ slice header 8 12 ++ slice header 12 24 ++
        slice header 24 28 ++ slice header 28 32 := by
  rw [slice_append_slice _ (by omega) (by omega), slice_append_slice _ (by omega) (by omega),
    slice_append_slice _ (by omega) (by omega), slice_append_slice _ (by omega) (by omega),
    slice_append_slice _ (by omega) (by omega), slice_append_slice _ (by omega) (by omega),
    slice_append_slice _ (by omega) (by omega)]
  simp [slice, ← hlength]

/-- A big-endian field is determined by its value. -/
theorem slice_eq_of_getUint {bytes field : Bytes} (count offset : ℕ)
    (hoffset : offset + count ≤ bytes.length) (hfield : field.length = count)
    (h : getUint count bytes offset = beValue field) :
    slice bytes offset (offset + count) = field := by
  apply beValue_injective
  · rw [length_slice hoffset, hfield]
    omega
  · rw [← h, slice, getUint]
    simp

theorem parseRecordAt_drop (bytes : Bytes) (offset : ℕ) :
    parseRecordAt bytes offset = parseRecordAt (bytes.drop offset) 0 := by
  simp [parseRecordAt, slice]

/-- What the parser checks of a header. -/
structure HeaderChecked (header : Bytes) : Prop where
  magic : slice header 0 4 = magicBytes
  version : getUint 1 header 4 = recordVersion
  reserved : getUint 1 header 5 = 0
  size : getUint 2 header 6 = recordHeaderBytes
  nonce : slice header 12 24 = slice header 12 20 ++ uint32be (getUint 4 header 8)
  plaintext_pos : 1 ≤ getUint 4 header 24
  plaintext_le : getUint 4 header 24 ≤ maxPlaintextChunkBytes
  sealed_eq : getUint 4 header 28 = getUint 4 header 24 + aesGcmTagBytes

theorem parseRecordAt_zero_eq_ok {bytes : Bytes} {record : ChunkRecord} :
    parseRecordAt bytes 0 = .ok record ↔
      ∃ header, slice bytes 0 32 = header ∧ header.length = 32 ∧ HeaderChecked header ∧
        32 + getUint 4 header 28 ≤ bytes.length ∧
        record = ⟨getUint 4 header 8, slice header 12 24, getUint 4 header 24,
          getUint 4 header 28, (slice bytes 0 (32 + getUint 4 header 28)).drop 32,
          slice bytes 0 (32 + getUint 4 header 28)⟩ := by
  have hpre : ∀ header, slice (slice header 12 24) 0 8 = slice header 12 20 := by
    simp [slice, List.take_take]
  rw [parseRecordAt, rejectIf_bind_eq_ok]
  simp only [rejectIf_bind_eq_ok]
  rw [bind_eq_ok]
  simp only [rejectIf_bind_eq_ok, buildChunkNonce_eq_ok, bytesEqual_iff, except_pure,
    Except.ok.injEq, Bool.not_eq_false, not_or, not_not, not_lt, Nat.sub_zero, Nat.zero_add,
    recordHeaderBytes, hpre]
  constructor
  · rintro ⟨hlength, hmagic, ⟨hversion, hreserved, hsize⟩, nonce, ⟨-, -, hbuilt⟩, hnonce,
      ⟨hpos, hle, heq⟩, hbody, hrecord⟩
    refine ⟨_, rfl, length_slice hlength, ?_, hbody, hrecord.symm⟩
    exact ⟨hmagic, hversion, hreserved, hsize, hnonce.trans hbuilt, hpos, hle, heq⟩
  · rintro ⟨header, rfl, hlength, h, hbody, hrecord⟩
    have hbytes : 32 ≤ bytes.length := by omega
    refine ⟨hbytes, h.magic, ⟨h.version, h.reserved, h.size⟩, _,
      ⟨?_, getUint_four_le _ _, rfl⟩, h.nonce, ⟨h.plaintext_pos, h.plaintext_le, h.sealed_eq⟩,
      hbody, hrecord.symm⟩
    rw [length_slice (by omega)]
    rfl

/-- A header that passes the checks is the header of a frame, for every sealed
chunk of the length it declares. -/
theorem HeaderChecked.exists_frame {header sealed : Bytes} (h : HeaderChecked header)
    (hlength : header.length = 32) (hsealed : sealed.length = getUint 4 header 28) :
    ∃ frame : Frame, frame.sealed = sealed ∧ frame.chunkIndex = getUint 4 header 8 ∧
      frame.nonce = slice header 12 24 ∧ frame.plaintextLength = getUint 4 header 24 ∧
      recordHeader frame.fields = header := by
  have hpos := h.plaintext_pos
  have hle := h.plaintext_le
  have heq := h.sealed_eq
  refine ⟨⟨slice header 12 20, getUint 4 header 8, sealed, ?_, getUint_four_le _ _, ?_, ?_⟩,
    rfl, rfl, h.nonce.symm, ?_, ?_⟩
  · rw [length_slice (by omega)]
    rfl
  · omega
  · omega
  · simp only [Frame.plaintextLength]
    omega
  · have hplain : getUint 4 header 28 - aesGcmTagBytes = getUint 4 header 24 := by omega
    have hindex : slice header 8 12 = uint32be (getUint 4 header 8) :=
      slice_eq_of_getUint 4 8 (by omega) rfl (beValue_uint32be (getUint_four_le _ _)).symm
    have hplaintext : slice header 24 28 = uint32be (getUint 4 header 24) :=
      slice_eq_of_getUint 4 24 (by omega) rfl (beValue_uint32be (getUint_four_le _ _)).symm
    have hbody : slice header 28 32 = uint32be (getUint 4 header 28) :=
      slice_eq_of_getUint 4 28 (by omega) rfl (beValue_uint32be (getUint_four_le _ _)).symm
    have hversion : slice header 4 5 = [UInt8.ofNat recordVersion] :=
      slice_eq_of_getUint 1 4 (by omega) rfl h.version
    have hreserved : slice header 5 6 = [0] :=
      slice_eq_of_getUint 1 5 (by omega) rfl h.reserved
    have hsize : slice header 6 8 = uint16be recordHeaderBytes :=
      slice_eq_of_getUint 2 6 (by omega) rfl h.size
    conv_rhs => rw [header_eq_fields hlength]
    rw [h.magic, hversion, hreserved, hsize, hindex, hplaintext, hbody, h.nonce]
    simp [recordHeader, Frame.fields, Frame.nonce, Frame.plaintextLength, hplain, hsealed]

/-- Parsing reads a frame off the front of the bytes. -/
theorem parseRecordAt_sound {bytes : Bytes} {offset : ℕ} {record : ChunkRecord}
    (h : parseRecordAt bytes offset = .ok record) :
    ∃ (frame : Frame) (rest : Bytes),
      record = frame.record ∧ bytes.drop offset = frame.encode ++ rest := by
  rw [parseRecordAt_drop, parseRecordAt_zero_eq_ok] at h
  obtain ⟨header, hheader, hlength, hchecked, hbody, rfl⟩ := h
  set bytes' := bytes.drop offset
  set sealed := slice bytes' 32 (32 + getUint 4 header 28) with hsealed
  have hrecord : slice bytes' 0 (32 + getUint 4 header 28) = header ++ sealed := by
    rw [hsealed]
    have hsplit := slice_append_slice bytes' (Nat.zero_le 32)
      (Nat.le_add_right 32 (getUint 4 header 28))
    rw [← hsplit, hheader]
  have hsealedLength : sealed.length = getUint 4 header 28 := by
    rw [hsealed, length_slice hbody]
    omega
  obtain ⟨frame, hframe, hindex, hnonce, hplain, hfields⟩ :=
    hchecked.exists_frame hlength hsealedLength
  have hencode : frame.encode = header ++ sealed := by
    rw [Frame.encode, hfields, hframe]
  refine ⟨frame, bytes'.drop (32 + getUint 4 header 28), ?_, ?_⟩
  · have hdrop : (header ++ sealed).drop 32 = sealed := by
      rw [← hlength, List.drop_left]
    have hsize : sealed.length = getUint 4 header 28 := by
      rw [hsealed, length_slice hbody]
      omega
    rw [hrecord, hdrop, Frame.record, hindex, hnonce, hplain, hframe, hencode, hsize]
  · rw [hencode, ← hrecord]
    simp [slice]

/-- The header of a frame passes the checks and holds the fields of the frame. -/
theorem Frame.headerChecked (frame : Frame) : HeaderChecked (recordHeader frame.fields) ∧
    getUint 4 (recordHeader frame.fields) 8 = frame.chunkIndex ∧
    slice (recordHeader frame.fields) 12 24 = frame.nonce ∧
    getUint 4 (recordHeader frame.fields) 24 = frame.plaintextLength ∧
    getUint 4 (recordHeader frame.fields) 28 = frame.sealed.length := by
  have htag := frame.tag_lt
  have hsealed := frame.sealed_le
  simp only [aesGcmTagBytes, maxPlaintextChunkBytes] at htag hsealed
  obtain ⟨a, b, c, d, e, f, g, i, hpre⟩ : ∃ a b c d e f g i,
      frame.noncePrefix = [a, b, c, d, e, f, g, i] := by
    have hlength := frame.prefix_length
    match frame.noncePrefix, hlength with
    | [a, b, c, d, e, f, g, i], _ => exact ⟨a, b, c, d, e, f, g, i, rfl⟩
  have hheader : recordHeader frame.fields =
      magicBytes ++ [1, 0, 0, 32] ++ uint32be frame.chunkIndex ++ [a, b, c, d, e, f, g, i] ++
        uint32be frame.chunkIndex ++ uint32be frame.plaintextLength ++
          uint32be frame.sealed.length := by
    simp only [recordHeader, Frame.fields, Frame.nonce, hpre, List.append_assoc]
    rfl
  have hnonce : frame.nonce = [a, b, c, d, e, f, g, i] ++ uint32be frame.chunkIndex := by
    rw [Frame.nonce, hpre]
  have hindex : getUint 4 (recordHeader frame.fields) 8 = frame.chunkIndex := by
    rw [hheader]
    exact beValue_uint32be frame.index_le
  have hplain : getUint 4 (recordHeader frame.fields) 24 = frame.plaintextLength := by
    rw [hheader]
    apply beValue_uint32be
    simp only [Frame.plaintextLength, maxUint32, aesGcmTagBytes]
    omega
  have hbody : getUint 4 (recordHeader frame.fields) 28 = frame.sealed.length := by
    rw [hheader]
    apply beValue_uint32be
    simp only [maxUint32]
    omega
  have hslice : slice (recordHeader frame.fields) 12 24 = frame.nonce := by
    rw [hheader, hnonce]
    rfl
  refine ⟨⟨?_, ?_, ?_, ?_, ?_, ?_, ?_, ?_⟩, hindex, hslice, hplain, hbody⟩
  · rw [hheader]
    rfl
  · rw [hheader]
    rfl
  · rw [hheader]
    rfl
  · rw [hheader]
    rfl
  · rw [hslice, hindex, hnonce, hheader]
    rfl
  · rw [hplain, Frame.plaintextLength, aesGcmTagBytes]
    omega
  · rw [hplain, Frame.plaintextLength, aesGcmTagBytes, maxPlaintextChunkBytes]
    omega
  · rw [hplain, hbody, Frame.length_sealed]

/-- Parsing returns the frame that the bytes at the offset start with. -/
theorem parseRecordAt_complete {bytes rest : Bytes} {offset : ℕ} {frame : Frame}
    (h : bytes.drop offset = frame.encode ++ rest) :
    parseRecordAt bytes offset = .ok frame.record := by
  obtain ⟨hchecked, hindex, hnonce, hplain, hbody⟩ := frame.headerChecked
  have hheader : slice (frame.encode ++ rest) 0 32 = recordHeader frame.fields := by
    rw [Frame.encode, List.append_assoc, slice, List.drop_zero, Nat.sub_zero]
    exact List.take_left' frame.length_header
  have hrecord : slice (frame.encode ++ rest) 0 (32 + frame.sealed.length) =
      frame.encode := by
    rw [slice, List.drop_zero, Nat.sub_zero]
    exact List.take_left' frame.length_encode
  rw [parseRecordAt_drop, h, parseRecordAt_zero_eq_ok]
  refine ⟨_, hheader, frame.length_header, hchecked, ?_, ?_⟩
  · rw [hbody, List.length_append, frame.length_encode, recordHeaderBytes]
    omega
  · rw [hindex, hnonce, hplain, hbody, hrecord, Frame.record, Frame.encode,
      List.drop_left' frame.length_header]

theorem parseRecordAt_eq_ok {bytes : Bytes} {offset : ℕ} {record : ChunkRecord} :
    parseRecordAt bytes offset = .ok record ↔
      ∃ (frame : Frame) (rest : Bytes),
        record = frame.record ∧ bytes.drop offset = frame.encode ++ rest := by
  constructor
  · exact parseRecordAt_sound
  · rintro ⟨frame, rest, rfl, h⟩
    exact parseRecordAt_complete h

/-- A record parses on its own exactly when it is the encoding of a frame. -/
theorem parseChunkRecord_eq_ok {bytes : Bytes} {record : ChunkRecord} :
    parseChunkRecord bytes = .ok record ↔
      ∃ frame : Frame, record = frame.record ∧ bytes = frame.encode := by
  rw [parseChunkRecord, bind_eq_ok]
  simp only [rejectIf_bind_eq_ok, parseRecordAt_eq_ok, List.drop_zero, except_pure,
    Except.ok.injEq, not_not]
  constructor
  · rintro ⟨_, ⟨frame, rest, rfl, rfl⟩, hlength, rfl⟩
    refine ⟨frame, rfl, ?_⟩
    have hrest : rest = [] := by
      simp only [Frame.record, List.length_append] at hlength
      exact List.length_eq_zero_iff.mp (by omega)
    rw [hrest, List.append_nil]
  · rintro ⟨frame, rfl, rfl⟩
    exact ⟨_, ⟨frame, [], rfl, by simp⟩, rfl, rfl⟩

/-! ## Sequences -/

/-- The loop variables of `parseChunkRecordSequence` besides the offset. -/
structure SequenceState where
  records : List ChunkRecord
  noncePrefix : Option Bytes
  expectedIndex : ℕ
  deriving DecidableEq, Repr

/-- What the loop does with the record it has parsed. -/
def SequenceState.accept (state : SequenceState) (record : ChunkRecord) :
    Except RecordingProtocolError SequenceState := do
  let noncePrefix := state.noncePrefix.getD (slice record.nonce 0 8)
  rejectIf (record.chunkIndex ≠ state.expectedIndex)
    ⟨.invalidRecord, "SPC1 record indices are duplicated, missing or reordered"⟩
  rejectIf (bytesEqual (slice record.nonce 0 8) noncePrefix = false)
    ⟨.invalidNonce, "SPC1 records use different nonce prefixes"⟩
  let records := state.records ++ [record]
  rejectIf (maxRecordingChunks < records.length)
    ⟨.limitExceeded, "SPC1 sequence exceeds the chunk-count limit"⟩
  return ⟨records, some noncePrefix, state.expectedIndex + 1⟩

theorem parseRecordAt_length_pos {bytes : Bytes} {offset : ℕ} {record : ChunkRecord}
    (h : parseRecordAt bytes offset = .ok record) : 0 < record.bytes.length := by
  obtain ⟨frame, -, rfl, -⟩ := parseRecordAt_sound h
  exact List.length_pos_of_ne_nil frame.encode_ne_nil

def parseRecordsFrom (bytes : Bytes) (offset : ℕ) (state : SequenceState) :
    Except RecordingProtocolError SequenceState :=
  if offset < bytes.length then
    match _h : parseRecordAt bytes offset with
    | .error e => .error e
    | .ok record =>
        match state.accept record with
        | .error e => .error e
        | .ok state => parseRecordsFrom bytes (offset + record.bytes.length) state
  else .ok state
termination_by bytes.length - offset
decreasing_by
  have hpos := parseRecordAt_length_pos _h
  omega

def parseChunkRecordSequence (bytes : Bytes) (expectedFirstIndex : ℕ) :
    Except RecordingProtocolError (List ChunkRecord) := do
  rejectIf (maxSafeInteger < expectedFirstIndex ∨ maxUint32 < expectedFirstIndex)
    ⟨.invalidRecord, "Invalid expected record index"⟩
  rejectIf (maxRecordingObjectBytes < bytes.length)
    ⟨.limitExceeded, "SPC1 sequence exceeds the object-size limit"⟩
  let state ← parseRecordsFrom bytes 0 ⟨[], none, expectedFirstIndex⟩
  rejectIf (state.records.length = 0) ⟨.invalidRecord, "SPC1 sequence is empty"⟩
  return state.records

/-- The bytes of consecutive frames. -/
def encodeFrames (frames : List Frame) : Bytes := frames.flatMap Frame.encode

@[simp] theorem encodeFrames_nil : encodeFrames [] = [] := rfl

@[simp] theorem encodeFrames_cons (frame : Frame) (frames : List Frame) :
    encodeFrames (frame :: frames) = frame.encode ++ encodeFrames frames := rfl

/-- The loop parses the rest of the bytes as frames and accepts their records one
after the other. -/
theorem parseRecordsFrom_eq_ok {bytes : Bytes} {offset : ℕ}
    {state final : SequenceState} :
    parseRecordsFrom bytes offset state = .ok final ↔
      ∃ frames : List Frame, bytes.drop offset = encodeFrames frames ∧
        (frames.map Frame.record).foldlM SequenceState.accept state = .ok final := by
  constructor
  · intro h
    fun_induction parseRecordsFrom bytes offset state with
    | case1 => cases h
    | case2 => cases h
    | case3 offset state hlt record hparse next haccept ih =>
        obtain ⟨frame, rest, rfl, hdrop⟩ := parseRecordAt_sound hparse
        obtain ⟨frames, hframes, hfold⟩ := ih h
        refine ⟨frame :: frames, ?_, ?_⟩
        · have hrest : rest = encodeFrames frames := by
            rw [← hframes, ← List.drop_drop, hdrop]
            exact (List.drop_left).symm
          rw [hdrop, hrest, encodeFrames_cons]
        · rw [List.map_cons, List.foldlM_cons, haccept]
          exact hfold
    | case4 offset state hge =>
        cases h
        refine ⟨[], ?_, rfl⟩
        rw [List.drop_of_length_le (by omega), encodeFrames_nil]
  · rintro ⟨frames, hdrop, hfold⟩
    induction frames generalizing offset state with
    | nil =>
        have hge : ¬ offset < bytes.length := by
          have hlength := List.drop_eq_nil_iff.mp hdrop
          omega
        rw [parseRecordsFrom, if_neg hge]
        exact hfold
    | cons frame frames ih =>
        have hparse := parseRecordAt_complete hdrop
        have hlt : offset < bytes.length := by
          have hpos := List.length_pos_of_ne_nil frame.encode_ne_nil
          have hlength := congrArg List.length hdrop
          rw [List.length_drop, encodeFrames_cons, List.length_append] at hlength
          omega
        rw [List.map_cons, List.foldlM_cons, bind_eq_ok] at hfold
        obtain ⟨next, haccept, hfold⟩ := hfold
        have hnext : bytes.drop (offset + frame.encode.length) = encodeFrames frames := by
          rw [← List.drop_drop, hdrop, encodeFrames_cons]
          exact List.drop_left
        rw [parseRecordsFrom, if_pos hlt]
        split
        · next e he => rw [hparse] at he; cases he
        · next record he =>
            rw [hparse] at he
            cases he
            rw [haccept]
            exact ih hnext hfold

/-- The frames carry the indices from `first` on and one nonce prefix. -/
structure Consecutive (noncePrefix : Bytes) (first : ℕ) (frames : List Frame) : Prop where
  indices : frames.map Frame.chunkIndex = List.range' first frames.length
  prefixes : ∀ frame ∈ frames, frame.noncePrefix = noncePrefix

namespace Consecutive

variable {noncePrefix : Bytes} {first : ℕ} {frames : List Frame}

@[simp] theorem nil : Consecutive noncePrefix first [] := ⟨rfl, by simp⟩

@[simp] theorem cons_iff {frame : Frame} :
    Consecutive noncePrefix first (frame :: frames) ↔
      frame.chunkIndex = first ∧ frame.noncePrefix = noncePrefix ∧
        Consecutive noncePrefix (first + 1) frames := by
  constructor
  · rintro ⟨hindices, hprefixes⟩
    rw [List.map_cons, List.length_cons, List.range'_succ, List.cons.injEq] at hindices
    exact ⟨hindices.1, hprefixes frame List.mem_cons_self, hindices.2,
      fun f hf => hprefixes f (List.mem_cons_of_mem _ hf)⟩
  · rintro ⟨hindex, hpre, hindices, hprefixes⟩
    refine ⟨?_, ?_⟩
    · rw [List.map_cons, List.length_cons, List.range'_succ, hindex, hindices]
    · intro f hf
      rcases List.mem_cons.mp hf with rfl | hf
      · exact hpre
      · exact hprefixes f hf

@[simp] theorem concat_iff {frame : Frame} :
    Consecutive noncePrefix first (frames ++ [frame]) ↔
      Consecutive noncePrefix first frames ∧ frame.chunkIndex = first + frames.length ∧
        frame.noncePrefix = noncePrefix := by
  induction frames generalizing first with
  | nil => simp [and_comm]
  | cons f frames ih =>
      rw [List.cons_append, cons_iff, cons_iff, ih, List.length_cons]
      rw [show first + 1 + frames.length = first + (frames.length + 1) by omega]
      tauto

theorem chunkIndex_getElem (h : Consecutive noncePrefix first frames) {i : ℕ}
    (hi : i < frames.length) : frames[i].chunkIndex = first + i := by
  have hget := congrArg (fun l => l[i]?) h.indices
  simpa [hi] using hget

end Consecutive

/-- The state before the first record has no prefix yet; from the first record on
it has the one of that record. -/
theorem accept_eq_ok {state next : SequenceState} {frame : Frame} :
    state.accept frame.record = .ok next ↔
      frame.chunkIndex = state.expectedIndex ∧
        frame.noncePrefix = state.noncePrefix.getD frame.noncePrefix ∧
        state.records.length + 1 ≤ maxRecordingChunks ∧
        next = ⟨state.records ++ [frame.record], some frame.noncePrefix,
          state.expectedIndex + 1⟩ := by
  rw [SequenceState.accept, rejectIf_bind_eq_ok, rejectIf_bind_eq_ok, rejectIf_bind_eq_ok]
  simp only [except_pure, Except.ok.injEq, not_not, not_lt, Bool.not_eq_false, bytesEqual_iff, List.length_append,
    List.length_singleton, Frame.record, frame.slice_nonce]
  constructor
  · rintro ⟨hindex, hpre, hcount, rfl⟩
    exact ⟨hindex, hpre, hcount, by rw [← hpre]⟩
  · rintro ⟨hindex, hpre, hcount, rfl⟩
    exact ⟨hindex, hpre, hcount, by rw [← hpre]⟩

/-- The fold accepts a list of frames under the prefix it has seen exactly when
they continue its indices and its prefix within the chunk limit. -/
theorem foldlM_accept_eq_ok {records : List ChunkRecord} {noncePrefix : Bytes} {first : ℕ}
    {frames : List Frame} {final : SequenceState} :
    (frames.map Frame.record).foldlM SequenceState.accept
        ⟨records, some noncePrefix, first⟩ = .ok final ↔
      Consecutive noncePrefix first frames ∧
        (frames ≠ [] → records.length + frames.length ≤ maxRecordingChunks) ∧
        final = ⟨records ++ frames.map Frame.record, some noncePrefix,
          first + frames.length⟩ := by
  induction frames generalizing records first with
  | nil =>
      simp only [List.map_nil, List.foldlM_nil, except_pure, Except.ok.injEq,
        Consecutive.nil, ne_eq, not_true_eq_false, false_implies, true_and,
        List.append_nil, List.length_nil, Nat.add_zero]
      exact eq_comm
  | cons frame frames ih =>
      rw [List.map_cons, List.foldlM_cons, bind_eq_ok]
      simp only [accept_eq_ok, Option.getD_some, Consecutive.cons_iff]
      constructor
      · rintro ⟨_, ⟨hindex, hpre, hcount, rfl⟩, hfold⟩
        subst hindex hpre
        obtain ⟨hconsecutive, hlength, rfl⟩ := ih.mp hfold
        refine ⟨⟨rfl, rfl, hconsecutive⟩, ?_, ?_⟩
        · intro _
          by_cases hframes : frames = []
          · simpa [hframes] using hcount
          · have hle := hlength hframes
            simp only [List.length_append, List.length_cons, List.length_nil] at hle ⊢
            omega
        · simp [Nat.add_assoc, Nat.add_comm 1]
      · rintro ⟨⟨hindex, hpre, hconsecutive⟩, hlength, rfl⟩
        subst hindex hpre
        have hle := hlength (List.cons_ne_nil _ _)
        rw [List.length_cons] at hle
        refine ⟨_, ⟨rfl, rfl, by omega, rfl⟩, ih.mpr ⟨hconsecutive, ?_, ?_⟩⟩
        · intro _
          simp only [List.length_append, List.length_cons, List.length_nil]
          omega
        · simp [Nat.add_assoc, Nat.add_comm 1]

/-- A byte string parses as a sequence exactly when it is the concatenation of
consecutive frames within the limits. -/
theorem parseChunkRecordSequence_eq_ok {bytes : Bytes} {first : ℕ}
    {records : List ChunkRecord} :
    parseChunkRecordSequence bytes first = .ok records ↔
      first ≤ maxUint32 ∧ bytes.length ≤ maxRecordingObjectBytes ∧
        ∃ (noncePrefix : Bytes) (frames : List Frame), bytes = encodeFrames frames ∧
          Consecutive noncePrefix first frames ∧ frames ≠ [] ∧
          frames.length ≤ maxRecordingChunks ∧ records = frames.map Frame.record := by
  have hfirst : ¬ (maxSafeInteger < first ∨ maxUint32 < first) ↔ first ≤ maxUint32 := by
    simp only [maxSafeInteger, maxUint32]
    omega
  rw [parseChunkRecordSequence, rejectIf_bind_eq_ok, rejectIf_bind_eq_ok, bind_eq_ok]
  simp only [rejectIf_bind_eq_ok, parseRecordsFrom_eq_ok, List.drop_zero, hfirst, not_lt,
    except_pure, Except.ok.injEq]
  refine and_congr_right fun _ => and_congr_right fun _ => ?_
  constructor
  · rintro ⟨final, ⟨frames, hbytes, hfold⟩, hlength, rfl⟩
    cases frames with
    | nil =>
        cases hfold
        simp at hlength
    | cons frame frames =>
        rw [List.map_cons, List.foldlM_cons, bind_eq_ok] at hfold
        obtain ⟨_, haccept, hfold⟩ := hfold
        obtain ⟨hindex, -, hcount, rfl⟩ := accept_eq_ok.mp haccept
        obtain ⟨hconsecutive, hle, rfl⟩ := foldlM_accept_eq_ok.mp hfold
        subst hindex
        refine ⟨frame.noncePrefix, frame :: frames, hbytes,
          Consecutive.cons_iff.mpr ⟨rfl, rfl, hconsecutive⟩, List.cons_ne_nil _ _, ?_, rfl⟩
        by_cases hframes : frames = []
        · rw [hframes]
          exact hcount
        · have hle := hle hframes
          simp only [List.length_append, List.length_cons, List.length_nil] at hle ⊢
          omega
  · rintro ⟨noncePrefix, frames, hbytes, hconsecutive, hne, hcount, rfl⟩
    cases frames with
    | nil => exact absurd rfl hne
    | cons frame frames =>
        obtain ⟨hindex, hpre, hconsecutive⟩ := Consecutive.cons_iff.mp hconsecutive
        rw [List.length_cons] at hcount
        subst hindex hpre
        have hfold : ((frame :: frames).map Frame.record).foldlM SequenceState.accept
            ⟨[], none, frame.chunkIndex⟩ = .ok ⟨(frame :: frames).map Frame.record,
              some frame.noncePrefix, frame.chunkIndex + 1 + frames.length⟩ := by
          rw [List.map_cons, List.foldlM_cons, bind_eq_ok]
          refine ⟨_, accept_eq_ok.mpr ⟨rfl, rfl, ?_, rfl⟩,
            foldlM_accept_eq_ok.mpr ⟨hconsecutive, ?_, rfl⟩⟩
          · simp only [List.length_nil]
            omega
          · intro _
            simp only [List.length_append, List.length_cons, List.length_nil]
            omega
        exact ⟨_, ⟨frame :: frames, hbytes, hfold⟩, by simp, rfl⟩

end Media

end UnderstandProof
