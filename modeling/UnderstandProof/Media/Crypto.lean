import UnderstandProof.Foundation.Json
import UnderstandProof.Media.Schemas

/-!
# Sealing and opening chunks

SHA-256 and AES-GCM come from the platform and are parameters here: a digest has
32 bytes, and sealing adds the 16 bytes of the tag. Around them stand the
canonical bytes that a chunk is authenticated with and the two functions that
turn a plaintext into a record and back.
-/

open Foundation

namespace UnderstandProof

namespace Media

/-- `crypto.subtle.digest("SHA-256", …)`. -/
structure Sha256 where
  digest : Bytes → Bytes
  length_digest : ∀ value, (digest value).length = 32

/-- `crypto.subtle.encrypt` and `decrypt` for AES-GCM with a tag of 128 bits
under one key: nonce, additional data, and the text; `none` is a rejection. -/
structure AesGcm where
  encrypt : Bytes → Bytes → Bytes → Option Bytes
  decrypt : Bytes → Bytes → Bytes → Option Bytes
  length_encrypt : ∀ iv additionalData plaintext sealed,
    encrypt iv additionalData plaintext = some sealed →
      sealed.length = plaintext.length + aesGcmTagBytes
  length_decrypt : ∀ iv additionalData sealed plaintext,
    decrypt iv additionalData sealed = some plaintext →
      sealed.length = plaintext.length + aesGcmTagBytes

def sha256Hex (sha256 : Sha256) (value : Bytes) : JsString :=
  encodeHex (sha256.digest value)

theorem isLowerHex_hexDigit : ∀ n < 16, isLowerHex (hexDigit n) = true := by
  decide

theorem encodeHex_accepted {value : Bytes} (h : value.length = 32) :
    Sha256Schema.accepts (encodeHex value) = true := by
  have hlength : ∀ l : Bytes, (encodeHex l).length = 2 * l.length := by
    intro l
    simp [encodeHex, List.length_flatMap, Nat.mul_comm]
  simp only [Sha256Schema.accepts, Bool.and_eq_true, beq_iff_eq, List.all_eq_true]
  refine ⟨by rw [hlength, h], ?_⟩
  intro c hc
  obtain ⟨byte, -, hbyte⟩ := List.mem_flatMap.mp hc
  have hlt := byte.toNat_lt
  simp only [List.mem_cons, List.not_mem_nil, or_false] at hbyte
  rcases hbyte with rfl | rfl
  · exact isLowerHex_hexDigit _ (by omega)
  · exact isLowerHex_hexDigit _ (Nat.mod_lt _ (by omega))

@[simp] theorem sha256Hex_accepted (sha256 : Sha256) (value : Bytes) :
    Sha256Schema.accepts (sha256Hex sha256 value) = true :=
  encodeHex_accepted (sha256.length_digest value)

/-! ## Canonical bytes -/

def canonicalChunkAadBytes (context : ChunkAadContext) : Except Thrown Bytes := do
  rejectIf (ChunkAadContextSchema.accepts context = false) .zod
  return JsString.utf8Encode (Json.stringify (.arr
    [.str chunkAadDomain, .num recordingProtocolVersion, .str recordingSuiteId,
      .str context.attemptId, .str context.headSha, .str context.objectId,
      .str context.codec, .num context.chunkIndex, .str context.nonceBase64url,
      .num context.plaintextBytes]))

/-! ## Chunks -/

structure EncryptedChunk where
  record : Bytes
  sealed : Bytes
  manifest : ManifestChunk
  deriving DecidableEq, Repr

def encryptRecordingChunk (sha256 : Sha256) (encryptionKey : AesGcm) (plaintext : Bytes)
    (chunkIndex : ℕ) (noncePrefix : Bytes) (binding : RecordingBinding) :
    Except Thrown EncryptedChunk := do
  rejectIf (plaintext.length < 1 ∨ maxPlaintextChunkBytes < plaintext.length)
    (.protocol ⟨.limitExceeded, "Plaintext chunk is empty or exceeds the protocol limit"⟩)
  rejectIf (RecordingBindingSchema.accepts binding = false) .zod
  let nonce ← orThrow (buildChunkNonce noncePrefix chunkIndex)
  let nonceBase64url := encodeBase64Url nonce
  let aad ← canonicalChunkAadBytes
    { binding with codec := recordingCodec, chunkIndex, nonceBase64url
                   plaintextBytes := plaintext.length }
  match encryptionKey.encrypt nonce aad plaintext with
  | none => throw (.protocol ⟨.authenticationFailed, "Chunk encryption failed"⟩)
  | some sealed =>
      let record ← orThrow (buildChunkRecord
        { chunkIndex, nonce, plaintextLength := plaintext.length, sealed })
      return { record, sealed
               manifest := {
                 index := chunkIndex
                 nonce := nonceBase64url
                 plaintextBytes := plaintext.length
                 sealedBytes := sealed.length
                 ciphertextSha256 := sha256Hex sha256 sealed } }

/-- The manifest entry of a record. -/
def Frame.entry (sha256 : Sha256) (frame : Frame) : ManifestChunk where
  index := frame.chunkIndex
  nonce := encodeBase64Url frame.nonce
  plaintextBytes := frame.plaintextLength
  sealedBytes := frame.sealed.length
  ciphertextSha256 := sha256Hex sha256 frame.sealed

/-- An encrypted chunk is a frame under the nonce prefix and its manifest entry. -/
theorem encryptRecordingChunk_sound {sha256 : Sha256} {encryptionKey : AesGcm}
    {plaintext noncePrefix : Bytes} {chunkIndex : ℕ} {binding : RecordingBinding}
    {encrypted : EncryptedChunk}
    (h : encryptRecordingChunk sha256 encryptionKey plaintext chunkIndex noncePrefix
      binding = .ok encrypted) :
    RecordingBindingSchema.accepts binding = true ∧
      ∃ frame : Frame, encrypted.record = frame.encode ∧ frame.chunkIndex = chunkIndex ∧
        frame.noncePrefix = noncePrefix ∧ frame.plaintextLength = plaintext.length ∧
        encrypted.manifest = frame.entry sha256 := by
  rw [encryptRecordingChunk, rejectIf_bind_eq_ok, rejectIf_bind_eq_ok, bind_eq_ok] at h
  obtain ⟨-, hbinding, nonce, hnonce, h⟩ := h
  rw [bind_eq_ok] at h
  obtain ⟨aad, -, h⟩ := h
  refine ⟨by simpa using hbinding, ?_⟩
  obtain ⟨hpre, -, rfl⟩ := buildChunkNonce_eq_ok.mp (orThrow_eq_ok.mp hnonce)
  split at h
  · cases h
  · next sealed hsealed =>
      rw [bind_eq_ok] at h
      obtain ⟨record, hrecord, h⟩ := h
      cases h
      obtain ⟨frame, hfields, rfl⟩ := buildChunkRecord_eq_ok.mp (orThrow_eq_ok.mp hrecord)
      rw [Frame.fields, RecordFields.mk.injEq] at hfields
      obtain ⟨rfl, hnonce', hplain, rfl⟩ := hfields
      refine ⟨frame, rfl, rfl, ?_, hplain.symm, ?_⟩
      · exact (List.append_cancel_right hnonce').symm
      · rw [Frame.entry, hnonce', hplain]

/-- Within the limits a chunk is encrypted, as long as the platform encrypts. -/
theorem encryptRecordingChunk_complete (sha256 : Sha256) {encryptionKey : AesGcm}
    (hencrypt : ∀ iv aad plaintext, encryptionKey.encrypt iv aad plaintext ≠ none)
    {plaintext noncePrefix : Bytes} {chunkIndex : ℕ} {binding : RecordingBinding}
    (hpos : plaintext ≠ []) (hle : plaintext.length ≤ maxPlaintextChunkBytes)
    (hindex : chunkIndex ≤ maxUint32) (hpre : noncePrefix.length = noncePrefixBytes)
    (hbinding : RecordingBindingSchema.accepts binding = true) :
    ∃ encrypted, encryptRecordingChunk sha256 encryptionKey plaintext chunkIndex noncePrefix
      binding = .ok encrypted := by
  have hlength := List.length_pos_of_ne_nil hpos
  have hnonce := buildChunkNonce_of hpre hindex
  obtain ⟨aad, haad⟩ : ∃ aad, canonicalChunkAadBytes
      { binding with codec := recordingCodec, chunkIndex
                     nonceBase64url := encodeBase64Url (noncePrefix ++ uint32be chunkIndex)
                     plaintextBytes := plaintext.length } = .ok aad := by
    refine ⟨_, rejectIf_bind_eq_ok.mpr ⟨?_, rfl⟩⟩
    simp only [ChunkAadContextSchema.accepts, hbinding, Base64UrlSchema.accepts_encode,
      hasDecodedLength_encode, List.length_append, hpre, length_uint32be,
      noncePrefixBytes]
    simp [hindex, hle]
    omega
  cases hsealed : encryptionKey.encrypt (noncePrefix ++ uint32be chunkIndex) aad plaintext with
  | none => exact absurd hsealed (hencrypt _ _ _)
  | some sealed =>
      have hsealedLength := encryptionKey.length_encrypt _ _ _ _ hsealed
      have hrecord : ∃ record, buildChunkRecord ⟨chunkIndex,
          noncePrefix ++ uint32be chunkIndex, plaintext.length, sealed⟩ = .ok record := by
        refine ⟨_, buildChunkRecord_eq_ok.mpr ⟨⟨noncePrefix, chunkIndex, sealed, hpre,
          hindex, by omega, by omega⟩, ?_, rfl⟩⟩
        simp [Frame.fields, Frame.nonce, Frame.plaintextLength, hsealedLength]
      obtain ⟨record, hrecord⟩ := hrecord
      rw [encryptRecordingChunk, rejectIf_of_not (by omega), except_ok_bind,
        rejectIf_of_not (by simp [hbinding]), except_ok_bind, hnonce, orThrow_ok,
        except_ok_bind]
      simp only [haad, except_ok_bind, hsealed, hrecord, orThrow_ok]
      exact ⟨_, rfl⟩

def decryptRecordingChunk (encryptionKey : AesGcm) (recordBytes : Bytes)
    (expectedChunkIndex : ℕ) (expectedNoncePrefix : Bytes) (binding : RecordingBinding) :
    Except Thrown Bytes := do
  let record ← orThrow (parseChunkRecord recordBytes)
  let expectedNonce ← orThrow (buildChunkNonce expectedNoncePrefix expectedChunkIndex)
  rejectIf (record.chunkIndex ≠ expectedChunkIndex ∨
      bytesEqual record.nonce expectedNonce = false)
    (.protocol ⟨.invalidNonce, "Record index or nonce does not match the expected sequence"⟩)
  rejectIf (RecordingBindingSchema.accepts binding = false) .zod
  let aad ← canonicalChunkAadBytes
    { binding with codec := recordingCodec, chunkIndex := record.chunkIndex
                   nonceBase64url := encodeBase64Url record.nonce
                   plaintextBytes := record.plaintextLength }
  match encryptionKey.decrypt record.nonce aad record.sealed with
  | none => throw (.protocol ⟨.authenticationFailed, "Chunk authentication failed"⟩)
  | some plaintext =>
      rejectIf (plaintext.length ≠ record.plaintextLength)
        (.protocol ⟨.invalidRecord, "Decrypted chunk length does not match its record"⟩)
      return plaintext

/-- The authenticated decryption of a record alone: `none` when its tag does not
authenticate it under the binding. -/
def openRecord (encryptionKey : AesGcm) (binding : RecordingBinding) (record : ChunkRecord) :
    Option Bytes :=
  match canonicalChunkAadBytes
      { binding with codec := recordingCodec, chunkIndex := record.chunkIndex
                     nonceBase64url := encodeBase64Url record.nonce
                     plaintextBytes := record.plaintextLength } with
  | .error _ => none
  | .ok aad => encryptionKey.decrypt record.nonce aad record.sealed

/-- A frame is decrypted exactly when it stands at its place under the nonce prefix
and opens. -/
theorem decryptRecordingChunk_eq_ok {encryptionKey : AesGcm} {frame : Frame}
    {chunkIndex : ℕ} {noncePrefix plaintext : Bytes} {binding : RecordingBinding} :
    decryptRecordingChunk encryptionKey frame.encode chunkIndex noncePrefix binding =
        .ok plaintext ↔
      RecordingBindingSchema.accepts binding = true ∧ frame.chunkIndex = chunkIndex ∧
        frame.noncePrefix = noncePrefix ∧
        openRecord encryptionKey binding frame.record = some plaintext := by
  have hrecord : parseChunkRecord frame.encode = .ok frame.record :=
    parseChunkRecord_eq_ok.mpr ⟨frame, rfl, rfl⟩
  rw [decryptRecordingChunk, hrecord, orThrow_ok, except_ok_bind, bind_eq_ok]
  constructor
  · rintro ⟨nonce, hnonce, h⟩
    obtain ⟨hlength, -, rfl⟩ := buildChunkNonce_eq_ok.mp (orThrow_eq_ok.mp hnonce)
    rw [rejectIf_bind_eq_ok, rejectIf_bind_eq_ok, bind_eq_ok] at h
    obtain ⟨hplace, hbinding, aad, haad, h⟩ := h
    have hindex : frame.chunkIndex = chunkIndex := by
      by_contra hne
      exact hplace (Or.inl hne)
    have hequal : frame.nonce = noncePrefix ++ uint32be chunkIndex := by
      by_contra hne
      exact hplace (Or.inr (bytesEqual_eq_false_iff.mpr hne))
    refine ⟨by simpa using hbinding, hindex, ?_, ?_⟩
    · rw [Frame.nonce, hindex] at hequal
      exact List.append_cancel_right hequal
    · rw [openRecord, haad]
      split at h
      · cases h
      · next plaintext' hopened =>
        rw [rejectIf_bind_eq_ok] at h
        cases h.2
        exact hopened
  · rintro ⟨hbinding, rfl, rfl, hopened⟩
    rw [openRecord] at hopened
    split at hopened
    · cases hopened
    · next aad haad =>
      have hlength := encryptionKey.length_decrypt _ _ _ _ hopened
      have hplace : ¬ (frame.record.chunkIndex ≠ frame.chunkIndex ∨
          bytesEqual frame.record.nonce (frame.noncePrefix ++ uint32be frame.chunkIndex) =
            false) := by
        rw [bytesEqual_eq_false_iff]
        simp [Frame.record, Frame.nonce]
      refine ⟨_, orThrow_eq_ok.mpr (buildChunkNonce_of frame.prefix_length frame.index_le), ?_⟩
      rw [rejectIf_of_not hplace, except_ok_bind,
        rejectIf_of_not (by simp [hbinding]), except_ok_bind, haad, except_ok_bind, hopened]
      simp only
      rw [rejectIf_of_not, except_ok_bind, except_pure]
      have hsealed := frame.length_sealed
      simp only [Frame.record] at hlength ⊢
      omega

/-! ## A platform for one message -/

/-- The binding of a recording whose first chunk is the byte `0x42`. -/
def sampleBinding : RecordingBinding where
  attemptId := js "11111111-1111-4111-8111-111111111111"
  headSha := js "aaaaaaaaaaaaaaaaaaaaaaaaaaaaaaaaaaaaaaaa"
  objectId := js "22222222-2222-4222-8222-222222222222"

def samplePrefix : Bytes := [1, 2, 3, 4, 5, 6, 7, 8]

def sampleNonce : Bytes := samplePrefix ++ [0, 0, 0, 0]

def samplePlaintext : Bytes := [0x42]

/-- The chunk under AES-256-GCM, with the key of the bytes from 0 to 31. -/
def sampleSealed : Bytes :=
  [200, 233, 177, 200, 46, 167, 49, 69, 77, 33, 192, 199, 4, 248, 81, 173, 239]

/-- What the chunk is authenticated with. -/
def sampleAad : Bytes := JsString.utf8Encode
  (js "[\"slopproof-recording-chunk\",1,\"SP-RC1\",\"11111111-1111-4111-8111-111111111111\",\"aaaaaaaaaaaaaaaaaaaaaaaaaaaaaaaaaaaaaaaa\",\"22222222-2222-4222-8222-222222222222\",\"video/webm;codecs=vp8,opus\",0,\"AQIDBAUGBwgAAAAA\",1]")

/-- The key on that chunk; elsewhere the tag is zero and nothing opens. -/
def sampleAesGcm : AesGcm where
  encrypt iv additionalData plaintext :=
    if iv = sampleNonce ∧ additionalData = sampleAad ∧ plaintext = samplePlaintext then
      some sampleSealed
    else some (plaintext ++ List.replicate aesGcmTagBytes 0)
  decrypt iv additionalData sealed :=
    if iv = sampleNonce ∧ additionalData = sampleAad ∧ sealed = sampleSealed then
      some samplePlaintext
    else none
  length_encrypt := by
    intro iv additionalData plaintext sealed h
    split at h
    · next hsample =>
      cases h
      rw [hsample.2.2]
      rfl
    · cases h
      simp
  length_decrypt := by
    intro iv additionalData sealed plaintext h
    split at h
    · next hsample =>
      cases h
      rw [hsample.2.2]
      rfl
    · cases h

def sampleRecord : Bytes :=
  [83, 80, 67, 49, 1, 0, 0, 32, 0, 0, 0, 0] ++ sampleNonce ++ [0, 0, 0, 1, 0, 0, 0, 17] ++
    sampleSealed

/-- SHA-256 on the sealed chunk and on its record; elsewhere zero. -/
def sampleDigest (value : Bytes) : Bytes :=
  if value = sampleSealed then
    [106, 133, 134, 105, 63, 84, 117, 2, 68, 238, 170, 38, 182, 127, 212, 193,
      150, 84, 59, 133, 32, 19, 179, 68, 121, 211, 235, 201, 225, 91, 207, 178]
  else if value = sampleRecord then
    [10, 163, 30, 176, 212, 189, 47, 71, 118, 158, 135, 38, 63, 51, 155, 93,
      189, 82, 159, 5, 221, 50, 219, 185, 229, 55, 26, 113, 116, 186, 146, 7]
  else List.replicate 32 0

def sampleSha256 : Sha256 where
  digest := sampleDigest
  length_digest := by
    intro value
    rw [sampleDigest]
    split
    · rfl
    · split <;> rfl

end Media

end UnderstandProof
