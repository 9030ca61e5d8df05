import UnderstandProof.Foundation.JsonText
import UnderstandProof.Media.Crypto
import UnderstandProof.Media.ManifestParts

/-!
# Canonical bytes

The bytes that the key derivation, the additional data of a chunk and the
manifest authentication are computed over. Each is the text of a JSON array whose
positions are the fields and whose first item is a domain of its own. The text
determines the array, the array determines the fields it carries, and the fields
it leaves out are constants that the schemas have checked.
-/

open Foundation

namespace UnderstandProof

namespace Media

def canonicalKdfContextJson (binding : RecordingBinding) : Json :=
  .arr [.str kdfDomain, .num recordingProtocolVersion, .str binding.attemptId,
    .str binding.headSha, .str binding.objectId]

def canonicalKdfContextBytes (binding : RecordingBinding) : Except Thrown Bytes := do
  rejectIf (RecordingBindingSchema.accepts binding = false) .zod
  return JsString.utf8Encode (Json.stringify (canonicalKdfContextJson binding))

/-- The array that `canonicalChunkAadBytes` prints. -/
def canonicalChunkAadJson (context : ChunkAadContext) : Json :=
  .arr [.str chunkAadDomain, .num recordingProtocolVersion, .str recordingSuiteId,
    .str context.attemptId, .str context.headSha, .str context.objectId,
    .str context.codec, .num context.chunkIndex, .str context.nonceBase64url,
    .num context.plaintextBytes]

def ManifestChunk.canonical (chunk : ManifestChunk) : Json :=
  .arr [.num chunk.index, .str chunk.nonce, .num chunk.plaintextBytes,
    .num chunk.sealedBytes, .str chunk.ciphertextSha256]

def ManifestPart.canonical (part : ManifestPart) : Json :=
  .arr [.num part.partNumber, .num part.firstChunkIndex, .num part.lastChunkIndex,
    .num part.byteLength, .str part.sha256]

def ProofQuestionInterval.canonical (interval : ProofQuestionInterval) : Json :=
  .arr [.str interval.schemaVersion, .str interval.intervalVersion,
    .str interval.questionId, .num interval.ordinal, .num interval.startMs,
    .num interval.endMs, .num interval.recordedDurationMs, .str interval.source]

/-- What is pushed behind the parts when there are intervals. -/
def canonicalQuestionIntervals : Option (List ProofQuestionInterval) → List Json
  | none => []
  | some intervals =>
      [.arr [.str (js "proof-question-intervals-v1"),
        .arr (intervals.map ProofQuestionInterval.canonical)]]

def canonicalManifestJson (manifest : RecordingManifest) : Json :=
  .arr ([.str manifestDomain, .num recordingProtocolVersion, .str recordingSuiteId,
    .str manifest.attemptId, .str manifest.headSha, .str manifest.objectId,
    .str manifest.codec, .str manifest.noncePrefixBase64url,
    .str manifest.wrapping.materialId, .str manifest.wrapping.keyId,
    .str wrappingAlgorithm, .str manifest.wrapping.wrappedKeySha256,
    .num manifest.durationMs, .num manifest.totalPlaintextBytes,
    .num manifest.totalObjectBytes, .arr (manifest.chunks.map ManifestChunk.canonical),
    .arr (manifest.parts.map ManifestPart.canonical)] ++
      canonicalQuestionIntervals manifest.questionIntervals)

def canonicalManifestBytes (manifest : RecordingManifest) : Except Thrown Bytes := do
  rejectIf (RecordingManifestSchema.accepts manifest = false) .zod
  return JsString.utf8Encode (Json.stringify (canonicalManifestJson manifest))

/-! ## The bytes of accepted inputs -/

theorem canonicalKdfContextBytes_of_accepts {binding : RecordingBinding}
    (h : RecordingBindingSchema.accepts binding = true) :
    canonicalKdfContextBytes binding =
      .ok (JsString.utf8Encode (Json.stringify (canonicalKdfContextJson binding))) :=
  rejectIf_bind_eq_ok.mpr ⟨by simp [h], rfl⟩

theorem canonicalChunkAadBytes_of_accepts {context : ChunkAadContext}
    (h : ChunkAadContextSchema.accepts context = true) :
    canonicalChunkAadBytes context =
      .ok (JsString.utf8Encode (Json.stringify (canonicalChunkAadJson context))) :=
  rejectIf_bind_eq_ok.mpr ⟨by simp [h], rfl⟩

theorem canonicalManifestBytes_of_accepts {manifest : RecordingManifest}
    (h : RecordingManifestSchema.accepts manifest = true) :
    canonicalManifestBytes manifest =
      .ok (JsString.utf8Encode (Json.stringify (canonicalManifestJson manifest))) :=
  rejectIf_bind_eq_ok.mpr ⟨by simp [h], rfl⟩

/-- Two printed values with the same bytes are one value. -/
theorem json_eq_of_bytes {a b : Json}
    (h : (.ok (JsString.utf8Encode (Json.stringify a)) : Except Thrown Bytes) =
      .ok (JsString.utf8Encode (Json.stringify b))) : a = b :=
  Json.utf8Encode_stringify_injective (Except.ok.inj h)

/-! ## The fields behind the array -/

theorem ManifestChunk.canonical_injective : Function.Injective ManifestChunk.canonical := by
  rintro ⟨⟩ ⟨⟩ h
  simpa [ManifestChunk.canonical] using h

theorem ManifestPart.canonical_injective : Function.Injective ManifestPart.canonical := by
  rintro ⟨⟩ ⟨⟩ h
  simpa [ManifestPart.canonical] using h

theorem ProofQuestionInterval.canonical_injective :
    Function.Injective ProofQuestionInterval.canonical := by
  rintro ⟨⟩ ⟨⟩ h
  simpa [ProofQuestionInterval.canonical] using h

theorem canonicalQuestionIntervals_injective :
    Function.Injective canonicalQuestionIntervals := by
  intro intervals intervals' h
  cases intervals with
  | none =>
      cases intervals' with
      | none => rfl
      | some _ => cases h
  | some intervals =>
      cases intervals' with
      | none => cases h
      | some intervals' =>
          simp only [canonicalQuestionIntervals, List.cons.injEq, Json.arr.injEq, and_true,
            true_and] at h
          rw [List.map_injective_iff.mpr ProofQuestionInterval.canonical_injective h]

theorem canonicalKdfContextJson_injective : Function.Injective canonicalKdfContextJson := by
  rintro ⟨⟩ ⟨⟩ h
  simpa [canonicalKdfContextJson] using h

theorem canonicalChunkAadJson_injective : Function.Injective canonicalChunkAadJson := by
  rintro ⟨⟨⟩⟩ ⟨⟨⟩⟩ h
  simpa [canonicalChunkAadJson, and_assoc] using h

/-- The fields that the array leaves out have one accepted value. -/
theorem RecordingManifestSchema.literals {manifest : RecordingManifest}
    (h : RecordingManifestSchema.accepts manifest = true) :
    manifest.protocolVersion = recordingProtocolVersion ∧
      manifest.suiteId = recordingSuiteId ∧ manifest.wrapping.algorithm = wrappingAlgorithm := by
  simp only [RecordingManifestSchema.accepts, RecordingManifestSchema.shape,
    ManifestWrappingSchema.accepts, Bool.and_eq_true, beq_iff_eq] at h
  tauto

theorem canonicalManifestJson_inj {manifest manifest' : RecordingManifest}
    (haccepts : RecordingManifestSchema.accepts manifest = true)
    (haccepts' : RecordingManifestSchema.accepts manifest' = true)
    (h : canonicalManifestJson manifest = canonicalManifestJson manifest') :
    manifest = manifest' := by
  obtain ⟨hversion, hsuite, halgorithm⟩ := RecordingManifestSchema.literals haccepts
  obtain ⟨hversion', hsuite', halgorithm'⟩ := RecordingManifestSchema.literals haccepts'
  obtain ⟨⟨attemptId, headSha, objectId⟩, _, _, codec, noncePrefix,
    ⟨materialId, keyId, _, wrappedKeySha256⟩, durationMs, plaintext, object, intervals,
    chunks, parts⟩ := manifest
  obtain ⟨⟨attemptId', headSha', objectId'⟩, _, _, codec', noncePrefix',
    ⟨materialId', keyId', _, wrappedKeySha256'⟩, durationMs', plaintext', object', intervals',
    chunks', parts'⟩ := manifest'
  simp only at hversion hsuite halgorithm hversion' hsuite' halgorithm'
  subst hversion hsuite halgorithm hversion' hsuite' halgorithm'
  simp only [canonicalManifestJson, Json.arr.injEq, List.cons_append, List.nil_append,
    List.cons.injEq, Json.str.injEq, Json.num.injEq, true_and] at h
  obtain ⟨rfl, rfl, rfl, rfl, rfl, rfl, rfl, rfl, rfl, rfl, rfl, hchunks, hparts,
    hintervals⟩ := h
  rw [List.map_injective_iff.mpr ManifestChunk.canonical_injective hchunks,
    List.map_injective_iff.mpr ManifestPart.canonical_injective hparts,
    canonicalQuestionIntervals_injective hintervals]

theorem canonicalKdfContextJson_ne_chunkAad (binding : RecordingBinding)
    (context : ChunkAadContext) :
    canonicalKdfContextJson binding ≠ canonicalChunkAadJson context := by
  intro h
  simp [canonicalKdfContextJson, canonicalChunkAadJson] at h

theorem canonicalKdfContextJson_ne_manifest (binding : RecordingBinding)
    (manifest : RecordingManifest) :
    canonicalKdfContextJson binding ≠ canonicalManifestJson manifest := by
  intro h
  simp [canonicalKdfContextJson, canonicalManifestJson] at h

theorem domains_ne : chunkAadDomain ≠ manifestDomain := by decide

theorem canonicalChunkAadJson_ne_manifest (context : ChunkAadContext)
    (manifest : RecordingManifest) :
    canonicalChunkAadJson context ≠ canonicalManifestJson manifest := by
  intro h
  simp [canonicalChunkAadJson, canonicalManifestJson, domains_ne] at h

/-- Equal authenticated bytes have equal contents: each of the three forms is
injective on accepted inputs, and no output of one is an output of another. -/
theorem canonicalBytes_injective :
    (∀ manifest manifest' : RecordingManifest,
      RecordingManifestSchema.accepts manifest = true →
      RecordingManifestSchema.accepts manifest' = true →
      canonicalManifestBytes manifest = canonicalManifestBytes manifest' →
      manifest = manifest') ∧
    (∀ context context' : ChunkAadContext,
      ChunkAadContextSchema.accepts context = true →
      ChunkAadContextSchema.accepts context' = true →
      canonicalChunkAadBytes context = canonicalChunkAadBytes context' → context = context') ∧
    (∀ binding binding' : RecordingBinding,
      RecordingBindingSchema.accepts binding = true →
      RecordingBindingSchema.accepts binding' = true →
      canonicalKdfContextBytes binding = canonicalKdfContextBytes binding' →
      binding = binding') ∧
    ∀ (binding : RecordingBinding) (context : ChunkAadContext) (manifest : RecordingManifest),
      RecordingBindingSchema.accepts binding = true →
      ChunkAadContextSchema.accepts context = true →
      RecordingManifestSchema.accepts manifest = true →
      canonicalKdfContextBytes binding ≠ canonicalChunkAadBytes context ∧
        canonicalKdfContextBytes binding ≠ canonicalManifestBytes manifest ∧
        canonicalChunkAadBytes context ≠ canonicalManifestBytes manifest := by
  refine ⟨?_, ?_, ?_, ?_⟩
  · intro manifest manifest' h h' heq
    rw [canonicalManifestBytes_of_accepts h, canonicalManifestBytes_of_accepts h'] at heq
    exact canonicalManifestJson_inj h h' (json_eq_of_bytes heq)
  · intro context context' h h' heq
    rw [canonicalChunkAadBytes_of_accepts h, canonicalChunkAadBytes_of_accepts h'] at heq
    exact canonicalChunkAadJson_injective (json_eq_of_bytes heq)
  · intro binding binding' h h' heq
    rw [canonicalKdfContextBytes_of_accepts h, canonicalKdfContextBytes_of_accepts h'] at heq
    exact canonicalKdfContextJson_injective (json_eq_of_bytes heq)
  · intro binding context manifest hbinding hcontext hmanifest
    rw [canonicalKdfContextBytes_of_accepts hbinding,
      canonicalChunkAadBytes_of_accepts hcontext, canonicalManifestBytes_of_accepts hmanifest]
    refine ⟨?_, ?_, ?_⟩
    · intro h
      exact canonicalKdfContextJson_ne_chunkAad binding context (json_eq_of_bytes h)
    · intro h
      exact canonicalKdfContextJson_ne_manifest binding manifest (json_eq_of_bytes h)
    · intro h
      exact canonicalChunkAadJson_ne_manifest context manifest (json_eq_of_bytes h)

/-- The context of the sample chunk. -/
def sampleContext (plaintextBytes : ℕ) : ChunkAadContext where
  toRecordingBinding := sampleBinding
  codec := recordingCodec
  chunkIndex := 0
  nonceBase64url := encodeBase64Url sampleNonce
  plaintextBytes

/-- Two part lists over the same chunks, two chunk lengths, and the three forms of
one binding have different bytes. -/
theorem canonicalBytes_injective_sample :
    (∃ parts parts', canonicalManifestBytes (RecordingManifestSchema.sampleManifest parts) ≠
      canonicalManifestBytes (RecordingManifestSchema.sampleManifest parts') ∧
      canonicalKdfContextBytes sampleBinding ≠
        canonicalManifestBytes (RecordingManifestSchema.sampleManifest parts)) ∧
    canonicalChunkAadBytes (sampleContext 1) ≠ canonicalChunkAadBytes (sampleContext 2) ∧
    canonicalKdfContextBytes sampleBinding ≠ canonicalChunkAadBytes (sampleContext 1) := by
  obtain ⟨hmanifest, haad, -, hacross⟩ := canonicalBytes_injective
  obtain ⟨htwo, hone⟩ := RecordingManifestSchema.same_chunks_two_part_lists
  have hbinding : RecordingBindingSchema.accepts sampleBinding = true := by decide
  have hfirst : ChunkAadContextSchema.accepts (sampleContext 1) = true := by decide
  have hsecond : ChunkAadContextSchema.accepts (sampleContext 2) = true := by decide
  obtain ⟨hkdfAad, hkdfManifest, -⟩ := hacross _ _ _ hbinding hfirst htwo
  refine ⟨⟨_, [⟨1, 0, 2, 8388666, RecordingManifestSchema.sampleSha256⟩], ?_, hkdfManifest⟩,
    ?_, hkdfAad⟩
  · intro h
    exact absurd (congrArg RecordingManifest.parts (hmanifest _ _ htwo hone h)) (by decide)
  · intro h
    exact absurd (congrArg ChunkAadContext.plaintextBytes (haad _ _ hfirst hsecond h))
      (by decide)

end Media

end UnderstandProof
