import UnderstandProof.Worker.PartCursor
import UnderstandProof.Worker.RecordCursor

/-!
# Reading a stream is reading its bytes

However the object was cut into stream chunks, the two cursors stand where a single
run over the concatenated bytes leaves them. So the call succeeds exactly when the
bytes as a whole are the recording that the manifest describes.
-/

open Foundation Foundation.Tiling

namespace UnderstandProof

namespace Worker

open Media Media.RecordingManifestSchema

/-- The bytes as a whole are the recording of the manifest: they parse as a sequence
under its nonce prefix, the records agree with its chunks and authenticate, and the
bytes have its length and, cut at the part lengths, its part hashes. -/
structure WholeObject (sha256 : Sha256) (encryptionKey : AesGcm)
    (manifest : RecordingManifest) (bytes : Bytes) (records : List ChunkRecord)
    (plaintexts : List Bytes) : Prop where
  parsed : parseChunkRecordSequence bytes 0 = .ok records
  noncePrefix : ∀ record ∈ records,
    decodeBase64Url manifest.noncePrefixBase64url = .ok (slice record.nonce 0 8)
  agrees : List.Forall₂ (Agrees sha256) records manifest.chunks
  authenticates : List.Forall₂ (fun record plaintext =>
    openRecord encryptionKey manifest.toRecordingBinding record = some plaintext)
    records plaintexts
  parts : ∀ k (hk : k < manifest.parts.length),
    sha256Hex sha256 (slice bytes (offset (partLengths manifest.parts) k)
      (offset (partLengths manifest.parts) (k + 1))) = manifest.parts[k].sha256
  total : bytes.length = manifest.totalObjectBytes

/-- What the reader needs to know of an accepted manifest. -/
structure ManifestFacts (manifest : RecordingManifest) (noncePrefix : Bytes) : Prop where
  prefix_eq : decodeBase64Url manifest.noncePrefixBase64url = .ok noncePrefix
  binding : RecordingBindingSchema.accepts manifest.toRecordingBinding = true
  chunks_pos : 1 ≤ manifest.chunks.length
  chunks_le : manifest.chunks.length ≤ maxRecordingChunks
  object_le : manifest.totalObjectBytes ≤ maxRecordingObjectBytes
  part_pos : ∀ part ∈ manifest.parts, 0 < part.byteLength
  part_total : (partLengths manifest.parts).sum = manifest.totalObjectBytes

theorem exists_manifestFacts {manifest : RecordingManifest} (h : accepts manifest = true) :
    ∃ noncePrefix, ManifestFacts manifest noncePrefix := by
  obtain ⟨hshape, noncePrefix, hlayout⟩ := accepts_iff.mp h
  have hpart := byteLength_pos_of_shape hshape
  simp only [shape, Bool.and_eq_true, decide_eq_true_eq] at hshape
  refine ⟨noncePrefix, hlayout.prefix_eq, ?_, ?_, ?_, ?_, hpart, hlayout.part_total⟩
  all_goals tauto

variable {sha256 : Sha256} {encryptionKey : AesGcm} {noncePrefix : Bytes}
  {manifest : RecordingManifest}

/-- The whole object in terms of the two cursors. -/
theorem ManifestFacts.wholeObject_iff (facts : ManifestFacts manifest noncePrefix)
    {bytes : Bytes} {plaintexts : List Bytes} :
    (∃ records, WholeObject sha256 encryptionKey manifest bytes records plaintexts) ↔
      PartsMatch sha256 manifest bytes ∧
        ∃ frames, bytes = encodeFrames frames ∧ frames.length = manifest.chunks.length ∧
          ReadsFrom sha256 encryptionKey noncePrefix manifest 0 frames plaintexts := by
  constructor
  · rintro ⟨records, h⟩
    refine ⟨⟨h.total.trans facts.part_total.symm, h.parts⟩, ?_⟩
    obtain ⟨-, -, parsedPrefix, frames, hbytes, hconsecutive, hne, -, rfl⟩ :=
      parseChunkRecordSequence_eq_ok.mp h.parsed
    have hlength : frames.length = manifest.chunks.length := by
      have hlengths := h.agrees.length_eq
      rwa [List.length_map] at hlengths
    have hpre : parsedPrefix = noncePrefix := by
      obtain ⟨frame, hframe⟩ := List.exists_mem_of_ne_nil _ hne
      have hdecoded := h.noncePrefix _ (List.mem_map_of_mem hframe)
      rw [facts.prefix_eq, Except.ok.injEq] at hdecoded
      rw [← hconsecutive.prefixes frame hframe, hdecoded]
      exact frame.slice_nonce.symm
    subst hpre
    refine ⟨frames, hbytes, hlength, (readsFrom_iff (by omega)).mpr
      ⟨hconsecutive, ?_, h.authenticates⟩⟩
    rw [List.drop_zero]
    exact h.agrees
  · rintro ⟨hparts, frames, rfl, hlength, hreads⟩
    obtain ⟨hconsecutive, hagrees, hopens⟩ := (readsFrom_iff (by omega)).mp hreads
    have htotal := hparts.length_eq.trans facts.part_total
    refine ⟨frames.map Frame.record, ?_, ?_, ?_, hopens, hparts.hashes, htotal⟩
    · refine parseChunkRecordSequence_eq_ok.mpr ⟨Nat.zero_le _, ?_, noncePrefix, frames, rfl,
        hconsecutive, ?_, ?_, rfl⟩
      · rw [htotal]
        exact facts.object_le
      · apply List.ne_nil_of_length_pos
        rw [hlength]
        exact facts.chunks_pos
      · rw [hlength]
        exact facts.chunks_le
    · intro record hrecord
      obtain ⟨frame, hframe, rfl⟩ := List.mem_map.mp hrecord
      rw [facts.prefix_eq, ← hconsecutive.prefixes frame hframe]
      exact congrArg _ frame.slice_nonce.symm
    · rwa [List.drop_zero] at hagrees

/-! ## The reading loop -/

/-- The loop has read the bytes `done`: both cursors stand where a single run over
these bytes leaves them. -/
structure Reading (sha256 : Sha256) (encryptionKey : AesGcm) (noncePrefix : Bytes)
    (manifest : RecordingManifest) (done : Bytes) (state : ReaderState) : Prop where
  parts : PartCursor.At sha256 manifest done state.parts
  records : (recordReader sha256 encryptionKey noncePrefix manifest).drain ⟨0, []⟩ done =
    ⟨state.records, state.pending, .ok ()⟩
  objectBytes : state.objectBytes = done.length

/-- The loop has failed on the bytes `bytes`, and would have failed on them in one
piece. -/
structure ReadingFailed (sha256 : Sha256) (encryptionKey : AesGcm) (noncePrefix : Bytes)
    (manifest : RecordingManifest) (bytes : Bytes) (state : ReaderState) : Prop where
  reason : ¬ PartsMatch sha256 manifest bytes ∨
    ∃ e, ((recordReader sha256 encryptionKey noncePrefix manifest).drain ⟨0, []⟩
      bytes).outcome = .error e
  delivered : state.records.delivered <+:
    decryptedRecords encryptionKey manifest.toRecordingBinding bytes

theorem Reading.start (facts : ManifestFacts manifest noncePrefix) :
    Reading sha256 encryptionKey noncePrefix manifest [] (ReaderState.start manifest) where
  parts := PartCursor.At.start facts.part_pos
  records := recordReader_nil _
  objectBytes := rfl

theorem Reading.delivered_isPrefix (facts : ManifestFacts manifest noncePrefix) {done : Bytes}
    {state : ReaderState}
    (h : Reading sha256 encryptionKey noncePrefix manifest done state) (more : Bytes) :
    state.records.delivered <+:
      decryptedRecords encryptionKey manifest.toRecordingBinding (done ++ more) := by
  have hpre : ((recordReader sha256 encryptionKey noncePrefix manifest).drain ⟨0, []⟩
      done).state.delivered <+: decryptedRecords encryptionKey manifest.toRecordingBinding
        (done ++ more) := Worker.delivered_isPrefix facts.binding done more
  rwa [h.records] at hpre

/-- One turn of the loop. -/
theorem Reading.readIncoming (facts : ManifestFacts manifest noncePrefix) {done : Bytes}
    {state next : ReaderState} {outcome : Except Thrown Unit} {incoming : Bytes}
    (h : Reading sha256 encryptionKey noncePrefix manifest done state)
    (hnext : (readIncoming sha256 encryptionKey noncePrefix manifest incoming).run state =
      (outcome, next)) :
    (outcome = .ok () ∧
        Reading sha256 encryptionKey noncePrefix manifest (done ++ incoming) next) ∨
      ∃ e, outcome = .error e ∧ ∀ more, ReadingFailed sha256 encryptionKey noncePrefix manifest
        (done ++ incoming ++ more) next := by
  simp only [Worker.readIncoming, Stateful.run] at hnext
  have happend : (recordReader sha256 encryptionKey noncePrefix manifest).drain ⟨0, []⟩
      (done ++ incoming) = (recordReader sha256 encryptionKey noncePrefix manifest).drain
        state.records (state.pending ++ incoming) :=
    Consumer.drain_append_of_ok recordReader_stable h.records
  rcases h.parts.drain facts.part_pos incoming with ⟨hok, hparts⟩ | ⟨e, herror, hmatch⟩
  · rw [hok] at hnext
    cases hdrained : (recordReader sha256 encryptionKey noncePrefix manifest).drain
      state.records (state.pending ++ incoming) with
    | mk records pending result =>
        rw [hdrained] at hnext happend
        cases hnext
        cases result with
        | ok u =>
            refine Or.inl ⟨rfl, hparts, happend, ?_⟩
            simp only [h.objectBytes, List.length_append]
        | error e =>
            refine Or.inr ⟨e, rfl, fun more => ⟨Or.inr ⟨e, ?_⟩, ?_⟩⟩
            · rw [Consumer.drain_append_of_error recordReader_stable happend]
            · have hpre : ((recordReader sha256 encryptionKey noncePrefix manifest).drain
                  ⟨0, []⟩ (done ++ incoming)).state.delivered <+:
                    decryptedRecords encryptionKey manifest.toRecordingBinding
                      (done ++ incoming ++ more) :=
                Worker.delivered_isPrefix facts.binding (done ++ incoming) more
              rwa [happend] at hpre
  · rw [herror] at hnext
    cases hnext
    refine Or.inr ⟨e, rfl, fun more => ⟨Or.inl (hmatch more), ?_⟩⟩
    rw [List.append_assoc]
    exact h.delivered_isPrefix facts _

/-- The whole loop: it has read all bytes, or it has failed on them. -/
theorem Reading.forM (facts : ManifestFacts manifest noncePrefix) {stream : List Bytes}
    {done : Bytes} {state final : ReaderState} {outcome : Except Thrown Unit}
    (h : Reading sha256 encryptionKey noncePrefix manifest done state)
    (hfinal : (stream.forM (Worker.readIncoming sha256 encryptionKey noncePrefix
      manifest)).run state = (outcome, final)) :
    (outcome = .ok () ∧
        Reading sha256 encryptionKey noncePrefix manifest (done ++ stream.flatten) final) ∨
      ∃ e, outcome = .error e ∧ ReadingFailed sha256 encryptionKey noncePrefix manifest
        (done ++ stream.flatten) final := by
  induction stream generalizing done state with
  | nil =>
      cases hfinal
      rw [List.flatten_nil, List.append_nil]
      exact Or.inl ⟨rfl, h⟩
  | cons incoming stream ih =>
      rw [List.flatten_cons, ← List.append_assoc]
      rw [List.forM, Stateful.run_bind] at hfinal
      cases hread : (Worker.readIncoming sha256 encryptionKey noncePrefix manifest
        incoming).run state with
      | mk result next =>
          rw [hread] at hfinal
          rcases h.readIncoming facts hread with ⟨rfl, hnext⟩ | ⟨e, rfl, hfailed⟩
          · exact ih hnext hfinal
          · cases hfinal
            exact Or.inr ⟨e, rfl, hfailed _⟩

/-- A whole object is drained to its end. -/
theorem drain_of_wholeObject (facts : ManifestFacts manifest noncePrefix) {bytes : Bytes}
    {records : List ChunkRecord} {plaintexts : List Bytes}
    (h : WholeObject sha256 encryptionKey manifest bytes records plaintexts) :
    PartsMatch sha256 manifest bytes ∧
      (recordReader sha256 encryptionKey noncePrefix manifest).drain ⟨0, []⟩ bytes =
        ⟨⟨manifest.chunks.length, plaintexts⟩, [], .ok ()⟩ := by
  obtain ⟨hparts, frames, rfl, hlength, hreads⟩ := facts.wholeObject_iff.mp ⟨records, h⟩
  refine ⟨hparts, ?_⟩
  have hdrain : (recordReader sha256 encryptionKey noncePrefix manifest).drain ⟨0, []⟩
      (encodeFrames frames ++ []) =
        (recordReader sha256 encryptionKey noncePrefix manifest).drain
          ⟨0 + frames.length, [] ++ plaintexts⟩ [] := ReadsFrom.drain facts.binding hreads []
  rw [List.append_nil, recordReader_nil] at hdrain
  simpa [hlength] using hdrain

/-- The plaintexts of a whole object are its decrypted records. -/
theorem WholeObject.plaintexts_eq (facts : ManifestFacts manifest noncePrefix)
    {bytes : Bytes} {records : List ChunkRecord} {plaintexts : List Bytes}
    (h : WholeObject sha256 encryptionKey manifest bytes records plaintexts) :
    plaintexts = decryptedRecords encryptionKey manifest.toRecordingBinding bytes := by
  have hsimulates : (opener encryptionKey manifest.toRecordingBinding).drain [] bytes =
      (opener encryptionKey manifest.toRecordingBinding).drain
        ((recordReader sha256 encryptionKey noncePrefix manifest).drain ⟨0, []⟩
          bytes).state.delivered
        ((recordReader sha256 encryptionKey noncePrefix manifest).drain ⟨0, []⟩ bytes).rest :=
    opener_simulates facts.binding bytes
  rw [decryptedRecords, hsimulates, (drain_of_wholeObject facts h).2]
  rfl

/-- At the end of the loop the last check passes exactly on a whole object. -/
theorem Reading.checkEnd_iff (facts : ManifestFacts manifest noncePrefix) {bytes : Bytes}
    {state : ReaderState}
    (h : Reading sha256 encryptionKey noncePrefix manifest bytes state) :
    ((checkEnd manifest).run state).1 = .ok () ↔
      ∃ records plaintexts,
        WholeObject sha256 encryptionKey manifest bytes records plaintexts := by
  simp only [checkEnd, Stateful.run]
  rw [rejectIf_eq_ok]
  constructor
  · intro hend
    simp only [not_or, not_not] at hend
    obtain ⟨hpending, hrecords, hpart, hremaining, hobject⟩ := hend
    obtain ⟨frames, plaintexts, hreads, hbytes, hstate⟩ :
        ∃ frames plaintexts, ReadsFrom sha256 encryptionKey noncePrefix manifest 0 frames
            plaintexts ∧
          bytes = encodeFrames frames ++ ((recordReader sha256 encryptionKey noncePrefix
            manifest).drain ⟨0, []⟩ bytes).rest ∧
          ((recordReader sha256 encryptionKey noncePrefix manifest).drain ⟨0, []⟩
            bytes).state = ⟨0 + frames.length, [] ++ plaintexts⟩ :=
      exists_readsFrom facts.binding ⟨0, []⟩ bytes
    rw [h.records] at hbytes hstate
    simp only at hbytes hstate
    rw [List.length_eq_zero_iff.mp hpending, List.append_nil] at hbytes
    rw [hstate, Nat.zero_add] at hrecords
    obtain ⟨records, hwhole⟩ := facts.wholeObject_iff.mpr
      ⟨h.parts.partsMatch_iff.mpr ⟨hpart, hremaining⟩, frames, hbytes, hrecords, hreads⟩
    exact ⟨records, plaintexts, hwhole⟩
  · rintro ⟨records, plaintexts, hwhole⟩
    obtain ⟨hmatch, hdrain⟩ := drain_of_wholeObject facts hwhole
    obtain ⟨hpart, hremaining⟩ := h.parts.partsMatch_iff.mp hmatch
    rw [h.records, Drained.mk.injEq] at hdrain
    simp only [hdrain.1, hdrain.2.1, hpart, hremaining, h.objectBytes, hwhole.total,
      List.length_nil, ne_eq, not_true_eq_false, or_self, not_false_eq_true]

/-- A loop that has failed has failed on bytes that are no whole object. -/
theorem ReadingFailed.not_wholeObject (facts : ManifestFacts manifest noncePrefix)
    {bytes : Bytes} {state : ReaderState}
    (h : ReadingFailed sha256 encryptionKey noncePrefix manifest bytes state)
    (records : List ChunkRecord) (plaintexts : List Bytes) :
    ¬ WholeObject sha256 encryptionKey manifest bytes records plaintexts := by
  intro hwhole
  obtain ⟨hmatch, hdrain⟩ := drain_of_wholeObject facts hwhole
  rcases h.reason with hparts | ⟨e, herror⟩
  · exact hparts hmatch
  · rw [hdrain] at herror
    cases herror

/-- A call has read the whole stream and then made the last check, or it has failed on it. -/
theorem streamDecryptedRecording_cases (facts : ManifestFacts manifest noncePrefix)
    (stream : List Bytes) :
    (∃ state, Reading sha256 encryptionKey noncePrefix manifest stream.flatten state ∧
        streamDecryptedRecording sha256 encryptionKey stream manifest =
          (((checkEnd manifest).run state).1, state.records.delivered)) ∨
      ∃ e state, ReadingFailed sha256 encryptionKey noncePrefix manifest stream.flatten state ∧
        streamDecryptedRecording sha256 encryptionKey stream manifest =
          (.error e, state.records.delivered) := by
  have hstart : Reading sha256 encryptionKey noncePrefix manifest [] (ReaderState.start manifest) :=
    Reading.start facts
  simp only [streamDecryptedRecording, facts.prefix_eq, Stateful.run_bind]
  cases hloop : (stream.forM (Worker.readIncoming sha256 encryptionKey noncePrefix
    manifest)).run (ReaderState.start manifest) with
  | mk outcome final =>
      rcases hstart.forM facts hloop with ⟨rfl, hreading⟩ | ⟨e, rfl, hfailed⟩
      · exact .inl ⟨final, hreading, rfl⟩
      · exact .inr ⟨e, final, hfailed, rfl⟩

/-- What was delivered of a whole object that has been read to its end. -/
theorem Reading.delivered_eq (facts : ManifestFacts manifest noncePrefix) {bytes : Bytes}
    {state : ReaderState} {records : List ChunkRecord} {plaintexts : List Bytes}
    (h : Reading sha256 encryptionKey noncePrefix manifest bytes state)
    (hwhole : WholeObject sha256 encryptionKey manifest bytes records plaintexts) :
    state.records.delivered = plaintexts := by
  have hdrain := (drain_of_wholeObject facts hwhole).2
  rw [h.records, Drained.mk.injEq] at hdrain
  exact congrArg RecordCursor.delivered hdrain.1

/-- The reader succeeds on a stream exactly when the concatenated bytes are the whole
object, however they were cut; what it has delivered is then the list of plaintexts,
and otherwise a prefix of the decrypted records. -/
theorem streamDecryptedRecording_iff_wholeObject (h : accepts manifest = true)
    (stream : List Bytes) :
    ((streamDecryptedRecording sha256 encryptionKey stream manifest).1 = .ok () ↔
        ∃ records plaintexts,
          WholeObject sha256 encryptionKey manifest stream.flatten records plaintexts) ∧
      (∀ records plaintexts,
        WholeObject sha256 encryptionKey manifest stream.flatten records plaintexts →
          (streamDecryptedRecording sha256 encryptionKey stream manifest).2 = plaintexts ∧
            plaintexts =
              decryptedRecords encryptionKey manifest.toRecordingBinding stream.flatten) ∧
      (streamDecryptedRecording sha256 encryptionKey stream manifest).2 <+:
        decryptedRecords encryptionKey manifest.toRecordingBinding stream.flatten := by
  obtain ⟨noncePrefix, facts⟩ := exists_manifestFacts h
  have hcases := @streamDecryptedRecording_cases sha256 encryptionKey noncePrefix manifest facts
    stream
  rcases hcases with ⟨state, hreading, heq⟩ | ⟨e, state, hfailed, heq⟩
  · have hdelivered := hreading.delivered_isPrefix facts []
    rw [List.append_nil] at hdelivered
    rw [heq]
    refine ⟨hreading.checkEnd_iff facts, ?_, hdelivered⟩
    intro records plaintexts hwhole
    exact ⟨hreading.delivered_eq facts hwhole, hwhole.plaintexts_eq facts⟩
  · rw [heq]
    refine ⟨⟨?_, ?_⟩, ?_, hfailed.delivered⟩
    · intro hok
      cases hok
    · rintro ⟨records, plaintexts, hwhole⟩
      exact absurd hwhole (hfailed.not_wholeObject facts records plaintexts)
    · intro records plaintexts hwhole
      exact absurd hwhole (hfailed.not_wholeObject facts records plaintexts)

/-- The manifest of the object that is one record. -/
def sampleObjectManifest : RecordingManifest where
  toRecordingBinding := sampleBinding
  protocolVersion := recordingProtocolVersion
  suiteId := recordingSuiteId
  codec := recordingCodec
  noncePrefixBase64url := encodeBase64Url samplePrefix
  wrapping := ⟨js "33333333-3333-4333-8333-333333333333", js "local", wrappingAlgorithm,
    js "bbbbbbbbbbbbbbbbbbbbbbbbbbbbbbbbbbbbbbbbbbbbbbbbbbbbbbbbbbbbbbbb"⟩
  durationMs := 1000
  totalPlaintextBytes := 1
  totalObjectBytes := 49
  questionIntervals := none
  chunks := [⟨0, encodeBase64Url sampleNonce, 1, 17,
    js "6a8586693f54750244eeaa26b67fd4c196543b852013b34479d3ebc9e15bcfb2"⟩]
  parts := [⟨1, 0, 0, 49,
    js "0aa31eb0d4bd2f47769e87263f339b5dbd529f05dd32dbb9e5371a7174ba9207"⟩]

/-- The record in three pieces: a cut in the header, nothing, and a cut in the tag. -/
theorem streamDecryptedRecording_iff_wholeObject_sample :
    ∃ records, WholeObject sampleSha256 sampleAesGcm sampleObjectManifest
      [sampleRecord.take 20, [], (sampleRecord.drop 20).take 20, sampleRecord.drop 40].flatten
        records [samplePlaintext] := by
  have haccepts : accepts sampleObjectManifest = true := by decide
  obtain ⟨hiff, hdelivered, -⟩ := @streamDecryptedRecording_iff_wholeObject sampleSha256
    sampleAesGcm sampleObjectManifest haccepts
    [sampleRecord.take 20, [], (sampleRecord.drop 20).take 20, sampleRecord.drop 40]
  obtain ⟨records, plaintexts, hwhole⟩ := hiff.mp (by decide +kernel)
  have hsample : plaintexts = [samplePlaintext] := by
    rw [← (hdelivered records plaintexts hwhole).1]
    decide +kernel
  rw [hsample] at hwhole
  exact ⟨records, hwhole⟩

end Worker

end UnderstandProof
