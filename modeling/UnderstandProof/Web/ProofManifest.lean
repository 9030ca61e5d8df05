import UnderstandProof.Media.ManifestParts
import UnderstandProof.Web.ProofRecording

/-!
# The assembled manifest is accepted

The pipeline keeps one invariant: its chunk entries are the entries of the frames
it has pushed, and its parts are those of the packer. The packer computes the
chunks of a part while it drains its queue and the schema computes them from
offsets; both are the window of the part, so they agree.
-/

open Foundation Foundation.Tiling Foundation.BlockQueue

namespace UnderstandProof

namespace Web

open Media Media.RecordingManifestSchema

/-! ## From frames and parts to a laid-out manifest -/

theorem recordLengths_entries (sha256 : Sha256) (frames : List Frame) :
    recordLengths (frames.map (Frame.entry sha256)) =
      lengths (frames.map Frame.encode) := by
  simp [recordLengths, lengths, Frame.entry, Frame.length_encode]

theorem Frame.entry_accepted (sha256 : Sha256) (frame : Frame) :
    ManifestChunkSchema.accepts (frame.entry sha256) = true := by
  have hindex := frame.index_le
  have htag := frame.tag_lt
  have hsealed := frame.sealed_le
  simp only [ManifestChunkSchema.accepts, Bool.and_eq_true, decide_eq_true_eq]
  simp only [Frame.entry, Base64UrlSchema.accepts_encode, hasDecodedLength_encode,
    Frame.length_nonce, sha256Hex_accepted, Frame.plaintextLength, beq_self_eq_true,
    and_true]
  omega

/-- Frames under one prefix have distinct nonces. -/
theorem nodup_nonces {sha256 : Sha256} {noncePrefix : Bytes} {frames : List Frame}
    (h : Consecutive noncePrefix 0 frames) :
    ((frames.map (Frame.entry sha256)).map ManifestChunk.nonce).Nodup := by
  have hindices : (frames.map Frame.chunkIndex).Nodup := by
    rw [h.indices]
    exact List.nodup_range'
  rw [List.map_map]
  refine List.Nodup.of_map (fun nonce => (decodeBase64Url nonce).toOption.map
    fun bytes => beValue (bytes.drop noncePrefix.length)) ?_
  rw [List.map_map]
  have hvalues : frames.map ((fun nonce => (decodeBase64Url nonce).toOption.map
      fun bytes => beValue (bytes.drop noncePrefix.length)) ∘
        (ManifestChunk.nonce ∘ Frame.entry sha256)) =
      (frames.map Frame.chunkIndex).map some := by
    rw [List.map_map]
    apply List.map_congr_left
    intro frame hframe
    simp [Frame.entry, Frame.nonce, h.prefixes frame hframe, Except.toOption,
      beValue_uint32be frame.index_le]
  rw [hvalues]
  exact hindices.map (Option.some_injective _)

/-- A manifest over the entries of consecutive frames and the parts that the
packer has cut from their records is laid out. -/
theorem layout_of_packs {sha256 : Sha256} {frames : List Frame}
    {parts : List PackedMultipartPart} {manifest : RecordingManifest} {noncePrefix : Bytes}
    (hpacks : Packs sha256 (frames.map Frame.encode) parts)
    (hframes : Consecutive noncePrefix 0 frames)
    (hpre : manifest.noncePrefixBase64url = encodeBase64Url noncePrefix)
    (hlength : noncePrefix.length = noncePrefixBytes)
    (hchunks : manifest.chunks = frames.map (Frame.entry sha256))
    (hparts : manifest.parts = parts.map stripPartBytes)
    (hplaintext : manifest.totalPlaintextBytes = (frames.map Frame.plaintextLength).sum)
    (hobject : manifest.totalObjectBytes = (frames.map Frame.encode).flatten.length) :
    Layout manifest noncePrefix := by
  have hlengths : recordLengths manifest.chunks = lengths (frames.map Frame.encode) := by
    rw [hchunks, recordLengths_entries]
  have hcount : manifest.parts.length = parts.length := by
    rw [hparts, List.length_map]
  have hpart : ∀ k (hk : k < manifest.parts.length) (hk' : k < parts.length),
      manifest.parts[k] = parts[k].toManifestPart := by
    intro k hk hk'
    simp [hparts, stripPartBytes]
  have hfull : ∀ k (hk : k + 1 < manifest.parts.length),
      manifest.parts[k].byteLength = multipartTargetBytes := by
    intro k hk
    rw [hpart k (by omega) (by omega), (hpacks.parts k (by omega)).length_eq]
    have hlt := hpacks.lt_total (k + 1) (by omega)
    rw [Nat.mul_succ] at hlt
    omega
  have hoffset : ∀ k < manifest.parts.length,
      offset (partLengths manifest.parts) k = multipartTargetBytes * k := by
    intro k hk
    induction k with
    | zero => simp
    | succ k ih =>
        rw [offset_partLengths_succ (by omega), ih (by omega), hfull k hk, Nat.mul_succ]
  refine ⟨?_, ?_, ?_, ?_, ?_, ?_, ?_⟩
  · rw [hpre, decodeBase64Url_encodeBase64Url]
  · intro i hi
    have hi' : i < frames.length := by simpa [hchunks] using hi
    have hindex := hframes.chunkIndex_getElem hi'
    have hmem := hframes.prefixes _ (List.getElem_mem hi')
    rw [Nat.zero_add] at hindex
    have hle := frames[i].index_le
    rw [hindex] at hle
    simp only [hchunks, List.getElem_map]
    exact ⟨hlength, hle, hindex, frames[i].length_sealed, by
      rw [Frame.entry, Frame.nonce, hindex, hmem]⟩
  · rw [hchunks]
    exact nodup_nonces hframes
  · rw [hplaintext, hchunks, List.map_map]
    rfl
  · rw [hobject, hlengths, sum_lengths]
  · intro k hk
    have hk' : k < parts.length := by omega
    have hpacked := hpacks.parts k hk'
    rw [hoffset k hk, hpart k hk hk']
    refine ⟨hpacked.number_eq, ?_, ?_⟩
    · rw [hlengths, hpacked.length_eq]
      exact hpacked.window
    · intro hnext
      rw [← hpart k hk hk']
      exact hfull k hnext
  · rw [hobject, ← hpacks.sum_byteLength, hparts, partLengths, List.map_map]
    rfl

/-- The limits of the packer give the parts the shape that the schema asks for. -/
theorem parts_accepted {sha256 : Sha256} {records : List Bytes}
    {parts : List PackedMultipartPart} (h : Packs sha256 records parts) :
    (1 ≤ parts.length ∧ parts.length ≤ maxMultipartParts) ∧
      ∀ part ∈ parts.map stripPartBytes, ManifestPartSchema.accepts part = true := by
  have hpos : 0 < records.flatten.length := by
    obtain ⟨record, hrecord⟩ := List.exists_mem_of_ne_nil _ h.ne_nil
    have hle := List.single_le_sum (fun _ _ => Nat.zero_le _) _
      (List.mem_map_of_mem (f := List.length) hrecord)
    have hne := List.length_pos_of_ne_nil (h.records_ne record hrecord)
    rw [List.length_flatten]
    omega
  have hobject := h.object_le
  have htotal := h.total_le
  have hcount : ∀ k < parts.length, k < 16 := by
    intro k hk
    have hlt := h.lt_total k hk
    simp only [multipartTargetBytes, maxRecordingObjectBytes] at hlt hobject
    omega
  have hne : parts.length ≠ 0 := by
    intro h0
    rw [h0] at htotal
    omega
  have hlast := hcount (parts.length - 1) (by omega)
  refine ⟨⟨by omega, by simp only [maxMultipartParts]; omega⟩, ?_⟩
  intro part hpart
  obtain ⟨packed, hpacked, rfl⟩ := List.mem_map.mp hpart
  obtain ⟨k, hk, rfl⟩ := List.getElem_of_mem hpacked
  have hpart := h.parts k hk
  have hk' := hcount k hk
  have hlt := h.lt_total k hk
  have hfirst := hpart.window.first_lt_length
  have hlastIndex := hpart.window.last_lt_length
  have hrecords := h.count
  have huint : maxRecordingChunks ≤ maxUint32 := by decide
  have htarget : 0 < multipartTargetBytes := by decide
  have hmax : multipartTargetBytes ≤ maxRecordingObjectBytes := by decide
  have hparts : (16 : ℕ) ≤ maxMultipartParts := by decide
  rw [length_lengths] at hfirst hlastIndex
  simp only [ManifestPartSchema.accepts, Bool.and_eq_true, decide_eq_true_eq]
  simp only [stripPartBytes, hpart.sha256_eq, sha256Hex_accepted, hpart.number_eq,
    hpart.length_eq, and_true]
  omega

/-! ## The pipeline -/

/-- The frames that the pipeline has sealed and the parts that it has emitted. -/
structure Recorded (setup : RecordingSetup) (frames : List Frame)
    (parts : List PackedMultipartPart) (state : RecordingState) : Prop where
  packed : Packed setup.sha256 (frames.map Frame.encode) parts state.packer
  room : state.packer.pendingBytes < multipartTargetBytes
  frames_consecutive : Consecutive setup.noncePrefix 0 frames
  chunks : state.chunks = frames.map (Frame.entry setup.sha256)
  parts : state.parts = parts.map stripPartBytes
  chunkIndex : state.chunkIndex = frames.length
  plaintextBytes : state.plaintextBytes = (frames.map Frame.plaintextLength).sum
  objectBytes : state.objectBytes = (frames.map Frame.encode).flatten.length
  binding : frames ≠ [] → RecordingBindingSchema.accepts setup.binding = true

theorem Recorded.start (setup : RecordingSetup) : Recorded setup [] [] .start where
  packed := Packed.new _
  room := Nat.zero_lt_succ _
  frames_consecutive := Consecutive.nil
  chunks := rfl
  parts := rfl
  chunkIndex := rfl
  plaintextBytes := rfl
  objectBytes := rfl
  binding := fun h => absurd rfl h

/-- Uploading only adds the receipts and the parts. -/
theorem uploadReady_sound {setup : RecordingSetup} {state next : RecordingState}
    {ready : List PackedMultipartPart} (h : uploadReady setup state ready = .ok next) :
    next = { state with
      uploadedParts := next.uploadedParts
      parts := state.parts ++ ready.map stripPartBytes } := by
  induction ready generalizing state with
  | nil =>
      cases h
      simp
  | cons part ready ih =>
      rw [uploadReady, List.foldlM_cons, bind_eq_ok] at h
      obtain ⟨mid, hmid, hrest⟩ := h
      rw [bind_eq_ok] at hmid
      obtain ⟨receipt, -, hmid⟩ := hmid
      cases hmid
      have hnext := ih hrest
      simpa using hnext

theorem uploadReady_complete {setup : RecordingSetup}
    (hupload : ∀ part e, setup.uploadPart part ≠ .error e) (state : RecordingState)
    (ready : List PackedMultipartPart) : ∃ next, uploadReady setup state ready = .ok next := by
  induction ready generalizing state with
  | nil => exact ⟨state, rfl⟩
  | cons part ready ih =>
      cases hpart : setup.uploadPart part with
      | error e => exact absurd hpart (hupload part e)
      | ok receipt =>
          rw [uploadReady, List.foldlM_cons, hpart]
          exact ih _

/-- A blob adds nothing, or one frame and the parts that it completes. -/
theorem Recorded.processBlob {setup : RecordingSetup} {frames : List Frame}
    {parts : List PackedMultipartPart} {state next : RecordingState}
    (h : Recorded setup frames parts state) {plaintext : Bytes}
    (hnext : processBlob setup state plaintext = .ok next) :
    ∃ frames' parts', Recorded setup frames' parts' next ∧
      (plaintext ≠ [] → frames'.length = frames.length + 1 ∧
        next.objectBytes = state.objectBytes +
          (recordHeaderBytes + plaintext.length + aesGcmTagBytes)) := by
  rw [Web.processBlob] at hnext
  split at hnext
  · next hempty =>
    cases hnext
    exact ⟨frames, parts, h, fun hne => absurd (List.length_eq_zero_iff.mp hempty) hne⟩
  · rw [bind_eq_ok] at hnext
    obtain ⟨encrypted, hencrypted, hnext⟩ := hnext
    rw [rejectIf_bind_eq_ok, bind_eq_ok] at hnext
    obtain ⟨-, ready, hready, hnext⟩ := hnext
    obtain ⟨hbinding, frame, hrecord, hindex, hpre, hplain, hmanifest⟩ :=
      encryptRecordingChunk_sound hencrypted
    rw [hrecord] at hready hnext
    rcases h.packed.push h.room frame.encode with
      ⟨e, hpush, -⟩ | ⟨ready', packer, hpush, hpacked, hroom⟩
    · rw [hpush] at hready
      cases hready
    · rw [hpush] at hready hnext
      cases hready
      have hframes : (frames ++ [frame]).map Frame.encode =
          frames.map Frame.encode ++ [frame.encode] := by simp
      rw [uploadReady_sound hnext]
      refine ⟨frames ++ [frame], parts ++ ready,
        ⟨?_, hroom, ?_, ?_, ?_, ?_, ?_, ?_, ?_⟩, fun _ => ⟨by simp, ?_⟩⟩
      · rw [hframes]
        exact hpacked
      · rw [Consecutive.concat_iff, Nat.zero_add]
        exact ⟨h.frames_consecutive, hindex.trans h.chunkIndex, hpre⟩
      · simp [h.chunks, hmanifest]
      · simp [h.parts]
      · simp [h.chunkIndex]
      · simp [h.plaintextBytes, hplain]
      · simp [h.objectBytes, hframes]
      · exact fun _ => hbinding
      · simp only
        rw [frame.length_encode, frame.length_sealed, hplain, Nat.add_assoc]

theorem Recorded.run {setup : RecordingSetup} {blobs : List Bytes} {state : RecordingState}
    (h : blobs.foldlM (Web.processBlob setup) RecordingState.start = .ok state) :
    ∃ frames parts, Recorded setup frames parts state := by
  refine foldlM_keeps (P := fun s => ∃ frames parts, Recorded setup frames parts s) ?_
    ⟨[], [], Recorded.start setup⟩ h
  rintro s plaintext t ⟨frames, parts, hs⟩ ht
  obtain ⟨frames', parts', ht, -⟩ := hs.processBlob ht
  exact ⟨frames', parts', ht⟩

/-- The finalized intervals are accepted, and so is the duration they are bound
to. -/
theorem finalize_accepted {drafts : List ProofQuestionIntervalDraft}
    {questionIds : List JsString} {recordedDurationMs : ℕ}
    {intervals : List ProofQuestionInterval}
    (h : finalizeProofQuestionIntervalsV1 drafts questionIds recordedDurationMs =
      .ok intervals) :
    ProofQuestionIntervalsV1Schema.accepts intervals = true ∧
      recordedDurationMs ≤ maxRecordingDurationMs := by
  obtain ⟨hintervals, haccepts⟩ := validateProofQuestionIntervalsV1_ok h
  obtain ⟨interval, hmem, hle⟩ :=
    ProofQuestionIntervalsV1Schema.recordedDurationMs_le haccepts
  rw [hintervals] at hmem
  obtain ⟨draft, -, rfl⟩ := List.mem_map.mp hmem
  exact ⟨haccepts, hle⟩

theorem foldl_byteLength (parts : List ManifestPart) (total : ℕ) :
    parts.foldl (fun total part => total + part.byteLength) total =
      total + (partLengths parts).sum := by
  induction parts generalizing total with
  | nil => simp [partLengths]
  | cons part parts ih =>
      rw [List.foldl_cons, ih, partLengths, partLengths, List.map_cons, List.sum_cons,
        Nat.add_assoc]

/-- Every record holds at least one byte of plaintext and adds 48 bytes to it. -/
theorem sum_plaintextLength_le (frames : List Frame) :
    (frames.map Frame.plaintextLength).sum ≤ (frames.map Frame.encode).flatten.length ∧
      (frames ≠ [] → 1 ≤ (frames.map Frame.plaintextLength).sum) := by
  induction frames with
  | nil => simp
  | cons frame frames ih =>
      have hlength := frame.length_encode
      have hsealed := frame.length_sealed
      have htag := frame.tag_lt
      simp only [List.map_cons, List.sum_cons, List.flatten_cons, List.length_append]
      omega

/-- Whatever the recorder has delivered, an assembled manifest is accepted. -/
theorem assembled_accepted {setup : RecordingSetup}
    (hwrapping : ManifestWrappingSchema.accepts setup.wrapping = true) {blobs : List Bytes}
    {drafts : List ProofQuestionIntervalDraft} {questionIds : List JsString}
    {recordedDurationMs : ℕ} {manifest : RecordingManifest}
    (h : recordEncryptAndUpload setup blobs drafts questionIds recordedDurationMs =
      .ok manifest) : accepts manifest = true := by
  rw [recordEncryptAndUpload, bind_eq_ok] at h
  obtain ⟨state, hstate, h⟩ := h
  rw [rejectIf_bind_eq_ok, bind_eq_ok] at h
  obtain ⟨-, intervals, hintervals, h⟩ := h
  rw [bind_eq_ok] at h
  obtain ⟨last, hlast, h⟩ := h
  rw [bind_eq_ok] at h
  obtain ⟨final, hfinal, h⟩ := h
  cases h
  obtain ⟨frames, parts, hrecorded⟩ := Recorded.run hstate
  obtain ⟨haccepts, hduration⟩ := finalize_accepted hintervals
  have hne : frames.map Frame.encode ≠ [] := by
    intro hnil
    obtain ⟨e, next, hfinish, -⟩ := finish_of_nil (hnil ▸ hrecorded.packed)
    rw [hfinish] at hlast
    cases hlast
  obtain ⟨last', next, hfinish, -, hpacks⟩ := hrecorded.packed.finish hrecorded.room hne
  rw [hfinish] at hlast
  cases hlast
  have hframes : frames ≠ [] := fun hnil => hne (by rw [hnil, List.map_nil])
  have huploaded := uploadReady_sound hfinal
  have hchunks : final.chunks = frames.map (Frame.entry setup.sha256) := by
    rw [huploaded]
    exact hrecorded.chunks
  have hparts : final.parts = (parts ++ last).map stripPartBytes := by
    rw [huploaded, List.map_append, ← hrecorded.parts]
  have hplaintext : final.plaintextBytes = (frames.map Frame.plaintextLength).sum := by
    rw [huploaded]
    exact hrecorded.plaintextBytes
  have hobject : final.parts.foldl (fun total part => total + part.byteLength) 0 =
      (frames.map Frame.encode).flatten.length := by
    rw [foldl_byteLength, Nat.zero_add, hparts, ← hpacks.sum_byteLength, partLengths,
      List.map_map]
    rfl
  have hlength : setup.noncePrefix.length = noncePrefixBytes := by
    obtain ⟨frame, hframe⟩ := List.exists_mem_of_ne_nil _ hframes
    rw [← hrecorded.frames_consecutive.prefixes frame hframe]
    exact frame.prefix_length
  obtain ⟨hplainLe, hplainPos⟩ := sum_plaintextLength_le frames
  have hpos := hplainPos hframes
  have hobjectLe := hpacks.object_le
  have hcount := hpacks.count
  obtain ⟨hpartCount, hpartsAccepted⟩ := parts_accepted hpacks
  have hframeCount := List.length_pos_of_ne_nil hframes
  rw [List.length_map] at hcount
  rw [accepts_iff]
  refine ⟨?_, setup.noncePrefix, layout_of_packs hpacks hrecorded.frames_consecutive rfl
    hlength hchunks hparts hplaintext hobject⟩
  simp only [shape, Bool.and_eq_true, decide_eq_true_eq, List.all_eq_true]
  rw [hparts] at hobject
  simp only [hplaintext, hchunks, hparts, hobject, List.length_map, hasDecodedLength_encode,
    Base64UrlSchema.accepts_encode, hrecorded.binding hframes, hwrapping, hlength,
    Option.all_some, haccepts, beq_self_eq_true, true_and, and_true]
  refine ⟨⟨⟨⟨⟨⟨⟨⟨⟨⟨hduration, hpos⟩, by omega⟩, by omega⟩, hobjectLe⟩, hframeCount⟩, hcount⟩,
    ?_⟩, hpartCount.1⟩, hpartCount.2⟩, hpartsAccepted⟩
  intro chunk hchunk
  obtain ⟨frame, -, rfl⟩ := List.mem_map.mp hchunk
  exact Frame.entry_accepted setup.sha256 frame

/-- What a recording within the limits of the protocol provides: a platform that
encrypts, uploads that succeed, and blobs whose records fit into the object. -/
structure WithinLimits (setup : RecordingSetup) (blobs : List Bytes) : Prop where
  encrypts : ∀ iv aad plaintext, setup.encryptionKey.encrypt iv aad plaintext ≠ none
  uploads : ∀ part e, setup.uploadPart part ≠ .error e
  prefix_length : setup.noncePrefix.length = noncePrefixBytes
  binding : RecordingBindingSchema.accepts setup.binding = true
  ne_nil : blobs ≠ []
  blob_ne : ∀ blob ∈ blobs, blob ≠ []
  blob_le : ∀ blob ∈ blobs, blob.length ≤ maxPlaintextChunkBytes
  count : blobs.length ≤ maxRecordingChunks
  object_le : (blobs.map fun blob =>
    recordHeaderBytes + blob.length + aesGcmTagBytes).sum ≤ maxRecordingObjectBytes
  upload_le : (blobs.map fun blob =>
    recordHeaderBytes + blob.length + aesGcmTagBytes).sum ≤ setup.maximumUploadBytes

/-- A blob within the limits is processed. -/
theorem Recorded.processBlob_complete {setup : RecordingSetup} {frames : List Frame}
    {parts : List PackedMultipartPart} {state : RecordingState}
    (h : Recorded setup frames parts state)
    (hencrypts : ∀ iv aad plaintext, setup.encryptionKey.encrypt iv aad plaintext ≠ none)
    (huploads : ∀ part e, setup.uploadPart part ≠ .error e)
    (hpre : setup.noncePrefix.length = noncePrefixBytes)
    (hbinding : RecordingBindingSchema.accepts setup.binding = true) {blob : Bytes}
    (hne : blob ≠ []) (hle : blob.length ≤ maxPlaintextChunkBytes)
    (hcount : frames.length < maxRecordingChunks)
    (hobject : state.objectBytes + (recordHeaderBytes + blob.length + aesGcmTagBytes) ≤
      maxRecordingObjectBytes)
    (hupload : state.objectBytes + (recordHeaderBytes + blob.length + aesGcmTagBytes) ≤
      setup.maximumUploadBytes) : ∃ next, Web.processBlob setup state blob = .ok next := by
  have huint : maxRecordingChunks ≤ maxUint32 := by decide
  have hindex : state.chunkIndex ≤ maxUint32 := by
    rw [h.chunkIndex]
    omega
  obtain ⟨encrypted, hencrypted⟩ := encryptRecordingChunk_complete setup.sha256
    hencrypts hne hle hindex hpre hbinding
  obtain ⟨-, frame, hrecord, hframeIndex, -, hplain, -⟩ := encryptRecordingChunk_sound hencrypted
  have hlength : frame.encode.length = recordHeaderBytes + blob.length + aesGcmTagBytes := by
    rw [frame.length_encode, frame.length_sealed, hplain, Nat.add_assoc]
  have hcheck : state.packer.checkPush frame.encode = .ok frame.record := by
    apply h.packed.checkPush_frame h.room
    · rwa [List.length_map]
    · rw [hframeIndex, h.chunkIndex, List.length_map]
    · rwa [← h.objectBytes, hlength]
  obtain ⟨ready, packer, hready, -⟩ := (h.packed.append hcheck).flushReady
  have hpush : state.packer.push setup.sha256 encrypted.record = (.ok ready, packer) := by
    rw [hrecord, MultipartRecordPacker.push, hcheck]
    exact hready
  have hnonempty : ¬ blob.length = 0 := by
    have hpos := List.length_pos_of_ne_nil hne
    omega
  have hroom : ¬ setup.maximumUploadBytes < state.objectBytes + encrypted.record.length := by
    rw [hrecord, hlength]
    omega
  rw [Web.processBlob, if_neg hnonempty, hencrypted, except_ok_bind]
  simp only [rejectIf_of_not hroom, except_ok_bind, hpush]
  exact uploadReady_complete huploads _ _

theorem Recorded.foldlM_complete {setup : RecordingSetup} {limits : List Bytes}
    (hlimits : WithinLimits setup limits) {blobs : List Bytes} (hsub : blobs ⊆ limits)
    {frames : List Frame} {parts : List PackedMultipartPart} {state : RecordingState}
    (h : Recorded setup frames parts state)
    (hcount : frames.length + blobs.length ≤ maxRecordingChunks)
    (hobject : state.objectBytes + (blobs.map fun blob =>
      recordHeaderBytes + blob.length + aesGcmTagBytes).sum ≤ maxRecordingObjectBytes)
    (hupload : state.objectBytes + (blobs.map fun blob =>
      recordHeaderBytes + blob.length + aesGcmTagBytes).sum ≤ setup.maximumUploadBytes) :
    ∃ final frames' parts', blobs.foldlM (Web.processBlob setup) state = .ok final ∧
      Recorded setup frames' parts' final ∧ frames'.length = frames.length + blobs.length := by
  induction blobs generalizing frames parts state with
  | nil => exact ⟨state, frames, parts, rfl, h, rfl⟩
  | cons blob blobs ih =>
      have hmem : blob ∈ limits := hsub List.mem_cons_self
      rw [List.map_cons, List.sum_cons] at hobject hupload
      rw [List.length_cons] at hcount
      obtain ⟨next, hnext⟩ := h.processBlob_complete hlimits.encrypts hlimits.uploads
        hlimits.prefix_length hlimits.binding (hlimits.blob_ne blob hmem)
        (hlimits.blob_le blob hmem) (by omega) (by omega) (by omega)
      obtain ⟨frames', parts', hrecorded, hgrow⟩ := h.processBlob hnext
      obtain ⟨hlength, hbytes⟩ := hgrow (hlimits.blob_ne blob hmem)
      obtain ⟨final, frames'', parts'', hfinal, hrecorded', hlength'⟩ :=
        ih (fun b hb => hsub (List.mem_cons_of_mem _ hb)) hrecorded (by omega) (by omega)
          (by omega)
      refine ⟨final, frames'', parts'', ?_, hrecorded', ?_⟩
      · rw [List.foldlM_cons, hnext]
        exact hfinal
      · rw [List.length_cons]
        omega

/-- The manifest that the client assembles is accepted by its schema: whenever a
recording gets as far as its manifest, and a recording within the limits does. -/
theorem client_manifest_accepted {setup : RecordingSetup} {blobs : List Bytes}
    {drafts : List ProofQuestionIntervalDraft} {questionIds : List JsString}
    {recordedDurationMs : ℕ}
    (hwrapping : ManifestWrappingSchema.accepts setup.wrapping = true) :
    (∀ manifest, recordEncryptAndUpload setup blobs drafts questionIds recordedDurationMs =
      .ok manifest → accepts manifest = true) ∧
    (WithinLimits setup blobs → drafts.length = questionIds.length →
      (∃ intervals, finalizeProofQuestionIntervalsV1 drafts questionIds
        recordedDurationMs = .ok intervals) →
      ∃ manifest, recordEncryptAndUpload setup blobs drafts questionIds
        recordedDurationMs = .ok manifest ∧ accepts manifest = true) := by
  have haccepted : ∀ manifest, recordEncryptAndUpload setup blobs drafts questionIds
      recordedDurationMs = .ok manifest → accepts manifest = true :=
    fun manifest h => assembled_accepted hwrapping h
  refine ⟨haccepted, ?_⟩
  rintro hlimits hdrafts ⟨intervals, hintervals⟩
  obtain ⟨state, frames, parts, hstate, hrecorded, hlength⟩ :=
    Recorded.foldlM_complete hlimits (List.Subset.refl blobs) (Recorded.start setup)
      (by simpa using hlimits.count) (by simpa [RecordingState.start] using hlimits.object_le)
      (by simpa [RecordingState.start] using hlimits.upload_le)
  have hne : frames.map Frame.encode ≠ [] := by
    have hpos := List.length_pos_of_ne_nil hlimits.ne_nil
    apply List.ne_nil_of_length_pos
    rw [List.length_map, hlength]
    omega
  obtain ⟨last, packer, hfinish, -, -⟩ := hrecorded.packed.finish hrecorded.room hne
  obtain ⟨final, hfinal⟩ := uploadReady_complete hlimits.uploads state last
  have hrun : ∃ manifest, recordEncryptAndUpload setup blobs drafts questionIds
      recordedDurationMs = .ok manifest := by
    rw [recordEncryptAndUpload, hstate, except_ok_bind,
      rejectIf_of_not (not_not.mpr hdrafts), except_ok_bind, hintervals, except_ok_bind,
      hfinish, except_ok_bind, hfinal]
    exact ⟨_, rfl⟩
  obtain ⟨manifest, hmanifest⟩ := hrun
  exact ⟨manifest, hmanifest, haccepted manifest hmanifest⟩

/-- The recording of one byte with the sample key, and uploads that succeed. -/
def sampleSetup : RecordingSetup where
  sha256 := sampleSha256
  encryptionKey := sampleAesGcm
  noncePrefix := samplePrefix
  binding := sampleBinding
  wrapping := (sampleManifest []).wrapping
  maximumUploadBytes := maxRecordingObjectBytes
  uploadPart part := .ok ⟨part.partNumber, js "etag"⟩

def sampleQuestionId : JsString := js "44444444-4444-4444-8444-444444444444"

def sampleDraft : ProofQuestionIntervalDraft :=
  ⟨js "1", proofQuestionIntervalVersion, sampleQuestionId, 0, 0, 5000,
    proofQuestionIntervalSource⟩

theorem client_manifest_accepted_sample :
    ∃ manifest, recordEncryptAndUpload sampleSetup [samplePlaintext] [sampleDraft]
      [sampleQuestionId] 5000 = .ok manifest ∧ accepts manifest = true := by
  refine (client_manifest_accepted (by decide)).2 ?_ rfl ?_
  · refine ⟨?_, ?_, rfl, by decide, by simp, by decide, by decide, by decide,
      by decide, by decide⟩
    · intro iv aad plaintext
      simp only [sampleSetup, sampleAesGcm]
      split <;> simp
    · intro part e
      simp [sampleSetup]
  · exact ⟨[⟨js "1", proofQuestionIntervalVersion, sampleQuestionId, 0, 0, 5000, 5000,
      proofQuestionIntervalSource⟩], by decide⟩

end Web

end UnderstandProof
