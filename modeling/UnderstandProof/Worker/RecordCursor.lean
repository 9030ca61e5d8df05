import UnderstandProof.Worker.RecordingReader

/-!
# The cursor over the records

The framing loop consumes one frame a turn: the frame stands at the index of the
cursor, agrees with its manifest entry and opens. More pending bytes change none of
its decisions, so the loop may be run once over the whole object.
-/

open Foundation

namespace UnderstandProof

namespace Worker

open Media

theorem getUint_append {bytes more : Bytes} {count offset : ℕ}
    (h : offset + count ≤ bytes.length) :
    getUint count (bytes ++ more) offset = getUint count bytes offset := by
  rw [getUint, getUint, List.drop_append_of_le_length (by omega),
    List.take_append_of_le_length (by rw [List.length_drop]; omega)]

theorem getUint_encode_append (frame : Frame) (tail : Bytes) :
    getUint 4 (frame.encode ++ tail) 28 = frame.sealed.length := by
  obtain ⟨-, -, -, -, hsealed⟩ := frame.headerChecked
  rw [Frame.encode, List.append_assoc, getUint_append (by rw [frame.length_header]), hsealed]

section Records

variable (sha256 : Sha256) (encryptionKey : AesGcm) (noncePrefix : Bytes)
  (manifest : RecordingManifest)

/-- The frame stands at `recordIndex`, agrees with the manifest and opens. -/
structure Reads (recordIndex : ℕ) (frame : Frame) (plaintext : Bytes) : Prop where
  index_eq : frame.chunkIndex = recordIndex
  noncePrefix_eq : frame.noncePrefix = noncePrefix
  agrees : ∃ expected, manifest.chunks[recordIndex]? = some expected ∧
    Agrees sha256 frame.record expected
  opens : openRecord encryptionKey manifest.toRecordingBinding frame.record = some plaintext

/-- The frames stand one after the other from `recordIndex` on. -/
inductive ReadsFrom : ℕ → List Frame → List Bytes → Prop
  | nil {recordIndex : ℕ} : ReadsFrom recordIndex [] []
  | cons {recordIndex : ℕ} {frame : Frame} {plaintext : Bytes} {frames : List Frame}
      {plaintexts : List Bytes} :
      Reads sha256 encryptionKey noncePrefix manifest recordIndex frame plaintext →
      ReadsFrom (recordIndex + 1) frames plaintexts →
      ReadsFrom recordIndex (frame :: frames) (plaintext :: plaintexts)

end Records

variable {sha256 : Sha256} {encryptionKey : AesGcm} {noncePrefix : Bytes}
  {manifest : RecordingManifest}

theorem readRecord_eq_ok
    (hbinding : RecordingBindingSchema.accepts manifest.toRecordingBinding = true)
    {recordIndex : ℕ} {recordBytes plaintext : Bytes} :
    readRecord sha256 encryptionKey noncePrefix manifest recordIndex recordBytes =
        .ok plaintext ↔
      ∃ frame : Frame, recordBytes = frame.encode ∧
        Reads sha256 encryptionKey noncePrefix manifest recordIndex frame plaintext := by
  rw [readRecord, bind_eq_ok]
  constructor
  · rintro ⟨record, hrecord, h⟩
    obtain ⟨frame, rfl, rfl⟩ := parseChunkRecord_eq_ok.mp (orThrow_eq_ok.mp hrecord)
    refine ⟨frame, rfl, ?_⟩
    split at h
    · cases h
    · next expected hexpected =>
      rw [rejectIf_bind_eq_ok, decryptRecordingChunk_eq_ok] at h
      obtain ⟨hagrees, -, hindex, hpre, hopens⟩ := h
      simp only [not_or, not_not] at hagrees
      obtain ⟨h₁, h₂, h₃, h₄⟩ := hagrees
      exact ⟨hindex, hpre, ⟨expected, hexpected, h₁, h₂, h₃, h₄⟩, hopens⟩
  · rintro ⟨frame, rfl, hreads⟩
    obtain ⟨expected, hexpected, hagrees⟩ := hreads.agrees
    refine ⟨frame.record, orThrow_eq_ok.mpr (parseChunkRecord_eq_ok.mpr ⟨frame, rfl, rfl⟩), ?_⟩
    simp only [hexpected]
    rw [rejectIf_bind_eq_ok, decryptRecordingChunk_eq_ok]
    refine ⟨?_, hbinding, hreads.index_eq, hreads.noncePrefix_eq, hreads.opens⟩
    simp only [not_or, not_not]
    exact ⟨hagrees.index, hagrees.plaintextBytes, hagrees.sealedBytes, hagrees.ciphertextSha256⟩

/-- A turn of the framing loop consumes exactly a frame that reads. -/
theorem recordStep_eq_consume
    (hbinding : RecordingBindingSchema.accepts manifest.toRecordingBinding = true)
    {cursor next : RecordCursor} {pending : Bytes} {count : ℕ} :
    recordStep sha256 encryptionKey noncePrefix manifest cursor pending =
        .consume count next ↔
      ∃ frame tail plaintext, pending = frame.encode ++ tail ∧ count = frame.encode.length ∧
        Reads sha256 encryptionKey noncePrefix manifest cursor.recordIndex frame plaintext ∧
        next = ⟨cursor.recordIndex + 1, cursor.delivered ++ [plaintext]⟩ := by
  constructor
  · intro h
    simp only [recordStep] at h
    split_ifs at h with hheader hsealed hbody
    split at h
    · cases h
    · next plaintext hread =>
      cases h
      obtain ⟨frame, hframe, hreads⟩ := (readRecord_eq_ok hbinding).mp hread
      refine ⟨frame, pending.drop (recordHeaderBytes + getUint 4 pending 28), plaintext, ?_, ?_,
        hreads, rfl⟩
      · rw [← hframe, List.take_append_drop]
      · rw [← hframe, List.length_take]
        omega
  · rintro ⟨frame, tail, plaintext, rfl, rfl, hreads, rfl⟩
    have hlength := frame.length_encode
    have htag := frame.tag_lt
    have hle := frame.sealed_le
    have hheader : ¬ (frame.encode ++ tail).length < recordHeaderBytes := by
      rw [List.length_append]
      omega
    have hsealed : ¬ (frame.sealed.length < 17 ∨
        maxPlaintextChunkBytes + 16 < frame.sealed.length) := by
      simp only [aesGcmTagBytes] at htag hle
      omega
    have hbody : ¬ (frame.encode ++ tail).length < recordHeaderBytes + frame.sealed.length := by
      rw [List.length_append]
      omega
    have hread : readRecord sha256 encryptionKey noncePrefix manifest cursor.recordIndex
        frame.encode = .ok plaintext := (readRecord_eq_ok hbinding).mpr ⟨frame, rfl, hreads⟩
    simp only [recordStep, getUint_encode_append]
    rw [if_neg hheader, if_neg hsealed, if_neg hbody, ← hlength, List.take_left, hread]

theorem recordReader_stable :
    (recordReader sha256 encryptionKey noncePrefix manifest).Stable := by
  intro cursor pending more hdecided
  simp only [recordReader, recordStep] at hdecided ⊢
  by_cases hheader : pending.length < recordHeaderBytes
  · exact absurd (if_pos hheader) hdecided
  · have hlong : ¬ (pending ++ more).length < recordHeaderBytes := by
      rw [List.length_append]
      omega
    have huint : getUint 4 (pending ++ more) 28 = getUint 4 pending 28 := by
      apply getUint_append
      rw [recordHeaderBytes] at hheader
      omega
    rw [if_neg hheader] at hdecided ⊢
    rw [if_neg hlong, huint]
    by_cases hsealed : getUint 4 pending 28 < 17 ∨
        maxPlaintextChunkBytes + 16 < getUint 4 pending 28
    · rw [if_pos hsealed, if_pos hsealed]
    · rw [if_neg hsealed] at hdecided ⊢
      rw [if_neg hsealed]
      by_cases hbody : pending.length < recordHeaderBytes + getUint 4 pending 28
      · exact absurd (if_pos hbody) hdecided
      · have hlong' : ¬ (pending ++ more).length < recordHeaderBytes + getUint 4 pending 28 := by
          rw [List.length_append]
          omega
        rw [if_neg hbody, if_neg hlong', List.take_append_of_le_length (by omega)]

/-- On no pending bytes the loop ends. -/
theorem recordReader_nil (cursor : RecordCursor) :
    (recordReader sha256 encryptionKey noncePrefix manifest).drain cursor [] =
      ⟨cursor, [], .ok ()⟩ :=
  Consumer.drain_of_wait (by simp [recordReader, recordStep, recordHeaderBytes])

/-- Frames that read are consumed, and the loop goes on behind them. -/
theorem ReadsFrom.drain
    (hbinding : RecordingBindingSchema.accepts manifest.toRecordingBinding = true)
    {cursor : RecordCursor} {frames : List Frame} {plaintexts : List Bytes}
    (h : ReadsFrom sha256 encryptionKey noncePrefix manifest cursor.recordIndex frames
      plaintexts) (tail : Bytes) :
    (recordReader sha256 encryptionKey noncePrefix manifest).drain cursor
        (encodeFrames frames ++ tail) =
      (recordReader sha256 encryptionKey noncePrefix manifest).drain
        ⟨cursor.recordIndex + frames.length, cursor.delivered ++ plaintexts⟩ tail := by
  generalize hindex : cursor.recordIndex = recordIndex at h
  induction h generalizing cursor with
  | nil =>
      subst hindex
      simp
  | cons hreads hrest ih =>
      next i frame plaintext frames plaintexts =>
      subst hindex
      have hstep := (recordStep_eq_consume hbinding).mpr
        ⟨frame, encodeFrames frames ++ tail, plaintext, rfl, rfl, hreads, rfl⟩
      rw [encodeFrames_cons, List.append_assoc, Consumer.drain_of_consume hstep,
        List.drop_left, ih rfl]
      simp only [List.append_assoc, List.singleton_append, List.length_cons]
      rw [Nat.add_right_comm, Nat.add_assoc]

/-- What the loop has consumed is a list of frames that read. -/
theorem exists_readsFrom
    (hbinding : RecordingBindingSchema.accepts manifest.toRecordingBinding = true)
    (cursor : RecordCursor) (input : Bytes) :
    ∃ frames plaintexts, ReadsFrom sha256 encryptionKey noncePrefix manifest
        cursor.recordIndex frames plaintexts ∧
      input = encodeFrames frames ++
        ((recordReader sha256 encryptionKey noncePrefix manifest).drain cursor input).rest ∧
      ((recordReader sha256 encryptionKey noncePrefix manifest).drain cursor input).state =
        ⟨cursor.recordIndex + frames.length, cursor.delivered ++ plaintexts⟩ := by
  refine Consumer.drain_induction
    (P := fun (cursor : RecordCursor) (input : Bytes) d => ∃ frames plaintexts,
      ReadsFrom sha256 encryptionKey noncePrefix manifest cursor.recordIndex frames
        plaintexts ∧ input = encodeFrames frames ++ d.rest ∧
      d.state = ⟨cursor.recordIndex + frames.length, cursor.delivered ++ plaintexts⟩)
    ?_ ?_ ?_ cursor input
  · exact fun cursor input _ => ⟨[], [], .nil, rfl, by simp⟩
  · exact fun cursor input e _ => ⟨[], [], .nil, rfl, by simp⟩
  · rintro cursor input count next d hstep ⟨frames, plaintexts, hreads, hinput, hstate⟩
    obtain ⟨frame, tail, plaintext, rfl, rfl, hframe, rfl⟩ :=
      (recordStep_eq_consume hbinding).mp hstep
    refine ⟨frame :: frames, plaintext :: plaintexts, .cons hframe hreads, ?_, ?_⟩
    · rw [List.drop_left] at hinput
      rw [encodeFrames_cons, List.append_assoc, ← hinput]
    · rw [hstate]
      simp only [List.append_assoc, List.singleton_append, List.length_cons]
      rw [Nat.add_right_comm, Nat.add_assoc]

/-- Frames that read up to the end of the manifest are consecutive, agree with its
chunks and open. -/
theorem readsFrom_iff {recordIndex : ℕ} {frames : List Frame} {plaintexts : List Bytes}
    (hlength : recordIndex + frames.length = manifest.chunks.length) :
    ReadsFrom sha256 encryptionKey noncePrefix manifest recordIndex frames plaintexts ↔
      Consecutive noncePrefix recordIndex frames ∧
        List.Forall₂ (Agrees sha256) (frames.map Frame.record)
          (manifest.chunks.drop recordIndex) ∧
        List.Forall₂ (fun record plaintext =>
            openRecord encryptionKey manifest.toRecordingBinding record = some plaintext)
          (frames.map Frame.record) plaintexts := by
  induction frames generalizing recordIndex plaintexts with
  | nil =>
      rw [List.length_nil, Nat.add_zero] at hlength
      rw [hlength, List.drop_length]
      constructor
      · intro h
        cases h
        exact ⟨.nil, .nil, .nil⟩
      · rintro ⟨-, -, hopens⟩
        cases hopens
        exact .nil
  | cons frame frames ih =>
      rw [List.length_cons] at hlength
      have hlt : recordIndex < manifest.chunks.length := by omega
      have hnext : recordIndex + 1 + frames.length = manifest.chunks.length := by omega
      rw [Consecutive.cons_iff, List.drop_eq_getElem_cons hlt, List.map_cons]
      constructor
      · intro h
        cases h with
        | cons hreads hreadsFrom =>
            obtain ⟨hconsecutive, hagrees, hopens⟩ := (ih hnext).mp hreadsFrom
            obtain ⟨expected, hexpected, hagree⟩ := hreads.agrees
            rw [List.getElem?_eq_getElem hlt, Option.some.injEq] at hexpected
            subst hexpected
            exact ⟨⟨hreads.index_eq, hreads.noncePrefix_eq, hconsecutive⟩,
              .cons hagree hagrees, .cons hreads.opens hopens⟩
      · rintro ⟨⟨hindex, hpre, hconsecutive⟩, hagrees, hopens⟩
        cases hagrees with
        | cons hagree hagrees =>
            cases hopens with
            | cons hopen hopens =>
                exact .cons ⟨hindex, hpre, ⟨_, List.getElem?_eq_getElem hlt, hagree⟩, hopen⟩
                  ((ih hnext).mpr ⟨hconsecutive, hagrees, hopens⟩)

/-! ## The decrypted records of a byte string -/

section Opener

variable (encryptionKey) (binding : RecordingBinding)

/-- Opens the records at the front one after the other, and stops at the first bytes
that are no record or do not open. -/
def opener : Consumer (List Bytes) UInt8 Empty where
  step opened bytes :=
    match parseRecordAt bytes 0 with
    | .error _ => .wait
    | .ok record =>
        match openRecord encryptionKey binding record with
        | none => .wait
        | some plaintext => .consume record.bytes.length (opened ++ [plaintext])
  progress := by
    intro opened bytes count next h
    split at h
    · cases h
    · next record hrecord =>
      split at h
      · cases h
      · cases h
        refine ⟨parseRecordAt_length_pos hrecord, ?_⟩
        obtain ⟨frame, rest, rfl, hbytes⟩ := parseRecordAt_sound hrecord
        rw [List.drop_zero] at hbytes
        rw [hbytes, List.length_append]
        exact Nat.le_add_right _ _

/-- The plaintexts of the records that a byte string starts with, in order. -/
def decryptedRecords (bytes : Bytes) : List Bytes :=
  ((opener encryptionKey binding).drain [] bytes).state

end Opener

variable {binding : RecordingBinding}

theorem opener_step_eq_consume {opened next : List Bytes} {bytes : Bytes} {count : ℕ} :
    (opener encryptionKey binding).step opened bytes = .consume count next ↔
      ∃ (frame : Frame) (tail plaintext : Bytes), bytes = frame.encode ++ tail ∧
        count = frame.encode.length ∧
        openRecord encryptionKey binding frame.record = some plaintext ∧
        next = opened ++ [plaintext] := by
  simp only [opener]
  constructor
  · intro h
    split at h
    · cases h
    · next record hrecord =>
      obtain ⟨frame, tail, rfl, hbytes⟩ := parseRecordAt_sound hrecord
      rw [List.drop_zero] at hbytes
      split at h
      · cases h
      · next plaintext hopen =>
        cases h
        exact ⟨frame, tail, plaintext, hbytes, rfl, hopen, rfl⟩
  · rintro ⟨frame, tail, plaintext, rfl, rfl, hopen, rfl⟩
    have hrecord : parseRecordAt (frame.encode ++ tail) 0 = .ok frame.record :=
      parseRecordAt_complete (List.drop_zero)
    simp only [hrecord, hopen]
    rfl

theorem opener_stable : (opener encryptionKey binding).Stable := by
  intro opened bytes more hdecided
  cases hstep : (opener encryptionKey binding).step opened bytes with
  | wait => exact absurd hstep hdecided
  | fail e => exact e.elim
  | consume count next =>
      obtain ⟨frame, tail, plaintext, rfl, rfl, hopen, rfl⟩ := opener_step_eq_consume.mp hstep
      rw [List.append_assoc]
      exact opener_step_eq_consume.mpr ⟨frame, _, plaintext, rfl, rfl, hopen, rfl⟩

theorem opener_grows (opened : List Bytes) (bytes : Bytes) :
    opened <+: ((opener encryptionKey binding).drain opened bytes).state := by
  refine Consumer.drain_relates (R := fun s t => s <+: t) List.prefix_refl
    (fun _ _ _ => List.IsPrefix.trans) ?_ opened bytes
  intro opened bytes count next hstep
  obtain ⟨-, -, plaintext, -, -, -, rfl⟩ := opener_step_eq_consume.mp hstep
  exact List.prefix_append _ _

/-- The opener passes through every state of the framing loop. -/
theorem opener_simulates
    (hbinding : RecordingBindingSchema.accepts manifest.toRecordingBinding = true)
    (input : Bytes) :
    (opener encryptionKey manifest.toRecordingBinding).drain [] input =
      (opener encryptionKey manifest.toRecordingBinding).drain
        ((recordReader sha256 encryptionKey noncePrefix manifest).drain ⟨0, []⟩
          input).state.delivered
        ((recordReader sha256 encryptionKey noncePrefix manifest).drain ⟨0, []⟩ input).rest := by
  have hstep : ∀ (cursor : RecordCursor) (opened : List Bytes) (bytes : Bytes) (count : ℕ)
      (next : RecordCursor), cursor.delivered = opened →
      (recordReader sha256 encryptionKey noncePrefix manifest).step cursor bytes =
        .consume count next →
      ∃ next', (opener encryptionKey manifest.toRecordingBinding).step opened bytes =
        .consume count next' ∧ next.delivered = next' := by
    rintro cursor _ bytes count next rfl hstep
    obtain ⟨frame, tail, plaintext, rfl, rfl, hreads, rfl⟩ :=
      (recordStep_eq_consume hbinding).mp hstep
    exact ⟨_, opener_step_eq_consume.mpr
      ⟨frame, tail, plaintext, rfl, rfl, hreads.opens, rfl⟩, rfl⟩
  obtain ⟨opened, hopened, hdrain⟩ := Consumer.drain_simulates hstep ⟨0, []⟩ input [] rfl
  rw [hopened]
  exact hdrain

/-- What the loop has delivered is a prefix of the decrypted records, whatever
follows. -/
theorem delivered_isPrefix
    (hbinding : RecordingBindingSchema.accepts manifest.toRecordingBinding = true)
    (input more : Bytes) :
    ((recordReader sha256 encryptionKey noncePrefix manifest).drain ⟨0, []⟩
        input).state.delivered <+:
      decryptedRecords encryptionKey manifest.toRecordingBinding (input ++ more) := by
  rw [decryptedRecords, Consumer.drain_append opener_stable]
  have hsimulates : (opener encryptionKey manifest.toRecordingBinding).drain [] input =
      (opener encryptionKey manifest.toRecordingBinding).drain
        ((recordReader sha256 encryptionKey noncePrefix manifest).drain ⟨0, []⟩
          input).state.delivered
        ((recordReader sha256 encryptionKey noncePrefix manifest).drain ⟨0, []⟩ input).rest :=
    opener_simulates hbinding input
  rw [hsimulates]
  split
  · exact (opener_grows _ _).trans (opener_grows _ _)
  · next e _ => exact e.elim

end Worker

end UnderstandProof
