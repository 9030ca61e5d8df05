import UnderstandProof.Media.MultipartParts

/-!
# Runs of the packer

From any sequence of calls the packer is either open, with its queue behind the
emitted parts, or finished. Pushing the records of a list one after the other and
finishing emits the consecutive windows of 8 MiB over their concatenation.
-/

open Foundation Foundation.Tiling Foundation.BlockQueue

namespace UnderstandProof

namespace Media

/-! ## Any sequence of calls -/

inductive PackerCall where
  | push (recordBytes : Bytes)
  | finish

namespace MultipartRecordPacker

def call (sha256 : Sha256) (packer : MultipartRecordPacker) :
    PackerCall → Except Thrown (List PackedMultipartPart) × MultipartRecordPacker
  | .push recordBytes => packer.push sha256 recordBytes
  | .finish => packer.finish sha256

/-- The packer after a sequence of calls, refused ones included. -/
def after (sha256 : Sha256) (calls : List PackerCall) : MultipartRecordPacker :=
  calls.foldl (fun packer c => (packer.call sha256 c).2) new

end MultipartRecordPacker

/-- Less than one part is waiting in the queue of an open packer. -/
def Open (sha256 : Sha256) (packer : MultipartRecordPacker) : Prop :=
  ∃ records parts, Packed sha256 records parts packer ∧
    packer.pendingBytes < multipartTargetBytes

/-- A push is refused and leaves the packer as it is, or it is accepted. -/
theorem Packed.push {sha256 : Sha256} {records : List Bytes}
    {parts : List PackedMultipartPart} {packer : MultipartRecordPacker}
    (h : Packed sha256 records parts packer)
    (hlt : packer.pendingBytes < multipartTargetBytes) (recordBytes : Bytes) :
    (∃ e, packer.push sha256 recordBytes = (.error e, packer) ∧ e ∉ internalErrors) ∨
    ∃ ready next, packer.push sha256 recordBytes = (.ok ready, next) ∧
      Packed sha256 (records ++ [recordBytes]) (parts ++ ready) next ∧
      next.pendingBytes < multipartTargetBytes := by
  cases hcheck : packer.checkPush recordBytes with
  | error e =>
      left
      refine ⟨e, ?_, checkPush_error hlt hcheck⟩
      rw [MultipartRecordPacker.push, hcheck]
  | ok record =>
      right
      obtain ⟨ready, next, hready, hpacked, hlt'⟩ := (h.append hcheck).flushReady
      refine ⟨ready, next, ?_, hpacked, hlt'⟩
      rw [MultipartRecordPacker.push, hcheck]
      exact hready

/-- `finish` refuses a packer without records; it is finished all the same. -/
theorem finish_of_nil {sha256 : Sha256} {parts : List PackedMultipartPart}
    {packer : MultipartRecordPacker} (h : Packed sha256 [] parts packer) :
    ∃ e next, packer.finish sha256 = (.error e, next) ∧ next.finished = true ∧
      e ∉ internalErrors := by
  refine ⟨.protocol ⟨.limitExceeded, "Record sequence must not be empty"⟩,
    { packer with finished := true }, ?_, rfl, by decide⟩
  simp [MultipartRecordPacker.finish, h.finished, h.chunkCount]

/-- One call keeps the packer open or leaves it finished, and it does not throw
an internal error. -/
theorem call_keeps {sha256 : Sha256} {packer : MultipartRecordPacker}
    (h : Open sha256 packer ∨ packer.finished = true) (c : PackerCall) :
    (Open sha256 (packer.call sha256 c).2 ∨ (packer.call sha256 c).2.finished = true) ∧
      ∀ e, (packer.call sha256 c).1 = .error e → e ∉ internalErrors := by
  rcases h with ⟨records, parts, hpacked, hlt⟩ | hfinished
  · cases c with
    | push recordBytes =>
        rw [MultipartRecordPacker.call]
        rcases hpacked.push hlt recordBytes with ⟨e, hpush, he⟩ | ⟨ready, next, hpush, hnext, hlt'⟩
        · rw [hpush]
          refine ⟨.inl ⟨records, parts, hpacked, hlt⟩, ?_⟩
          rintro _ ⟨⟩
          exact he
        · rw [hpush]
          refine ⟨.inl ⟨_, _, hnext, hlt'⟩, ?_⟩
          rintro _ ⟨⟩
    | finish =>
        rw [MultipartRecordPacker.call]
        by_cases hne : records = []
        · subst hne
          obtain ⟨e, next, hfinish, hnext, he⟩ := finish_of_nil hpacked
          rw [hfinish]
          refine ⟨.inr hnext, ?_⟩
          rintro _ ⟨⟩
          exact he
        · obtain ⟨last, next, hfinish, hnext, -⟩ := hpacked.finish hlt hne
          rw [hfinish]
          refine ⟨.inr hnext, ?_⟩
          rintro _ ⟨⟩
  · cases c with
    | push recordBytes =>
        have hcheck : packer.checkPush recordBytes = .error (.protocol ⟨.invalidRecord,
            "Cannot append a record after multipart packing is finalized"⟩) := by
          rw [MultipartRecordPacker.checkPush, rejectIf_of hfinished]
          rfl
        rw [MultipartRecordPacker.call, MultipartRecordPacker.push, hcheck]
        refine ⟨.inr hfinished, ?_⟩
        rintro _ ⟨⟩
        decide
    | finish =>
        rw [MultipartRecordPacker.call, MultipartRecordPacker.finish, if_pos hfinished]
        refine ⟨.inr hfinished, ?_⟩
        rintro _ ⟨⟩
        decide

theorem after_keeps (sha256 : Sha256) (calls : List PackerCall) :
    Open sha256 (.after sha256 calls) ∨
      (MultipartRecordPacker.after sha256 calls).finished = true := by
  induction calls using List.reverseRecOn with
  | nil => exact .inl ⟨[], [], Packed.new sha256, Nat.zero_lt_succ _⟩
  | append_singleton calls c ih =>
      rw [MultipartRecordPacker.after, List.foldl_append]
      exact (call_keeps ih c).1

/-! ## Pushing a list and finishing -/

/-- From an open packer, pushing the rest of the records and finishing either
throws for a record it refuses, or emits the missing windows. -/
theorem Packed.pack {sha256 : Sha256} {records rest : List Bytes}
    {parts : List PackedMultipartPart} {packer : MultipartRecordPacker}
    (h : Packed sha256 records parts packer)
    (hlt : packer.pendingBytes < multipartTargetBytes) {ready : List PackedMultipartPart}
    (hpack : (packer.pack sha256 rest).1 = .ok ready) :
    Packs sha256 (records ++ rest) (parts ++ ready) := by
  induction rest generalizing records parts packer ready with
  | nil =>
      rw [MultipartRecordPacker.pack] at hpack
      by_cases hne : records = []
      · subst hne
        obtain ⟨e, next, hfinish, -, -⟩ := finish_of_nil h
        rw [hfinish] at hpack
        cases hpack
      · obtain ⟨last, next, hfinish, -, hpacks⟩ := h.finish hlt hne
        rw [hfinish] at hpack
        cases hpack
        rwa [List.append_nil]
  | cons record rest ih =>
      rw [MultipartRecordPacker.pack] at hpack
      rcases h.push hlt record with ⟨e, hpush, -⟩ | ⟨first, next, hpush, hnext, hlt'⟩
      · rw [hpush] at hpack
        cases hpack
      · rw [hpush] at hpack
        cases hrest : (next.pack sha256 rest).1 with
        | error e =>
            simp only [hrest] at hpack
            cases hpack
        | ok last =>
            simp only [hrest] at hpack
            cases hpack
            have hpacks := ih hnext hlt' hrest
            rwa [List.append_assoc, List.append_assoc, List.singleton_append] at hpacks

/-- Windows of one size cut a list into consecutive pieces. -/
theorem flatMap_windows {α : Type*} (l : List α) (n count : ℕ) :
    (List.range count).flatMap (fun k => (l.drop (n * k)).take n) = l.take (n * count) := by
  induction count with
  | zero => simp
  | succ count ih =>
      rw [List.range_succ, List.flatMap_append, ih, List.flatMap_singleton, Nat.mul_succ,
        List.take_add]

namespace Packs

variable {sha256 : Sha256} {records : List Bytes} {parts : List PackedMultipartPart}

theorem lengths_pos (h : Packs sha256 records parts) : ∀ n ∈ lengths records, 0 < n := by
  intro n hn
  obtain ⟨record, hrecord, rfl⟩ := List.mem_map.mp hn
  exact List.length_pos_of_ne_nil (h.records_ne record hrecord)

/-- The emitted bytes are the bytes of the records. -/
theorem bytes_eq (h : Packs sha256 records parts) :
    parts.flatMap PackedMultipartPart.bytes = records.flatten := by
  have hparts : parts.map PackedMultipartPart.bytes = (List.range parts.length).map
      fun k => (records.flatten.drop (multipartTargetBytes * k)).take multipartTargetBytes := by
    apply List.ext_getElem (by simp)
    intro k hk hk'
    rw [List.length_map] at hk
    rw [List.getElem_map, List.getElem_map, List.getElem_range, (h.parts k hk).bytes_eq,
      List.take_eq_take_iff, List.length_drop]
    omega
  rw [List.flatMap_def, hparts, ← List.flatMap_def, flatMap_windows,
    List.take_of_length_le h.total_le]

theorem length_bytes (h : Packs sha256 records parts) {k : ℕ} (hk : k < parts.length) :
    parts[k].bytes.length = min multipartTargetBytes
      (records.flatten.length - multipartTargetBytes * k) := by
  rw [(h.parts k hk).bytes_eq, List.length_take, List.length_drop]
  omega

theorem byteLength_eq (h : Packs sha256 records parts) :
    ∀ part ∈ parts, part.byteLength = part.bytes.length := by
  intro part hpart
  obtain ⟨k, hk, rfl⟩ := List.getElem_of_mem hpart
  rw [(h.parts k hk).length_eq, h.length_bytes hk]

theorem sum_byteLength (h : Packs sha256 records parts) :
    (parts.map fun part => part.byteLength).sum = records.flatten.length := by
  rw [← h.bytes_eq, List.length_flatMap]
  exact congrArg List.sum (List.map_congr_left h.byteLength_eq)

/-- A part before the last one is full. -/
theorem length_bytes_of_lt (h : Packs sha256 records parts) {k : ℕ}
    (hk : k + 1 < parts.length) : parts[k].bytes.length = multipartTargetBytes := by
  have hlt := h.lt_total (k + 1) hk
  rw [Nat.mul_succ] at hlt
  rw [h.length_bytes (by omega)]
  omega

/-- The first and the last chunk of a part are the first and the last record that
meet its byte range. -/
theorem chunk_range (h : Packs sha256 records parts) {k : ℕ} (hk : k < parts.length) :
    IsLeast {i | Meets (lengths records) i (multipartTargetBytes * k)
        (multipartTargetBytes * k + parts[k].bytes.length)} parts[k].firstChunkIndex ∧
      IsGreatest {i | Meets (lengths records) i (multipartTargetBytes * k)
        (multipartTargetBytes * k + parts[k].bytes.length)} parts[k].lastChunkIndex := by
  have hwindow := (h.parts k hk).window
  rw [← h.length_bytes hk] at hwindow
  have hmeets := hwindow.meets_iff h.lengths_pos
  have hle := hwindow.first_le_last
  constructor
  · exact ⟨(hmeets _).mpr ⟨le_rfl, hle⟩, fun i hi => ((hmeets i).mp hi).1⟩
  · exact ⟨(hmeets _).mpr ⟨hle, le_rfl⟩, fun i hi => ((hmeets i).mp hi).2⟩

end Packs

/-- `packChunkRecords` checks the number of records beforehand, which the packer
checks as it goes. -/
theorem packChunkRecords_eq_ok {sha256 : Sha256} {records : List Bytes}
    {parts : List PackedMultipartPart} :
    packChunkRecords sha256 records = .ok parts ↔
      (MultipartRecordPacker.new.pack sha256 records).1 = .ok parts := by
  rw [packChunkRecords, rejectIf_bind_eq_ok]
  constructor
  · exact fun h => h.2
  · intro hpack
    have h := (Packed.new sha256).pack (Nat.zero_lt_succ _) hpack
    rw [List.nil_append, List.nil_append] at h
    have hpos := List.length_pos_of_ne_nil h.ne_nil
    have hcount := h.count
    exact ⟨by omega, hpack⟩

/-- No sequence of calls makes the packer throw one of its internal errors. When
the records of a list are accepted one after the other, the emitted parts are
their bytes cut at the multiples of 8 MiB, numbered from one, and each part names
the first and the last record that meet its bytes. -/
theorem packer_emits_windows (sha256 : Sha256) :
    (∀ (calls : List PackerCall) (c : PackerCall) (e : Thrown),
      ((MultipartRecordPacker.after sha256 calls).call sha256 c).1 = .error e →
        e ∉ internalErrors) ∧
    ∀ (records : List Bytes) (parts : List PackedMultipartPart),
      (packChunkRecords sha256 records = .ok parts ∨
        (MultipartRecordPacker.new.pack sha256 records).1 = .ok parts) →
      parts.flatMap PackedMultipartPart.bytes = records.flatten ∧
      parts.map (fun part => part.partNumber) = List.range' 1 parts.length ∧
      (∀ part ∈ parts, part.bytes ≠ [] ∧ part.byteLength = part.bytes.length ∧
        part.sha256 = sha256Hex sha256 part.bytes) ∧
      (∀ k (hk : k + 1 < parts.length), parts[k].bytes.length = multipartTargetBytes) ∧
      ∀ k (hk : k < parts.length),
        IsLeast {i | Meets (records.map List.length) i (multipartTargetBytes * k)
            (multipartTargetBytes * k + parts[k].bytes.length)} parts[k].firstChunkIndex ∧
          IsGreatest {i | Meets (records.map List.length) i (multipartTargetBytes * k)
            (multipartTargetBytes * k + parts[k].bytes.length)} parts[k].lastChunkIndex := by
  constructor
  · intro calls c
    exact (call_keeps (after_keeps sha256 calls) c).2
  · intro records parts hpack
    rw [packChunkRecords_eq_ok, or_self] at hpack
    have h := (Packed.new sha256).pack (Nat.zero_lt_succ _) hpack
    rw [List.nil_append, List.nil_append] at h
    refine ⟨h.bytes_eq, ?_, ?_, fun k hk => h.length_bytes_of_lt hk,
      fun k hk => h.chunk_range hk⟩
    · apply List.ext_getElem (by simp)
      intro k hk hk'
      rw [List.length_map] at hk
      rw [List.getElem_map, List.getElem_range', (h.parts k hk).number_eq]
      omega
    · intro part hpart
      obtain ⟨k, hk, rfl⟩ := List.getElem_of_mem hpart
      have hlt := h.lt_total k hk
      have hlength := h.length_bytes hk
      refine ⟨?_, h.byteLength_eq _ hpart, (h.parts k hk).sha256_eq⟩
      apply List.ne_nil_of_length_pos
      have htarget : 0 < multipartTargetBytes := by decide
      omega

end Media

end UnderstandProof
