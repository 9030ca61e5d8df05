import UnderstandProof.Media.ManifestLayout
import UnderstandProof.Worker.RecordingReader

/-!
# The cursor over the parts

After some bytes the cursor stands in the part that these bytes have reached, has
hashed what they hold of it, and the parts before have the hashes of the manifest.
Every run over incoming bytes keeps this, and it fails only when no continuation of
the bytes matches the parts.
-/

open Foundation Foundation.Tiling

namespace UnderstandProof

namespace Worker

open Media Media.RecordingManifestSchema

/-- The bytes, cut at the lengths of the parts, have the hashes of the parts. -/
structure PartsMatch (sha256 : Sha256) (manifest : RecordingManifest) (bytes : Bytes) :
    Prop where
  length_eq : bytes.length = (partLengths manifest.parts).sum
  hashes : ∀ k (hk : k < manifest.parts.length),
    sha256Hex sha256 (slice bytes (offset (partLengths manifest.parts) k)
      (offset (partLengths manifest.parts) (k + 1))) = manifest.parts[k].sha256

/-- The cursor after the bytes `done`. -/
structure PartCursor.At (sha256 : Sha256) (manifest : RecordingManifest) (done : Bytes)
    (cursor : PartCursor) : Prop where
  index_le : cursor.partIndex ≤ manifest.parts.length
  start_le : offset (partLengths manifest.parts) cursor.partIndex ≤ done.length
  hash_eq : cursor.partHash =
    done.drop (offset (partLengths manifest.parts) cursor.partIndex)
  remaining_eq : done.length + cursor.partRemaining =
    offset (partLengths manifest.parts) (cursor.partIndex + 1)
  remaining_pos : cursor.partIndex < manifest.parts.length → 0 < cursor.partRemaining
  hashes : ∀ k (hk : k < manifest.parts.length), k < cursor.partIndex →
    sha256Hex sha256 (slice done (offset (partLengths manifest.parts) k)
      (offset (partLengths manifest.parts) (k + 1))) = manifest.parts[k].sha256

theorem offset_add_partByteLength (manifest : RecordingManifest) (k : ℕ) :
    offset (partLengths manifest.parts) k + partByteLength manifest k =
      offset (partLengths manifest.parts) (k + 1) := by
  by_cases hk : k < manifest.parts.length
  · rw [offset_partLengths_succ hk, partByteLength, List.getElem?_eq_getElem hk]
    rfl
  · have hlength : (partLengths manifest.parts).length ≤ k := by
      rw [length_partLengths]
      omega
    rw [offset_of_length_le hlength, offset_of_length_le (by omega), partByteLength,
      List.getElem?_eq_none (by omega)]
    rfl

theorem partByteLength_pos {manifest : RecordingManifest}
    (hpos : ∀ part ∈ manifest.parts, 0 < part.byteLength) {k : ℕ}
    (hk : k < manifest.parts.length) : 0 < partByteLength manifest k := by
  rw [partByteLength, List.getElem?_eq_getElem hk]
  exact hpos _ (List.getElem_mem hk)

/-- A slice that ends in the bytes already there does not change when more follow. -/
theorem slice_append_of_le {bytes more : Bytes} {i j : ℕ} (hij : i ≤ j)
    (hj : j ≤ bytes.length) : slice (bytes ++ more) i j = slice bytes i j := by
  rw [slice, slice, List.drop_append_of_le_length (by omega),
    List.take_append_of_le_length (by rw [List.length_drop]; omega)]

/-- A slice that ends `n` elements behind the bytes. -/
theorem slice_append_take {bytes more : Bytes} {i n : ℕ} (hi : i ≤ bytes.length) :
    slice (bytes ++ more) i (bytes.length + n) = bytes.drop i ++ more.take n := by
  have hlength : bytes.length + n - i = (bytes.drop i).length + n := by
    rw [List.length_drop]
    omega
  rw [slice, List.drop_append_of_le_length hi, hlength, List.take_length_add_append]

namespace PartCursor.At

variable {sha256 : Sha256} {manifest : RecordingManifest} {done incoming : Bytes}
  {cursor : PartCursor}

theorem start (hpos : ∀ part ∈ manifest.parts, 0 < part.byteLength) :
    PartCursor.At sha256 manifest [] (ReaderState.start manifest).parts where
  index_le := Nat.zero_le _
  start_le := by simp [ReaderState.start]
  hash_eq := rfl
  remaining_eq := by
    rw [← offset_add_partByteLength]
    simp [ReaderState.start]
  remaining_pos := partByteLength_pos hpos
  hashes := fun _ _ hlt => absurd hlt (Nat.not_lt_zero _)

/-- Behind the last part nothing remains. -/
theorem total_of_remaining (h : PartCursor.At sha256 manifest done cursor)
    (hzero : cursor.partRemaining = 0) :
    cursor.partIndex = manifest.parts.length ∧
      done.length = (partLengths manifest.parts).sum := by
  have hindex := h.index_le
  have hpos := h.remaining_pos
  have heq : cursor.partIndex = manifest.parts.length := by omega
  refine ⟨heq, ?_⟩
  have hremaining := h.remaining_eq
  rw [hzero, Nat.add_zero, offset_of_length_le (by rw [length_partLengths]; omega)]
    at hremaining
  exact hremaining

/-- The bytes that complete the part of the cursor. -/
theorem slice_part (h : PartCursor.At sha256 manifest done cursor) (more : Bytes) :
    slice (done ++ more) (offset (partLengths manifest.parts) cursor.partIndex)
        (offset (partLengths manifest.parts) (cursor.partIndex + 1)) =
      cursor.partHash ++ more.take cursor.partRemaining := by
  rw [← h.remaining_eq, slice_append_take h.start_le, h.hash_eq]

/-- Bytes inside the part are hashed. -/
theorem advance (h : PartCursor.At sha256 manifest done cursor) {more : Bytes}
    (hlt : more.length < cursor.partRemaining) :
    PartCursor.At sha256 manifest (done ++ more)
      ⟨cursor.partIndex, cursor.partRemaining - more.length, cursor.partHash ++ more⟩ := by
  have hstart := h.start_le
  have hremaining := h.remaining_eq
  refine ⟨h.index_le, ?_, ?_, ?_, fun _ => by simp only; omega, ?_⟩
  · rw [List.length_append]
    exact hstart.trans (Nat.le_add_right _ _)
  · rw [List.drop_append_of_le_length hstart, ← h.hash_eq]
  · simp only [List.length_append]
    omega
  · intro k hk hlt
    have hle := offset_mono (L := partLengths manifest.parts) (show k + 1 ≤ cursor.partIndex from hlt)
    rw [slice_append_of_le (offset_mono (Nat.le_succ k)) (hle.trans hstart)]
    exact h.hashes k hk hlt

/-- Bytes that end the part, under the right hash, lead to the next part. -/
theorem complete (h : PartCursor.At sha256 manifest done cursor)
    (hpos : ∀ part ∈ manifest.parts, 0 < part.byteLength) {more : Bytes}
    (hlength : more.length = cursor.partRemaining)
    (hk : cursor.partIndex < manifest.parts.length)
    (hhash : sha256Hex sha256 (cursor.partHash ++ more) =
      manifest.parts[cursor.partIndex].sha256) :
    PartCursor.At sha256 manifest (done ++ more)
      ⟨cursor.partIndex + 1, partByteLength manifest (cursor.partIndex + 1), []⟩ := by
  have hend : (done ++ more).length =
      offset (partLengths manifest.parts) (cursor.partIndex + 1) := by
    rw [List.length_append, hlength, h.remaining_eq]
  refine ⟨hk, hend.ge, ?_, ?_, partByteLength_pos hpos, ?_⟩
  · rw [← hend, List.drop_length]
  · rw [hend, offset_add_partByteLength]
  · intro k hk' hlt
    rcases Nat.lt_succ_iff_lt_or_eq.mp hlt with hbefore | rfl
    · have hle := offset_mono (L := partLengths manifest.parts)
        (show k + 1 ≤ cursor.partIndex from hbefore)
      rw [slice_append_of_le (offset_mono (Nat.le_succ k)) (hle.trans h.start_le)]
      exact h.hashes k hk' hbefore
    · rw [h.slice_part, List.take_of_length_le hlength.le]
      exact hhash

/-- What one turn of the hashing loop does. -/
theorem step (h : PartCursor.At sha256 manifest done cursor)
    (hpos : ∀ part ∈ manifest.parts, 0 < part.byteLength) (incoming : Bytes) :
    (incoming = [] ∧ hashStep sha256 manifest cursor incoming = .wait) ∨
      (∃ e, hashStep sha256 manifest cursor incoming = .fail e ∧
        ∀ more, ¬ PartsMatch sha256 manifest (done ++ incoming ++ more)) ∨
      ∃ count next, hashStep sha256 manifest cursor incoming = .consume count next ∧
        PartCursor.At sha256 manifest (done ++ incoming.take count) next := by
  by_cases hnil : incoming = []
  · exact Or.inl ⟨hnil, by simp [hashStep, hnil]⟩
  · refine Or.inr ?_
    have hlength := List.length_pos_of_ne_nil hnil
    have hne : ¬ incoming.length = 0 := by omega
    simp only [hashStep, if_neg hne]
    by_cases hzero : cursor.partRemaining = 0
    · -- behind the last part: every continuation is too long
      have htake : min cursor.partRemaining incoming.length = 0 := by omega
      refine Or.inl ⟨_, if_pos htake, ?_⟩
      intro more hmatch
      have htotal := (h.total_of_remaining hzero).2
      have hmatched := hmatch.length_eq
      rw [List.length_append, List.length_append] at hmatched
      omega
    · have htake : ¬ min cursor.partRemaining incoming.length = 0 := by omega
      rw [if_neg htake]
      have hindex : cursor.partIndex < manifest.parts.length := by
        by_contra hge
        have hremaining := h.remaining_eq
        have hstart := h.start_le
        rw [offset_of_length_le (by rw [length_partLengths]; omega)] at hremaining hstart
        omega
      by_cases hshort : incoming.length < cursor.partRemaining
      · have hmin : min cursor.partRemaining incoming.length = incoming.length := by omega
        have hopen : ¬ cursor.partRemaining - incoming.length = 0 := by omega
        rw [hmin, if_neg hopen, List.take_length]
        refine Or.inr ⟨_, _, rfl, ?_⟩
        rw [List.take_length]
        exact h.advance hshort
      · have hmin : min cursor.partRemaining incoming.length = cursor.partRemaining := by omega
        rw [hmin, Nat.sub_self, if_pos rfl, List.getElem?_eq_getElem hindex, Option.map_some]
        by_cases hhash : manifest.parts[cursor.partIndex].sha256 =
            sha256Hex sha256 (cursor.partHash ++ incoming.take cursor.partRemaining)
        · rw [if_pos (by rw [hhash])]
          refine Or.inr ⟨_, _, rfl, h.complete hpos ?_ hindex hhash.symm⟩
          rw [List.length_take]
          omega
        · refine Or.inl ⟨_, if_neg (by simpa using hhash), ?_⟩
          intro more hmatch
          have hpart := hmatch.hashes cursor.partIndex hindex
          rw [List.append_assoc, h.slice_part,
            List.take_append_of_le_length (by omega)] at hpart
          exact hhash hpart.symm

/-- Hashing the incoming bytes keeps the cursor in place, and fails only when no
continuation matches the parts. -/
theorem drain (h : PartCursor.At sha256 manifest done cursor)
    (hpos : ∀ part ∈ manifest.parts, 0 < part.byteLength) (incoming : Bytes) :
    (((partHasher sha256 manifest).drain cursor incoming).outcome = .ok () ∧
        PartCursor.At sha256 manifest (done ++ incoming)
          ((partHasher sha256 manifest).drain cursor incoming).state) ∨
      ∃ e, ((partHasher sha256 manifest).drain cursor incoming).outcome = .error e ∧
        ∀ more, ¬ PartsMatch sha256 manifest (done ++ incoming ++ more) := by
  refine Consumer.drain_induction (c := partHasher sha256 manifest)
    (P := fun cursor incoming d => ∀ done, PartCursor.At sha256 manifest done cursor →
      (d.outcome = .ok () ∧ PartCursor.At sha256 manifest (done ++ incoming) d.state) ∨
        ∃ e, d.outcome = .error e ∧
          ∀ more, ¬ PartsMatch sha256 manifest (done ++ incoming ++ more))
    ?_ ?_ ?_ cursor incoming done h
  · intro cursor incoming hwait done h
    rcases h.step hpos incoming with ⟨rfl, -⟩ | ⟨e, hfail, -⟩ | ⟨count, next, hconsume, -⟩
    · rw [List.append_nil]
      exact Or.inl ⟨rfl, h⟩
    · exact absurd (hwait.symm.trans hfail) (by simp)
    · exact absurd (hwait.symm.trans hconsume) (by simp)
  · intro cursor incoming e hfail done h
    rcases h.step hpos incoming with ⟨-, hwait⟩ | ⟨e', -, hmatch⟩ | ⟨count, next, hconsume, -⟩
    · exact absurd (hfail.symm.trans hwait) (by simp)
    · exact Or.inr ⟨e, rfl, hmatch⟩
    · exact absurd (hfail.symm.trans hconsume) (by simp)
  · intro cursor incoming count next d hconsume ih done h
    rcases h.step hpos incoming with ⟨-, hwait⟩ | ⟨e', hfail, -⟩ | ⟨_, _, hconsume', hnext⟩
    · exact absurd (hconsume.symm.trans hwait) (by simp)
    · exact absurd (hconsume.symm.trans hfail) (by simp)
    · cases hconsume.symm.trans hconsume'
      have hrest := ih _ hnext
      rwa [List.append_assoc, List.take_append_drop] at hrest

/-- At the end of the parts the bytes match them, and bytes that match the parts end
there. -/
theorem partsMatch_iff (h : PartCursor.At sha256 manifest done cursor) :
    PartsMatch sha256 manifest done ↔
      cursor.partIndex = manifest.parts.length ∧ cursor.partRemaining = 0 := by
  constructor
  · intro hmatch
    have hzero : cursor.partRemaining = 0 := by
      have hremaining := h.remaining_eq
      have hle := offset_le_sum (L := partLengths manifest.parts) (cursor.partIndex + 1)
      rw [← hremaining, ← hmatch.length_eq] at hle
      omega
    exact ⟨(h.total_of_remaining hzero).1, hzero⟩
  · rintro ⟨hindex, hzero⟩
    refine ⟨(h.total_of_remaining hzero).2, fun k hk => h.hashes k hk ?_⟩
    rw [hindex]
    exact hk

end PartCursor.At

end Worker

end UnderstandProof
