import UnderstandProof.Media.ManifestLayout

/-!
# The parts of an accepted manifest

The parts of an accepted manifest tile its object, and neighbouring parts share
at most the record that their boundary cuts, although the schema compares no two
parts with each other. Only non-final parts have a fixed size: the chunks
determine the parts of an object that fits into one part of that size, and of no
longer one, because its final part may also take in the parts before it.
-/

open Foundation Foundation.Tiling

namespace UnderstandProof

namespace Media

namespace RecordingManifestSchema

namespace Layout

variable {manifest : RecordingManifest} {noncePrefix : Bytes}

/-- Each part is the window of the chunks that it names. -/
theorem window (h : Layout manifest noncePrefix) {k : ℕ} (hk : k < manifest.parts.length) :
    Window (recordLengths manifest.chunks) (offset (partLengths manifest.parts) k)
      (offset (partLengths manifest.parts) (k + 1)) manifest.parts[k].firstChunkIndex
      manifest.parts[k].lastChunkIndex := by
  rw [offset_partLengths_succ hk]
  exact (h.parts k hk).window

theorem sum_partLengths (h : Layout manifest noncePrefix) :
    (partLengths manifest.parts).sum = (recordLengths manifest.chunks).sum :=
  h.part_total.trans h.object_total

theorem firstChunkIndex_zero (h : Layout manifest noncePrefix)
    (hk : 0 < manifest.parts.length) : manifest.parts[0].firstChunkIndex = 0 := by
  have hwindow := h.window hk
  rw [offset_zero] at hwindow
  exact hwindow.first_eq_zero (recordLengths_pos _)

theorem lastChunkIndex_last (h : Layout manifest noncePrefix) {k : ℕ}
    (hk : k + 1 = manifest.parts.length) :
    manifest.parts[k].lastChunkIndex + 1 = manifest.chunks.length := by
  have hwindow := h.window (show k < manifest.parts.length by omega)
  rw [offset_of_length_le (show (partLengths manifest.parts).length ≤ k + 1 by simp [hk]),
    h.sum_partLengths] at hwindow
  rw [hwindow.last_eq_length (recordLengths_pos _), length_recordLengths]

/-- Every record lies in the range of a part. -/
theorem covered (h : Layout manifest noncePrefix) {i : ℕ}
    (hi : i < manifest.chunks.length) :
    ∃ part ∈ manifest.parts, part.firstChunkIndex ≤ i ∧ i ≤ part.lastChunkIndex := by
  have hpos := recordLengths_pos manifest.chunks
  have hi' : i < (recordLengths manifest.chunks).length := by
    rwa [length_recordLengths]
  have hgrow := offset_lt_offset hpos (show i < i + 1 by omega) hi'
  have hsum := offset_le_sum (L := recordLengths manifest.chunks) (i + 1)
  obtain ⟨k, hk, hstart, hend⟩ := exists_block (L := partLengths manifest.parts)
    (x := offset (recordLengths manifest.chunks) i) (by rw [h.sum_partLengths]; omega)
  rw [length_partLengths] at hk
  refine ⟨manifest.parts[k], List.getElem_mem hk, ?_⟩
  rw [← (h.window hk).meets_iff hpos]
  exact ⟨hi', _, le_rfl, hgrow, hstart, hend⟩

/-- The next part starts in the record that the boundary cuts, or in the record
after it. -/
theorem neighbours (h : Layout manifest noncePrefix) {k : ℕ}
    (hk : k + 1 < manifest.parts.length) :
    manifest.parts[k + 1].firstChunkIndex = manifest.parts[k].lastChunkIndex ∨
      manifest.parts[k + 1].firstChunkIndex = manifest.parts[k].lastChunkIndex + 1 :=
  (h.window (show k < manifest.parts.length by omega)).next_first (recordLengths_pos _)
    (h.window hk)

/-- All parts before the last one have the target size. -/
theorem offset_eq (h : Layout manifest noncePrefix) {k : ℕ}
    (hk : k < manifest.parts.length) :
    offset (partLengths manifest.parts) k = multipartTargetBytes * k := by
  induction k with
  | zero => simp
  | succ k ih =>
      rw [offset_partLengths_succ (by omega), ih (by omega),
        (h.parts k (by omega)).full hk, Nat.mul_succ]

end Layout

/-- What the protocol states of a part besides its hash. -/
def partLayout (part : ManifestPart) : ℕ × ℕ × ℕ × ℕ :=
  (part.partNumber, part.firstChunkIndex, part.lastChunkIndex, part.byteLength)

/-- Two laid-out manifests over the same chunks agree on their parts as soon as
they have equally many. -/
theorem Layout.determined {manifest other : RecordingManifest} {noncePrefix otherPrefix : Bytes}
    (h : Layout manifest noncePrefix) (h' : Layout other otherPrefix)
    (hchunks : other.chunks = manifest.chunks)
    (hlength : other.parts.length = manifest.parts.length) :
    other.parts.map partLayout = manifest.parts.map partLayout := by
  have hoffset : ∀ k ≤ manifest.parts.length,
      offset (partLengths other.parts) k = offset (partLengths manifest.parts) k := by
    intro k hk
    by_cases hlast : k < manifest.parts.length
    · rw [h.offset_eq hlast, h'.offset_eq (by omega)]
    · rw [offset_of_length_le (by rw [length_partLengths]; omega),
        offset_of_length_le (by rw [length_partLengths]; omega), h.sum_partLengths,
        h'.sum_partLengths, hchunks]
  apply List.ext_getElem (by simpa using hlength)
  intro k hk' hk
  rw [List.length_map] at hk hk'
  have hnumber := (h'.parts k hk').number_eq.trans (h.parts k hk).number_eq.symm
  have hsize : other.parts[k].byteLength = manifest.parts[k].byteLength := by
    have hnext := offset_partLengths_succ hk
    have hnext' := offset_partLengths_succ hk'
    rw [hoffset _ hk.le, hoffset (k + 1) hk] at hnext'
    omega
  have hwindow := h'.window hk'
  rw [hchunks, hoffset _ hk.le, hoffset (k + 1) hk] at hwindow
  obtain ⟨hfirst, hlast⟩ := hwindow.unique (h.window hk)
  rw [List.getElem_map, List.getElem_map, partLayout, partLayout, hnumber, hfirst, hlast,
    hsize]

/-! ## Other parts over the same chunks -/

/-- A part for any non-empty byte range of the object. -/
theorem exists_part {manifest : RecordingManifest} (h : accepts manifest = true)
    (index : ℕ) {s e : ℕ} (hindex : index < maxMultipartParts) (hse : s < e)
    (he : e ≤ manifest.totalObjectBytes) :
    ∃ part : ManifestPart, ManifestPartSchema.accepts part = true ∧
      part.partNumber = index + 1 ∧ s + part.byteLength = e ∧
      Window (recordLengths manifest.chunks) s e part.firstChunkIndex
        part.lastChunkIndex := by
  obtain ⟨hshape, noncePrefix, hlayout⟩ := accepts_iff.mp h
  simp only [shape, Bool.and_eq_true, decide_eq_true_eq, List.all_eq_true] at hshape
  obtain ⟨⟨⟨⟨⟨⟨⟨⟨-, hobject⟩, -⟩, -⟩, hchunks⟩, -⟩, hparts⟩, -⟩, haccepts⟩ := hshape
  have hsha := haccepts _ (List.getElem_mem (show 0 < manifest.parts.length by omega))
  simp only [ManifestPartSchema.accepts, Bool.and_eq_true, decide_eq_true_eq] at hsha
  obtain ⟨a, b, hwindow⟩ := exists_window (L := recordLengths manifest.chunks) hse
    (by rwa [← hlayout.object_total])
  have ha := hwindow.first_lt_length
  have hb := hwindow.last_lt_length
  rw [length_recordLengths] at ha hb
  refine ⟨⟨index + 1, a, b, e - s, manifest.parts[0].sha256⟩, ?_, rfl, ?_, hwindow⟩
  · have hmax : maxRecordingChunks ≤ maxUint32 := by decide
    simp only [ManifestPartSchema.accepts, Bool.and_eq_true, decide_eq_true_eq]
    refine ⟨⟨⟨⟨⟨⟨?_, ?_⟩, ?_⟩, ?_⟩, ?_⟩, ?_⟩, hsha.2⟩
    all_goals omega
  · simp only
    omega

/-- The parts of an accepted manifest can be replaced by others that fit its
chunks. -/
theorem accepts_withParts {manifest : RecordingManifest} (h : accepts manifest = true)
    {parts : List ManifestPart} (hlength : 1 ≤ parts.length)
    (hle : parts.length ≤ maxMultipartParts)
    (haccepts : ∀ part ∈ parts, ManifestPartSchema.accepts part = true)
    (hparts : ∀ i (hi : i < parts.length), PartChecked { manifest with parts := parts }
      parts[i] i (offset (partLengths parts) i))
    (hsum : (partLengths parts).sum = manifest.totalObjectBytes) :
    accepts { manifest with parts := parts } = true := by
  obtain ⟨hshape, noncePrefix, hlayout⟩ := accepts_iff.mp h
  rw [accepts_iff]
  constructor
  · simp only [shape, Bool.and_eq_true, decide_eq_true_eq, List.all_eq_true] at hshape ⊢
    exact ⟨⟨⟨hshape.1.1.1, hlength⟩, hle⟩, haccepts⟩
  · exact ⟨noncePrefix, hlayout.prefix_eq, hlayout.chunks, hlayout.nonces,
      hlayout.plaintext_total, hlayout.object_total, hparts, hsum⟩

/-- One part may hold the whole object, whatever its length. -/
theorem exists_one_part {manifest : RecordingManifest} (h : accepts manifest = true) :
    ∃ other : RecordingManifest, accepts other = true ∧ other.chunks = manifest.chunks ∧
      other.parts.length = 1 := by
  have hpos : 0 < manifest.totalObjectBytes := by
    obtain ⟨hshape, -⟩ := accepts_iff.mp h
    simp only [shape, Bool.and_eq_true, decide_eq_true_eq, List.all_eq_true] at hshape
    omega
  obtain ⟨part, haccepts, hnumber, hend, hwindow⟩ :=
    exists_part h 0 (by decide) hpos le_rfl
  rw [Nat.zero_add] at hend
  refine ⟨{ manifest with parts := [part] }, accepts_withParts h ?_ ?_ ?_ ?_ ?_, rfl, rfl⟩
  · simp
  · simp [maxMultipartParts]
  · simpa using haccepts
  · intro i hi
    obtain rfl : i = 0 := by simpa using hi
    refine ⟨hnumber, ?_, by simp⟩
    simpa [hend] using hwindow
  · simpa [partLengths] using hend

/-- A longer object may also be cut after the first part of target size. -/
theorem exists_two_parts {manifest : RecordingManifest} (h : accepts manifest = true)
    (hlong : multipartTargetBytes < manifest.totalObjectBytes) :
    ∃ other : RecordingManifest, accepts other = true ∧ other.chunks = manifest.chunks ∧
      other.parts.length = 2 := by
  obtain ⟨first, hfirst, hnumber, hend, hwindow⟩ :=
    exists_part h 0 (s := 0) (by decide) (show 0 < multipartTargetBytes by decide)
      hlong.le
  obtain ⟨last, hlast, hnumber', hend', hwindow'⟩ :=
    exists_part h 1 (by decide) hlong le_rfl
  rw [Nat.zero_add] at hend
  refine ⟨{ manifest with parts := [first, last] }, accepts_withParts h ?_ ?_ ?_ ?_ ?_,
    rfl, rfl⟩
  · simp
  · simp [maxMultipartParts]
  · simpa using ⟨hfirst, hlast⟩
  · intro i hi
    match i, hi with
    | 0, _ =>
        refine ⟨hnumber, ?_, fun _ => hend⟩
        simpa [hend] using hwindow
    | 1, _ =>
        have hstart : offset (partLengths [first, last]) 1 = multipartTargetBytes := by
          simp [offset, partLengths, hend]
        refine ⟨hnumber', ?_, by simp⟩
        rw [hstart]
        simpa [hend'] using hwindow'
  · simpa [partLengths, hend] using hend'

/-- An object that fits into one part of target size has exactly one part. -/
theorem length_parts_of_le {manifest : RecordingManifest} (h : accepts manifest = true)
    (hshort : manifest.totalObjectBytes ≤ multipartTargetBytes) :
    manifest.parts.length = 1 := by
  obtain ⟨hshape, noncePrefix, hlayout⟩ := accepts_iff.mp h
  have hpos := byteLength_pos_of_shape hshape
  have hne : 1 ≤ manifest.parts.length := by
    simp only [shape, Bool.and_eq_true, decide_eq_true_eq, List.all_eq_true] at hshape
    omega
  by_contra hmany
  have hk : 1 < manifest.parts.length := by omega
  have hnext := offset_partLengths_succ hk
  have hsum := offset_le_sum (L := partLengths manifest.parts) (1 + 1)
  have hlast := hpos _ (List.getElem_mem hk)
  rw [hlayout.offset_eq hk] at hnext
  rw [hlayout.part_total] at hsum
  omega

/-- Indices, nonces, tiling, coverage and the law for neighbouring parts hold of
every accepted manifest. Its chunks determine its parts exactly when its object
is no longer than one part of target size. -/
theorem accepted_manifest_parts {manifest : RecordingManifest}
    (h : accepts manifest = true) :
    (∃ noncePrefix, decodeBase64Url manifest.noncePrefixBase64url = .ok noncePrefix ∧
      noncePrefix.length = noncePrefixBytes ∧
      ∀ i (hi : i < manifest.chunks.length), manifest.chunks[i].index = i ∧
        decodeBase64Url manifest.chunks[i].nonce = .ok (noncePrefix ++ uint32be i)) ∧
    (manifest.chunks.map ManifestChunk.nonce).Nodup ∧
    (partLengths manifest.parts).sum = (recordLengths manifest.chunks).sum ∧
    (∃ part, manifest.parts.head? = some part ∧ part.firstChunkIndex = 0) ∧
    (∃ part, manifest.parts.getLast? = some part ∧
      part.lastChunkIndex + 1 = manifest.chunks.length) ∧
    (∀ i < manifest.chunks.length, ∃ part ∈ manifest.parts,
      part.firstChunkIndex ≤ i ∧ i ≤ part.lastChunkIndex) ∧
    (∀ k (hk : k + 1 < manifest.parts.length),
      manifest.parts[k + 1].firstChunkIndex = manifest.parts[k].lastChunkIndex ∨
      manifest.parts[k + 1].firstChunkIndex = manifest.parts[k].lastChunkIndex + 1) ∧
    ((∀ other : RecordingManifest, accepts other = true →
        other.chunks = manifest.chunks →
        other.parts.map partLayout = manifest.parts.map partLayout) ↔
      manifest.totalObjectBytes ≤ multipartTargetBytes) := by
  obtain ⟨hshape, noncePrefix, hlayout⟩ := accepts_iff.mp h
  obtain ⟨hchunks, hparts⟩ : 0 < manifest.chunks.length ∧ 0 < manifest.parts.length := by
    simp only [shape, Bool.and_eq_true, decide_eq_true_eq, List.all_eq_true] at hshape
    omega
  refine ⟨⟨noncePrefix, hlayout.prefix_eq, (hlayout.chunks 0 hchunks).prefix_length, ?_⟩,
    hlayout.nonces, hlayout.sum_partLengths, ?_, ?_, fun i hi => hlayout.covered hi,
    fun k hk => hlayout.neighbours hk, ?_⟩
  · intro i hi
    have hchecked := hlayout.chunks i hi
    exact ⟨hchecked.index_eq, by rw [hchecked.nonce_eq, decodeBase64Url_encodeBase64Url]⟩
  · exact ⟨_, List.head?_eq_getElem? ▸ List.getElem?_eq_getElem hparts,
      hlayout.firstChunkIndex_zero hparts⟩
  · have hlast : manifest.parts.length - 1 + 1 = manifest.parts.length := by omega
    exact ⟨_, List.getLast?_eq_getElem? ▸ List.getElem?_eq_getElem (by omega),
      hlayout.lastChunkIndex_last hlast⟩
  · constructor
    · intro hdetermined
      by_contra hlong
      obtain ⟨one, hone, honeChunks, honeLength⟩ := exists_one_part h
      obtain ⟨two, htwo, htwoChunks, htwoLength⟩ := exists_two_parts h (by omega)
      have hsame := (hdetermined one hone honeChunks).trans
        (hdetermined two htwo htwoChunks).symm
      have hlength := congrArg List.length hsame
      rw [List.length_map, List.length_map] at hlength
      omega
    · intro hshort other hother hsame
      obtain ⟨-, otherPrefix, hotherLayout⟩ := accepts_iff.mp hother
      have htotal : other.totalObjectBytes = manifest.totalObjectBytes := by
        rw [hotherLayout.object_total, hlayout.object_total, hsame]
      apply hlayout.determined hotherLayout hsame
      rw [length_parts_of_le hother (by omega), length_parts_of_le h hshort]

/-- A manifest of three chunks whose records fill 8 MiB and 58 bytes. -/
def sampleManifest (parts : List ManifestPart) : RecordingManifest where
  attemptId := js "11111111-1111-4111-8111-111111111111"
  headSha := js "aaaaaaaaaaaaaaaaaaaaaaaaaaaaaaaaaaaaaaaa"
  objectId := js "22222222-2222-4222-8222-222222222222"
  protocolVersion := 1
  suiteId := js "SP-RC1"
  codec := recordingCodec
  noncePrefixBase64url := encodeBase64Url [1, 2, 3, 4, 5, 6, 7, 8]
  wrapping := ⟨js "33333333-3333-4333-8333-333333333333", js "local", js "RSA-OAEP-256",
    js "bbbbbbbbbbbbbbbbbbbbbbbbbbbbbbbbbbbbbbbbbbbbbbbbbbbbbbbbbbbbbbbb"⟩
  durationMs := 1000
  totalPlaintextBytes := 4194304 + 4194208 + 10
  totalObjectBytes := 8388608 + 58
  questionIntervals := none
  chunks :=
    [⟨0, encodeBase64Url ([1, 2, 3, 4, 5, 6, 7, 8] ++ uint32be 0), 4194304, 4194320,
        js "cccccccccccccccccccccccccccccccccccccccccccccccccccccccccccccccc"⟩,
      ⟨1, encodeBase64Url ([1, 2, 3, 4, 5, 6, 7, 8] ++ uint32be 1), 4194208, 4194224,
        js "dddddddddddddddddddddddddddddddddddddddddddddddddddddddddddddddd"⟩,
      ⟨2, encodeBase64Url ([1, 2, 3, 4, 5, 6, 7, 8] ++ uint32be 2), 10, 26,
        js "eeeeeeeeeeeeeeeeeeeeeeeeeeeeeeeeeeeeeeeeeeeeeeeeeeeeeeeeeeeeeeee"⟩]
  parts

def sampleSha256 : JsString :=
  js "ffffffffffffffffffffffffffffffffffffffffffffffffffffffffffffffff"

/-- The same chunks are accepted with two parts and with one. -/
theorem same_chunks_two_part_lists :
    accepts (sampleManifest [⟨1, 0, 1, 8388608, sampleSha256⟩, ⟨2, 2, 2, 58, sampleSha256⟩])
        = true ∧
      accepts (sampleManifest [⟨1, 0, 2, 8388666, sampleSha256⟩]) = true := by
  decide

theorem accepted_manifest_parts_sample :
    ∃ parts, accepts (sampleManifest parts) = true ∧
      ¬ ∀ other : RecordingManifest, accepts other = true →
        other.chunks = (sampleManifest parts).chunks →
        other.parts.map partLayout = (sampleManifest parts).parts.map partLayout := by
  refine ⟨_, same_chunks_two_part_lists.1, fun hdetermined => ?_⟩
  obtain ⟨-, -, -, -, -, -, -, hiff⟩ :=
    accepted_manifest_parts same_chunks_two_part_lists.1
  exact absurd (hiff.mp hdetermined) (by decide)

/-- The chunks of an accepted manifest do not determine its parts. -/
theorem chunks_leave_parts_open :
    ¬ ∀ manifest other : RecordingManifest, accepts manifest = true → accepts other = true →
      other.chunks = manifest.chunks →
      other.parts.map partLayout = manifest.parts.map partLayout := by
  intro hdetermined
  have hsame := hdetermined _ _ same_chunks_two_part_lists.1 same_chunks_two_part_lists.2 rfl
  exact absurd (congrArg List.length hsame) (by decide)

end RecordingManifestSchema

end Media

end UnderstandProof
