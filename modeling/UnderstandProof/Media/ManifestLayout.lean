import UnderstandProof.Media.Schemas

/-!
# The layout of an accepted manifest

The refinement of the manifest schema is two walks that collect issues. It adds
none exactly when the chunks carry the indices, lengths and nonces of their
positions and every part is the window of the chunks it names: `Layout` says so
without the walks.
-/

open Foundation Foundation.Tiling

namespace UnderstandProof

namespace Media

namespace RecordingManifestSchema

/-- The lengths of the records that the chunks stand for. -/
def recordLengths (chunks : List ManifestChunk) : List ℕ :=
  chunks.map fun chunk => recordHeaderBytes + chunk.sealedBytes

/-- The lengths of the parts. -/
def partLengths (parts : List ManifestPart) : List ℕ :=
  parts.map ManifestPart.byteLength

theorem recordLengths_pos (chunks : List ManifestChunk) :
    ∀ n ∈ recordLengths chunks, 0 < n := by
  intro n hn
  obtain ⟨chunk, -, rfl⟩ := List.mem_map.mp hn
  simp only [recordHeaderBytes]
  omega

@[simp] theorem length_recordLengths (chunks : List ManifestChunk) :
    (recordLengths chunks).length = chunks.length := by
  simp [recordLengths]

@[simp] theorem length_partLengths (parts : List ManifestPart) :
    (partLengths parts).length = parts.length := by
  simp [partLengths]

theorem offset_partLengths_succ {parts : List ManifestPart} {k : ℕ}
    (hk : k < parts.length) :
    offset (partLengths parts) (k + 1) =
      offset (partLengths parts) k + parts[k].byteLength := by
  rw [offset_succ (by rwa [length_partLengths])]
  simp [partLengths]

/-! ## The walk over the chunks -/

/-- What the walk checks of the chunk at `index`. -/
structure ChunkChecked (noncePrefix : Bytes) (chunk : ManifestChunk) (index : ℕ) :
    Prop where
  prefix_length : noncePrefix.length = noncePrefixBytes
  index_le : index ≤ maxUint32
  index_eq : chunk.index = index
  sealed_eq : chunk.sealedBytes = chunk.plaintextBytes + aesGcmTagBytes
  nonce_eq : chunk.nonce = encodeBase64Url (noncePrefix ++ uint32be index)

/-- The variables after a walk over `chunks` that added no issue. -/
def ChunkScan.after (chunks : List ManifestChunk) : ChunkScan where
  plaintextTotal := (chunks.map ManifestChunk.plaintextBytes).sum
  objectTotal := (recordLengths chunks).sum
  nonces := chunks.map ManifestChunk.nonce
  chunkOffsets := offsets (recordLengths chunks)
  issues := []

theorem ChunkScan.visit_clean_iff {noncePrefix : Bytes} {chunks : List ManifestChunk}
    {chunk : ManifestChunk} {index : ℕ} {scan : ChunkScan} :
    ((ChunkScan.after chunks).visit noncePrefix (chunk, index) = .ok scan ∧
        scan.issues = []) ↔
      ChunkChecked noncePrefix chunk index ∧
        chunk.nonce ∉ chunks.map ManifestChunk.nonce ∧
        scan = ChunkScan.after (chunks ++ [chunk]) := by
  have hafter : ∀ issues, issues = [] →
      ({ plaintextTotal := (ChunkScan.after chunks).plaintextTotal + chunk.plaintextBytes
         objectTotal := (ChunkScan.after chunks).objectTotal +
           (recordHeaderBytes + chunk.sealedBytes)
         nonces := (ChunkScan.after chunks).nonces ++ [chunk.nonce]
         chunkOffsets := (ChunkScan.after chunks).chunkOffsets ++
           [(ChunkScan.after chunks).objectTotal + (recordHeaderBytes + chunk.sealedBytes)]
         issues } : ChunkScan) = ChunkScan.after (chunks ++ [chunk]) := by
    rintro _ rfl
    simp [ChunkScan.after, recordLengths, offsets_concat]
  rw [ChunkScan.visit, bind_eq_ok]
  simp only [buildChunkNonce_eq_ok, except_pure, Except.ok.injEq]
  constructor
  · rintro ⟨⟨_, ⟨hpre, hle, rfl⟩, rfl⟩, hissues⟩
    have hchecks := hissues
    simp only [List.append_eq_nil_iff, issueIf_eq_nil, not_not] at hchecks
    obtain ⟨-, ⟨⟨hindex, hsealed⟩, hnonce⟩, hfresh⟩ := hchecks
    subst hindex
    exact ⟨⟨hpre, hle, rfl, hsealed, hnonce⟩, hfresh, hafter _ hissues⟩
  · rintro ⟨h, hfresh, rfl⟩
    have hindex := h.index_eq
    subst hindex
    refine ⟨⟨_, ⟨h.prefix_length, h.index_le, rfl⟩, hafter _ ?_⟩, rfl⟩
    simp only [List.append_eq_nil_iff, issueIf_eq_nil, not_not]
    exact ⟨rfl, ⟨⟨trivial, h.sealed_eq⟩, h.nonce_eq⟩, hfresh⟩

/-- An issue stays: a walk without issues has added none on the way. -/
theorem ChunkScan.issues_of_visit {noncePrefix : Bytes} {scan next : ChunkScan}
    {item : ManifestChunk × ℕ} (h : scan.visit noncePrefix item = .ok next)
    (hnext : next.issues = []) : scan.issues = [] := by
  rw [ChunkScan.visit, bind_eq_ok] at h
  obtain ⟨_, -, h⟩ := h
  cases h
  exact (List.append_eq_nil_iff.mp hnext).1

theorem scanChunks_concat (noncePrefix : Bytes) (chunks : List ManifestChunk)
    (chunk : ManifestChunk) :
    scanChunks noncePrefix (chunks ++ [chunk]) =
      scanChunks noncePrefix chunks >>= fun scan =>
        scan.visit noncePrefix (chunk, chunks.length) := by
  rw [scanChunks, List.zipIdx_append, List.foldlM_append, Nat.zero_add]
  simp only [List.zipIdx_cons, List.zipIdx_nil, List.foldlM_cons, List.foldlM_nil,
    bind_pure, scanChunks]

/-- The walk adds no issue exactly when every chunk is checked at its position
and the nonces are distinct. -/
theorem scanChunks_clean_iff {noncePrefix : Bytes} {chunks : List ManifestChunk}
    {scan : ChunkScan} :
    (scanChunks noncePrefix chunks = .ok scan ∧ scan.issues = []) ↔
      (∀ i (hi : i < chunks.length), ChunkChecked noncePrefix chunks[i] i) ∧
        (chunks.map ManifestChunk.nonce).Nodup ∧ scan = ChunkScan.after chunks := by
  induction chunks using List.reverseRecOn generalizing scan with
  | nil =>
      constructor
      · rintro ⟨h, -⟩
        cases h
        exact ⟨by simp, List.nodup_nil, rfl⟩
      · rintro ⟨-, -, rfl⟩
        exact ⟨rfl, rfl⟩
  | append_singleton chunks chunk ih =>
      rw [scanChunks_concat, bind_eq_ok]
      constructor
      · rintro ⟨⟨before, hbefore, hvisit⟩, hissues⟩
        obtain ⟨hchecked, hnodup, rfl⟩ :=
          ih.mp ⟨hbefore, ChunkScan.issues_of_visit hvisit hissues⟩
        obtain ⟨hchunk, hfresh, rfl⟩ := ChunkScan.visit_clean_iff.mp ⟨hvisit, hissues⟩
        refine ⟨forall_getElem_concat.mpr ⟨hchecked, hchunk⟩, ?_, rfl⟩
        · rw [List.map_append, List.map_singleton, List.nodup_append_comm]
          exact List.nodup_cons.mpr ⟨hfresh, hnodup⟩
      · rintro ⟨hchecked, hnodup, rfl⟩
        rw [List.map_append, List.map_singleton, List.nodup_append_comm] at hnodup
        obtain ⟨hfresh, hnodup⟩ := List.nodup_cons.mp hnodup
        obtain ⟨hbefore, hchunk⟩ := forall_getElem_concat.mp hchecked
        obtain ⟨hvisit, hissues⟩ :=
          ChunkScan.visit_clean_iff.mpr ⟨hchunk, hfresh, rfl⟩
        exact ⟨⟨_, (ih.mpr ⟨hbefore, hnodup, rfl⟩).1, hvisit⟩, hissues⟩

/-! ## The search for the chunks of a part -/

theorem findIndex_eq_iff {α : Type} {test : α → ℕ → Bool} {items : List α} {a : ℕ} :
    findIndex test items = a ↔
      ∃ ha : a < items.length, test items[a] a ∧
        ∀ j (hj : j < items.length), j < a → ¬ test items[j] j := by
  have hfound : findIndex test items = a ↔
      items.zipIdx.findIdx? (fun entry => test entry.1 entry.2) = some a := by
    rw [findIndex]
    split
    · next i hi => simp [hi]
    · next hnone => simp [hnone]
  rw [hfound, List.findIdx?_eq_some_iff_getElem]
  simp only [List.length_zipIdx, List.getElem_zipIdx, Nat.zero_add]
  constructor
  · rintro ⟨ha, htest, hmin⟩
    exact ⟨ha, htest, fun j _ hja => hmin j hja⟩
  · rintro ⟨ha, htest, hmin⟩
    exact ⟨ha, htest, fun j hja => hmin j (hja.trans ha) hja⟩

/-- `findIndex` finds the chunk that holds the start of the part. -/
theorem expectedFirstChunk_eq_iff {L : List ℕ} {s a : ℕ} :
    expectedFirstChunk (offsets L) L.length s = a ↔
      a < L.length ∧ s < offset L (a + 1) ∧ ∀ j < a, offset L (j + 1) ≤ s := by
  have hnext : ∀ j < L.length, ∀ d, ((offsets L)[j + 1]?).getD d = offset L (j + 1) := by
    intro j hj d
    rw [getElem?_offsets (by omega), Option.getD_some]
  rw [expectedFirstChunk, findIndex_eq_iff]
  simp only [Bool.and_eq_true, decide_eq_true_eq, not_and, not_lt]
  constructor
  · rintro ⟨_, ⟨ha, hs⟩, hmin⟩
    rw [hnext a ha] at hs
    refine ⟨ha, hs, ?_⟩
    intro j hj
    have hle := hmin j (by rw [length_offsets]; omega) hj (by omega)
    rwa [hnext j (by omega)] at hle
  · rintro ⟨ha, hs, hmin⟩
    refine ⟨by rw [length_offsets]; omega, ⟨ha, ?_⟩, ?_⟩
    · rwa [hnext a ha]
    · intro j _ hj _
      rw [hnext j (by omega)]
      exact hmin j hj

/-- A scan that keeps the last index with a property. -/
theorem foldl_last_eq_iff {p : ℕ → Prop} [DecidablePred p] {n b : ℕ} :
    (List.range n).foldl (fun (last : ℤ) i => if p i then (i : ℤ) else last) (-1) = b ↔
      b < n ∧ p b ∧ ∀ j, b < j → j < n → ¬ p j := by
  induction n with
  | zero =>
      simp only [List.range_zero, List.foldl_nil, Nat.not_lt_zero, false_and, iff_false]
      omega
  | succ n ih =>
      rw [List.range_succ, List.foldl_append, List.foldl_cons, List.foldl_nil]
      by_cases hn : p n
      · rw [if_pos hn]
        constructor
        · intro hb
          obtain rfl : n = b := by omega
          exact ⟨Nat.lt_succ_self _, hn, fun j hj hj' => by omega⟩
        · rintro ⟨hb, hp, hlast⟩
          by_contra hne
          exact hlast n (by omega) (Nat.lt_succ_self _) hn
      · rw [if_neg hn, ih]
        constructor
        · rintro ⟨hb, hp, hlast⟩
          refine ⟨by omega, hp, ?_⟩
          intro j hj hj'
          by_cases hjn : j = n
          · rwa [hjn]
          · exact hlast j hj (by omega)
        · rintro ⟨hb, hp, hlast⟩
          have hbn : b ≠ n := by
            rintro rfl
            exact hn hp
          exact ⟨by omega, hp, fun j hj hj' => hlast j hj (by omega)⟩

/-- The scan ends at the last chunk that starts before the end of the part. -/
theorem expectedLastChunk_eq_iff {L : List ℕ} {e b : ℕ} :
    expectedLastChunk (offsets L) L.length e = b ↔
      b < L.length ∧ offset L b < e ∧ ∀ j, b < j → j < L.length → e ≤ offset L j := by
  have hstep : expectedLastChunk (offsets L) L.length e =
      (List.range L.length).foldl
        (fun (last : ℤ) i => if offset L i < e then (i : ℤ) else last) (-1) := by
    apply List.foldl_ext
    intro last i hi
    rw [getElem?_offsets (List.mem_range.mp hi).le]
  rw [hstep, foldl_last_eq_iff]
  simp only [not_lt]

/-- The two searches give exactly the first and the last chunk of the window of
the part. -/
theorem expectedChunks_iff_window {L : List ℕ} {s e a b : ℕ} (hse : s < e) :
    (¬ (L.sum < e ∨ expectedFirstChunk (offsets L) L.length s < 0 ∨
        expectedLastChunk (offsets L) L.length e <
          expectedFirstChunk (offsets L) L.length s ∨
        (a : ℤ) ≠ expectedFirstChunk (offsets L) L.length s ∨
        (b : ℤ) ≠ expectedLastChunk (offsets L) L.length e)) ↔
      Window L s e a b := by
  constructor
  · intro h
    simp only [not_or, not_lt, not_not] at h
    obtain ⟨hsum, -, hle, ha, hb⟩ := h
    obtain ⟨ha, hs, hmin⟩ := expectedFirstChunk_eq_iff.mp ha.symm
    obtain ⟨hb, he, hmax⟩ := expectedLastChunk_eq_iff.mp hb.symm
    refine ⟨hse, ?_, hs, he, ?_⟩
    · cases a with
      | zero => simp
      | succ a => exact hmin a (Nat.lt_succ_self a)
    · by_cases hlast : b + 1 < L.length
      · exact hmax (b + 1) (Nat.lt_succ_self b) hlast
      · rwa [offset_of_length_le (by omega)]
  · intro h
    have ha : expectedFirstChunk (offsets L) L.length s = a := by
      refine expectedFirstChunk_eq_iff.mpr ⟨h.first_lt_length, h.lt_first, ?_⟩
      intro j hj
      exact (offset_mono (show j + 1 ≤ a by omega)).trans h.first_le
    have hb : expectedLastChunk (offsets L) L.length e = b := by
      refine expectedLastChunk_eq_iff.mpr ⟨h.last_lt_length, h.last_lt, ?_⟩
      intro j hj _
      exact h.le_last.trans (offset_mono hj)
    have hle := h.first_le_last
    have hsum := h.le_sum
    rw [ha, hb]
    omega

/-! ## The walk over the parts -/

/-- What the walk checks of the part at `index`, which starts at byte `start`. -/
structure PartChecked (manifest : RecordingManifest) (part : ManifestPart)
    (index start : ℕ) : Prop where
  number_eq : part.partNumber = index + 1
  window : Window (recordLengths manifest.chunks) start (start + part.byteLength)
    part.firstChunkIndex part.lastChunkIndex
  full : index + 1 < manifest.parts.length → part.byteLength = multipartTargetBytes

theorem PartScan.issues_visit_iff {manifest : RecordingManifest} {scan : PartScan}
    {part : ManifestPart} {index : ℕ} (hpos : 0 < part.byteLength) :
    (scan.visit manifest (ChunkScan.after manifest.chunks) (part, index)).issues = [] ↔
      scan.issues = [] ∧ PartChecked manifest part index scan.partByteTotal := by
  have hlength : manifest.chunks.length = (recordLengths manifest.chunks).length := by
    simp [recordLengths]
  have hfull : ¬ (index + 1 < manifest.parts.length ∧
      (part.byteLength < s3MinimumNonfinalPartBytes ∨
        part.byteLength ≠ multipartTargetBytes)) ↔
      (index + 1 < manifest.parts.length → part.byteLength = multipartTargetBytes) := by
    simp only [s3MinimumNonfinalPartBytes, multipartTargetBytes]
    omega
  have hwindow := expectedChunks_iff_window (L := recordLengths manifest.chunks)
    (s := scan.partByteTotal) (e := scan.partByteTotal + part.byteLength)
    (a := part.firstChunkIndex) (b := part.lastChunkIndex) (by omega)
  rw [PartScan.visit]
  simp only [List.append_eq_nil_iff, issueIf_eq_nil, hfull, hlength]
  rw [ChunkScan.after, hwindow, not_not]
  constructor
  · rintro ⟨hissues, ⟨hnumber, hrange⟩, hsize⟩
    exact ⟨hissues, hnumber, hrange, hsize⟩
  · rintro ⟨hissues, hnumber, hrange, hsize⟩
    exact ⟨hissues, ⟨hnumber, hrange⟩, hsize⟩

/-- The walk over a list of parts, from the start of the object. -/
theorem foldl_visit_parts {manifest : RecordingManifest} {parts : List ManifestPart}
    (hpos : ∀ part ∈ parts, 0 < part.byteLength) :
    let scan := parts.zipIdx.foldl
      (PartScan.visit manifest (ChunkScan.after manifest.chunks)) ⟨0, []⟩
    scan.partByteTotal = (partLengths parts).sum ∧
      (scan.issues = [] ↔ ∀ i (hi : i < parts.length),
        PartChecked manifest parts[i] i (offset (partLengths parts) i)) := by
  induction parts using List.reverseRecOn with
  | nil => exact ⟨rfl, by simp⟩
  | append_singleton parts part ih =>
      obtain ⟨htotal, hissues⟩ := ih fun p hp => hpos p (List.mem_append_left _ hp)
      have hpart : 0 < part.byteLength := hpos part (by simp)
      have hlength : parts.length = (partLengths parts).length := by simp [partLengths]
      simp only [List.zipIdx_append, List.foldl_append, Nat.zero_add, List.zipIdx_cons,
        List.zipIdx_nil, List.foldl_cons, List.foldl_nil]
      constructor
      · rw [PartScan.visit, htotal]
        simp [partLengths]
      · have hoffset : ∀ i ≤ parts.length,
            offset (partLengths (parts ++ [part])) i = offset (partLengths parts) i := by
          intro i hi
          rw [partLengths, List.map_append, ← partLengths,
            offset_append_of_le (by omega)]
        have hsum : (partLengths parts).sum = offset (partLengths parts) parts.length := by
          rw [hlength, offset_length]
        rw [PartScan.issues_visit_iff hpart, hissues, htotal,
          forall_getElem_concat (P := fun p i =>
            PartChecked manifest p i (offset (partLengths (parts ++ [part])) i)),
          hoffset _ le_rfl, hsum]
        refine and_congr_left fun _ => forall₂_congr fun i hi => ?_
        rw [hoffset i hi.le]

/-! ## Acceptance -/

/-- What the refinement establishes of a manifest under its nonce prefix. -/
structure Layout (manifest : RecordingManifest) (noncePrefix : Bytes) : Prop where
  prefix_eq : decodeBase64Url manifest.noncePrefixBase64url = .ok noncePrefix
  chunks : ∀ i (hi : i < manifest.chunks.length),
    ChunkChecked noncePrefix manifest.chunks[i] i
  nonces : (manifest.chunks.map ManifestChunk.nonce).Nodup
  plaintext_total : manifest.totalPlaintextBytes =
    (manifest.chunks.map ManifestChunk.plaintextBytes).sum
  object_total : manifest.totalObjectBytes = (recordLengths manifest.chunks).sum
  parts : ∀ i (hi : i < manifest.parts.length),
    PartChecked manifest manifest.parts[i] i (offset (partLengths manifest.parts) i)
  part_total : (partLengths manifest.parts).sum = manifest.totalObjectBytes

theorem superRefine_eq_nil_iff {manifest : RecordingManifest}
    (hpos : ∀ part ∈ manifest.parts, 0 < part.byteLength) :
    superRefine manifest = .ok [] ↔ ∃ noncePrefix, Layout manifest noncePrefix := by
  obtain ⟨htotal, hparts⟩ := foldl_visit_parts hpos
  rw [superRefine, bind_eq_ok]
  simp only [bind_eq_ok, except_pure, Except.ok.injEq, List.append_eq_nil_iff,
    issueIf_eq_nil, not_not]
  constructor
  · rintro ⟨noncePrefix, hpre, scan, hscan, ⟨⟨⟨hissues, hplain⟩, hobject⟩, hpart⟩, hsum⟩
    obtain ⟨hchunks, hnonces, rfl⟩ := scanChunks_clean_iff.mp ⟨hscan, hissues⟩
    exact ⟨noncePrefix, hpre, hchunks, hnonces, hplain, hobject, hparts.mp hpart,
      htotal.symm.trans hsum⟩
  · rintro ⟨noncePrefix, h⟩
    obtain ⟨hscan, hissues⟩ := scanChunks_clean_iff.mpr ⟨h.chunks, h.nonces, rfl⟩
    exact ⟨noncePrefix, h.prefix_eq, _, hscan,
      ⟨⟨⟨hissues, h.plaintext_total⟩, h.object_total⟩, hparts.mpr h.parts⟩,
      htotal.trans h.part_total⟩

theorem byteLength_pos_of_shape {manifest : RecordingManifest} (h : shape manifest = true) :
    ∀ part ∈ manifest.parts, 0 < part.byteLength := by
  intro part hpart
  simp only [shape, Bool.and_eq_true, List.all_eq_true] at h
  have hp := h.2 part hpart
  simp only [ManifestPartSchema.accepts, Bool.and_eq_true, decide_eq_true_eq] at hp
  omega

/-- A manifest is accepted exactly when its fields have the right shape and its
chunks and parts are laid out under its nonce prefix. -/
theorem accepts_iff {manifest : RecordingManifest} :
    accepts manifest = true ↔
      shape manifest = true ∧ ∃ noncePrefix, Layout manifest noncePrefix := by
  rw [accepts, Bool.and_eq_true]
  refine and_congr_right fun hshape => ?_
  rw [← superRefine_eq_nil_iff (byteLength_pos_of_shape hshape)]
  cases superRefine manifest with
  | error e => simp
  | ok issues => simp

end RecordingManifestSchema

end Media

end UnderstandProof
