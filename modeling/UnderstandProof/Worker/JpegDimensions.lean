import Mathlib.Data.List.TakeWhile
import UnderstandProof.Media.Constants

/-!
# The dimensions of a JPEG

The walk over the markers of an inline frame. Every marker may stand behind fill bytes; a
segment says its length, and the first start of a frame says the dimensions. The walk tells
which bytes of segments it has read.
-/

namespace UnderstandProof

namespace Worker

open Media (Bytes)

structure FrameDimensions where
  width : ℕ
  height : ℕ
  deriving DecidableEq, Repr

def isStartOfFrameMarker (marker : UInt8) : Bool :=
  0xc0 ≤ marker && marker ≤ 0xcf && marker != 0xc4 && marker != 0xc8 && marker != 0xcc

/-- The markers that no segment follows. -/
def isParameterlessMarker (marker : UInt8) : Bool :=
  marker == 0x01 || (0xd0 ≤ marker && marker ≤ 0xd8)

/-- `(bytes[offset] << 8) | bytes[offset + 1]` -/
def readUint16 (bytes : Bytes) (offset : ℕ) : ℕ :=
  256 * (bytes.getD offset 0).toNat + (bytes.getD (offset + 1) 0).toNat

/-- Where the bytes `0xff` from an offset on end. -/
def afterFill (bytes : Bytes) (offset : ℕ) : ℕ :=
  offset + ((bytes.drop offset).takeWhile (· == 0xff)).length

inductive JpegStep where
  | finish (dimensions : Option FrameDimensions)
  | resume (offset : ℕ)
  deriving DecidableEq, Repr

/-- What follows a marker that has a segment. -/
def segmentStep (bytes : Bytes) (marker : UInt8) (offset : ℕ) : List ℕ × JpegStep :=
  if bytes.length ≤ offset + 1 then ([], .finish none)
  else
    let segmentLength := readUint16 bytes offset
    if segmentLength < 2 ∨ bytes.length < offset + segmentLength + 2 then
      ([offset, offset + 1], .finish none)
    else if isStartOfFrameMarker marker then
      if segmentLength < 8 then ([offset, offset + 1], .finish none)
      else
        ([offset, offset + 1, offset + 3, offset + 4, offset + 5, offset + 6],
          .finish (some
            { height := readUint16 bytes (offset + 3)
              width := readUint16 bytes (offset + 5) }))
    else ([offset, offset + 1], .resume (offset + segmentLength))

/-- The body of the loop, and the bytes of a segment that it reads. -/
def jpegStep (bytes : Bytes) (offset : ℕ) : List ℕ × JpegStep :=
  if bytes[offset]? ≠ some 0xff then ([], .finish none)
  else
    match bytes[afterFill bytes offset]? with
    | none => ([], .finish none)
    | some marker =>
        if marker = 0xd9 ∨ marker = 0xda then ([], .finish none)
        else if isParameterlessMarker marker then ([], .resume (afterFill bytes offset + 1))
        else segmentStep bytes marker (afterFill bytes offset + 1)

theorem segmentStep_resume {bytes : Bytes} {marker : UInt8} {offset next : ℕ} {reads : List ℕ}
    (h : segmentStep bytes marker offset = (reads, .resume next)) : offset < next := by
  unfold segmentStep at h
  dsimp only at h
  split at h
  · cases h
  · split at h
    · cases h
    · next hlength =>
      split at h
      · split at h <;> cases h
      · cases h
        omega

/-- The walk makes progress. -/
theorem jpegStep_resume {bytes : Bytes} {offset next : ℕ} {reads : List ℕ}
    (h : jpegStep bytes offset = (reads, .resume next)) : offset < next := by
  have hfill : offset ≤ afterFill bytes offset := Nat.le_add_right _ _
  unfold jpegStep at h
  split at h
  · cases h
  · split at h
    · cases h
    · split at h
      · cases h
      · split at h
        · cases h
          omega
        · have := segmentStep_resume h
          omega

/-- The loop from an offset on. -/
def jpegWalk (bytes : Bytes) (offset : ℕ) : List ℕ × Option FrameDimensions :=
  if offset + 3 < bytes.length then
    match hstep : jpegStep bytes offset with
    | (reads, .finish dimensions) => (reads, dimensions)
    | (reads, .resume next) =>
        have : offset < next := jpegStep_resume hstep
        let rest := jpegWalk bytes next
        (reads ++ rest.1, rest.2)
  else ([], none)
termination_by bytes.length - offset

def jpegDimensions (bytes : Bytes) : Option FrameDimensions := (jpegWalk bytes 2).2

/-- The bytes of segments that `jpegDimensions` reads. -/
def jpegSegmentReads (bytes : Bytes) : List ℕ := (jpegWalk bytes 2).1

/-! ## The bytes that are read -/

theorem segmentStep_reads {bytes : Bytes} {marker : UInt8} {offset : ℕ} :
    ∀ i ∈ (segmentStep bytes marker offset).1, i < bytes.length := by
  unfold segmentStep
  dsimp only
  split
  · simp
  · split
    · intro i hi
      simp only [List.mem_cons, List.not_mem_nil, or_false] at hi
      omega
    · split
      · split
        · intro i hi
          simp only [List.mem_cons, List.not_mem_nil, or_false] at hi
          omega
        · intro i hi
          simp only [List.mem_cons, List.not_mem_nil, or_false] at hi
          omega
      · intro i hi
        simp only [List.mem_cons, List.not_mem_nil, or_false] at hi
        omega

theorem jpegStep_reads {bytes : Bytes} {offset : ℕ} :
    ∀ i ∈ (jpegStep bytes offset).1, i < bytes.length := by
  unfold jpegStep
  split
  · simp
  · split
    · simp
    · split
      · simp
      · split
        · simp
        · exact segmentStep_reads

theorem jpegWalk_reads (bytes : Bytes) (offset : ℕ) :
    ∀ i ∈ (jpegWalk bytes offset).1, i < bytes.length := by
  induction offset using jpegWalk.induct bytes with
  | case1 offset hoffset reads dimensions hstep =>
      have hreads := @jpegStep_reads bytes offset
      rw [jpegWalk, if_pos hoffset]
      split
      · next heq =>
        rw [heq] at hreads
        exact hreads
      · next heq => exact nomatch hstep.symm.trans heq
  | case2 offset hoffset reads next hstep _ ih =>
      have hreads := @jpegStep_reads bytes offset
      rw [jpegWalk, if_pos hoffset]
      split
      · next heq => exact nomatch hstep.symm.trans heq
      · next heq =>
        cases hstep.symm.trans heq
        rw [hstep] at hreads
        intro i hi
        rcases List.mem_append.mp hi with hi | hi
        · exact hreads i hi
        · exact ih i hi
  | case3 offset hoffset =>
      rw [jpegWalk, if_neg hoffset]
      simp

/-! ## Well-formed files -/

def bigEndian16 (n : ℕ) : Bytes := [UInt8.ofNat (n / 256), UInt8.ofNat n]

/-- A marker behind `fill` fill bytes. -/
def markerBytes (fill : ℕ) (marker : UInt8) : Bytes := List.replicate (fill + 1) 0xff ++ [marker]

/-- A marker before the start of the frame, with its segment if it has one. -/
inductive MarkerSegment where
  | parameterless (fill : ℕ) (marker : UInt8) (hmarker : isParameterlessMarker marker = true)
  | segment (fill : ℕ) (marker : UInt8) (payload : Bytes)
      (hmarker : isParameterlessMarker marker = false ∧ isStartOfFrameMarker marker = false ∧
        marker ≠ 0xff ∧ marker ≠ 0xd9 ∧ marker ≠ 0xda)
      (hpayload : payload.length + 2 < 65536)

def MarkerSegment.bytes : MarkerSegment → Bytes
  | .parameterless fill marker _ => markerBytes fill marker
  | .segment fill marker payload _ _ =>
      markerBytes fill marker ++ (bigEndian16 (payload.length + 2) ++ payload)

/-- The start of a frame; `components` are the number of the components and what is said of
them. -/
structure FrameHeader where
  fill : ℕ
  marker : UInt8
  precision : UInt8
  height : ℕ
  width : ℕ
  components : Bytes
  hmarker : isStartOfFrameMarker marker = true
  hheight : height < 65536
  hwidth : width < 65536
  hcomponents : 0 < components.length ∧ components.length + 7 < 65536

def FrameHeader.bytes (header : FrameHeader) : Bytes :=
  markerBytes header.fill header.marker ++
    (bigEndian16 (header.components.length + 7) ++
      (header.precision :: (bigEndian16 header.height ++
        (bigEndian16 header.width ++ header.components))))

def jpegBytes (segments : List MarkerSegment) (header : FrameHeader) (rest : Bytes) : Bytes :=
  [0xff, 0xd8] ++ (segments.flatMap MarkerSegment.bytes ++
    (header.bytes ++ (rest ++ [0xff, 0xd9])))

section Files

variable {front tail : Bytes} {fill : ℕ} {marker : UInt8} {n : ℕ}

theorem readUint16_append (h : n < 65536) :
    readUint16 (front ++ (bigEndian16 n ++ tail)) front.length = n := by
  have hfirst : (front ++ (bigEndian16 n ++ tail))[front.length]? = some (UInt8.ofNat (n / 256)) := by
    rw [List.getElem?_append_right le_rfl, Nat.sub_self]
    rfl
  have hsecond : (front ++ (bigEndian16 n ++ tail))[front.length + 1]? = some (UInt8.ofNat n) := by
    rw [List.getElem?_append_right (Nat.le_add_right _ _), Nat.add_sub_cancel_left]
    rfl
  rw [readUint16, List.getD_eq_getElem?_getD, List.getD_eq_getElem?_getD, hfirst, hsecond]
  simp only [Option.getD_some, UInt8.toNat_ofNat']
  omega

theorem afterFill_append (hmarker : marker ≠ 0xff) :
    afterFill (front ++ (markerBytes fill marker ++ tail)) front.length =
      front.length + (fill + 1) := by
  have hfirst : (List.replicate (fill + 1) (0xff : UInt8)).takeWhile (· == 0xff) =
      List.replicate (fill + 1) 0xff :=
    List.takeWhile_eq_self_iff.mpr fun byte hbyte => by
      rw [List.eq_of_mem_replicate hbyte]
      rfl
  have hlast : (marker :: tail).takeWhile (· == 0xff) = [] := by
    rw [List.takeWhile_cons_of_neg (by simpa using hmarker)]
  rw [afterFill, List.drop_left, markerBytes, List.append_assoc, List.takeWhile_append, hfirst,
    if_pos rfl, List.singleton_append, hlast, List.append_nil, List.length_replicate]

/-- The body of the loop at a marker. -/
theorem jpegStep_append (hmarker : marker ≠ 0xff ∧ marker ≠ 0xd9 ∧ marker ≠ 0xda) :
    jpegStep (front ++ (markerBytes fill marker ++ tail)) front.length =
      if isParameterlessMarker marker then ([], .resume (front ++ markerBytes fill marker).length)
      else segmentStep (front ++ (markerBytes fill marker ++ tail)) marker
        (front ++ markerBytes fill marker).length := by
  have hfirst : (front ++ (markerBytes fill marker ++ tail))[front.length]? = some 0xff := by
    rw [List.getElem?_append_right le_rfl, Nat.sub_self]
    rfl
  have hmark : (front ++ (markerBytes fill marker ++ tail))[front.length + (fill + 1)]? =
      some marker := by
    rw [List.getElem?_append_right (Nat.le_add_right _ _), Nat.add_sub_cancel_left, markerBytes,
      List.append_assoc, List.getElem?_append_right (by simp)]
    simp
  have hlength : (front ++ markerBytes fill marker).length = front.length + (fill + 1) + 1 := by
    simp [markerBytes]
    omega
  unfold jpegStep
  rw [if_neg (by rw [hfirst]; simp), afterFill_append hmarker.1, hmark, hlength]
  dsimp only
  rw [if_neg (by simpa using hmarker.2)]

/-- A walk steps over what stands before the start of the frame. -/
theorem jpegWalk_segment (segment : MarkerSegment) (htail : 2 ≤ tail.length) :
    (jpegWalk (front ++ (segment.bytes ++ tail)) front.length).2 =
      (jpegWalk (front ++ (segment.bytes ++ tail)) (front ++ segment.bytes).length).2 := by
  obtain ⟨reads, hstep⟩ : ∃ reads, jpegStep (front ++ (segment.bytes ++ tail)) front.length =
      (reads, .resume (front ++ segment.bytes).length) := by
    cases segment with
    | parameterless fill marker hmarker =>
        refine ⟨[], ?_⟩
        rw [MarkerSegment.bytes, jpegStep_append, if_pos hmarker]
        refine ⟨?_, ?_, ?_⟩ <;> rintro rfl <;> cases hmarker
    | segment fill marker payload hmarker hpayload =>
        obtain ⟨hparameters, hframe, hmarker⟩ := hmarker
        refine ⟨[(front ++ markerBytes fill marker).length,
          (front ++ markerBytes fill marker).length + 1], ?_⟩
        rw [MarkerSegment.bytes, List.append_assoc, jpegStep_append hmarker,
          if_neg (by simp [hparameters])]
        have hread : readUint16 (front ++ (markerBytes fill marker ++
            (bigEndian16 (payload.length + 2) ++ payload ++ tail)))
            (front ++ markerBytes fill marker).length = payload.length + 2 := by
          rw [← List.append_assoc, List.append_assoc (bigEndian16 _)]
          exact readUint16_append hpayload
        have hlength : (front ++ (markerBytes fill marker ++
            (bigEndian16 (payload.length + 2) ++ payload ++ tail))).length =
            (front ++ markerBytes fill marker).length + (payload.length + 2) + tail.length := by
          simp only [List.length_append, bigEndian16, List.length_cons, List.length_nil]
          omega
        unfold segmentStep
        dsimp only
        rw [hread, hlength, if_neg (by omega), if_neg (by omega), if_neg (by simp [hframe])]
        simp only [List.length_append, bigEndian16, List.length_cons, List.length_nil]
        congr 2
        omega
  have hlength : 2 ≤ segment.bytes.length := by
    cases segment with
    | parameterless fill marker hmarker =>
        simp [MarkerSegment.bytes, markerBytes]
    | segment fill marker payload hmarker hpayload =>
        simp [MarkerSegment.bytes, markerBytes]
        omega
  rw [jpegWalk, if_pos (by simp only [List.length_append]; omega)]
  split
  · next heq => exact nomatch hstep.symm.trans heq
  · next heq =>
    cases hstep.symm.trans heq
    rfl

/-- The start of the frame says the dimensions. -/
theorem jpegWalk_header (header : FrameHeader) (htail : 2 ≤ tail.length) :
    (jpegWalk (front ++ (header.bytes ++ tail)) front.length).2 =
      some { height := header.height, width := header.width } := by
  obtain ⟨fill, marker, precision, height, width, components, hframe, hheight, hwidth,
    hcomponents⟩ := header
  obtain ⟨hparameters, hmarker⟩ : isParameterlessMarker marker = false ∧
      marker ≠ 0xff ∧ marker ≠ 0xd9 ∧ marker ≠ 0xda := by
    simp only [isStartOfFrameMarker, Bool.and_eq_true, decide_eq_true_eq] at hframe
    obtain ⟨⟨⟨⟨hlow, hhigh⟩, -⟩, -⟩, -⟩ := hframe
    simp only [isParameterlessMarker, Bool.or_eq_false_iff, Bool.and_eq_false_iff, beq_eq_false_iff_ne,
      decide_eq_false_iff_not, ne_eq, UInt8.le_iff_toNat_le, ← UInt8.toNat_inj] at hlow hhigh ⊢
    simp only [UInt8.toNat_ofNat] at hlow hhigh ⊢
    omega
  obtain ⟨bytes, hbytes⟩ : ∃ bytes, front ++ (FrameHeader.bytes ⟨fill, marker, precision, height,
      width, components, hframe, hheight, hwidth, hcomponents⟩ ++ tail) = bytes := ⟨_, rfl⟩
  obtain ⟨before, hbefore⟩ : ∃ before, front ++ markerBytes fill marker = before := ⟨_, rfl⟩
  have hsegment : bytes = before ++ (bigEndian16 (components.length + 7) ++
      (precision :: (bigEndian16 height ++ (bigEndian16 width ++ components)) ++ tail)) := by
    rw [← hbytes, ← hbefore]
    simp [FrameHeader.bytes]
  have hlength : bytes.length = before.length + (components.length + 7) + tail.length := by
    rw [hsegment]
    simp [bigEndian16]
    omega
  have hsize : readUint16 bytes before.length = components.length + 7 := by
    rw [hsegment]
    exact readUint16_append hcomponents.2
  have hheightRead : readUint16 bytes (before.length + 3) = height := by
    have hfront : (before ++ bigEndian16 (components.length + 7) ++ [precision]).length =
        before.length + 3 := by simp [bigEndian16]
    have hrow : bytes = before ++ bigEndian16 (components.length + 7) ++ [precision] ++
        (bigEndian16 height ++ (bigEndian16 width ++ components ++ tail)) := by
      rw [hsegment]
      simp
    rw [hrow, ← hfront]
    exact readUint16_append hheight
  have hwidthRead : readUint16 bytes (before.length + 5) = width := by
    have hfront : (before ++ bigEndian16 (components.length + 7) ++ [precision] ++
        bigEndian16 height).length = before.length + 5 := by simp [bigEndian16]
    have hrow : bytes = before ++ bigEndian16 (components.length + 7) ++ [precision] ++
        bigEndian16 height ++ (bigEndian16 width ++ (components ++ tail)) := by
      rw [hsegment]
      simp
    rw [hrow, ← hfront]
    exact readUint16_append hwidth
  have hstep : jpegStep bytes front.length =
      ([before.length, before.length + 1, before.length + 3, before.length + 4,
        before.length + 5, before.length + 6],
        .finish (some { height := height, width := width })) := by
    rw [← hbytes, FrameHeader.bytes, List.append_assoc, jpegStep_append hmarker,
      if_neg (by simp [hparameters]), hbefore, ← List.append_assoc, hbefore, List.append_assoc,
      ← hsegment]
    unfold segmentStep
    dsimp only
    rw [hsize, hheightRead, hwidthRead, if_neg (by omega), if_neg (by omega), if_pos hframe,
      if_neg (by omega)]
  have hfill : front.length + 2 ≤ before.length := by
    rw [← hbefore]
    simp [markerBytes]
  rw [hbytes, jpegWalk, if_pos (by omega)]
  split
  · next heq =>
    cases hstep.symm.trans heq
    rfl
  · next heq => exact nomatch hstep.symm.trans heq

/-- A walk steps over all that stands before the start of the frame. -/
theorem jpegWalk_segments (segments : List MarkerSegment) (header : FrameHeader)
    (htail : 2 ≤ tail.length) :
    (jpegWalk (front ++ (segments.flatMap MarkerSegment.bytes ++ (header.bytes ++ tail)))
      front.length).2 = some { height := header.height, width := header.width } := by
  induction segments generalizing front with
  | nil => exact jpegWalk_header header htail
  | cons segment segments ih =>
      have hrest : 2 ≤ (segments.flatMap MarkerSegment.bytes ++ (header.bytes ++ tail)).length := by
        simp only [List.length_append]
        omega
      rw [List.flatMap_cons, List.append_assoc, jpegWalk_segment segment hrest, ← List.append_assoc]
      exact ih

end Files

/-- Every walk ends and reads no byte of a segment behind the end; and the dimensions of a
well-formed file are those of the start of its frame. -/
theorem jpegDimensions_exact :
    (∀ bytes : Bytes, ∀ i ∈ jpegSegmentReads bytes, i < bytes.length) ∧
    ∀ (segments : List MarkerSegment) (header : FrameHeader) (rest : Bytes),
      jpegDimensions (jpegBytes segments header rest) =
        some { height := header.height, width := header.width } := by
  refine ⟨fun bytes => jpegWalk_reads bytes 2, fun segments header rest => ?_⟩
  exact @jpegWalk_segments [0xff, 0xd8] (rest ++ [0xff, 0xd9]) segments header (by simp)

end Worker

end UnderstandProof
