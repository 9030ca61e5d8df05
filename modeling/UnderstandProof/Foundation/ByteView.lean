import Mathlib.Data.List.TakeDrop
import Mathlib.Tactic.NormNum

/-!
# Writing and reading a byte buffer

Little-endian integers, and writes at an offset of a buffer. Writes that follow one
another from the front put their data in a row.
-/

namespace Foundation

namespace ByteView

/-- The `width` bytes of a number, the least significant first. -/
def littleEndian : ℕ → ℕ → List UInt8
  | 0, _ => []
  | width + 1, n => UInt8.ofNat n :: littleEndian width (n / 256)

/-- The number of little-endian bytes. -/
def value : List UInt8 → ℕ
  | [] => 0
  | byte :: bytes => byte.toNat + 256 * value bytes

@[simp] theorem length_littleEndian (width n : ℕ) : (littleEndian width n).length = width := by
  induction width generalizing n with
  | zero => rfl
  | succ width ih => rw [littleEndian, List.length_cons, ih]

/-- A number that fits is read as it was written. -/
theorem value_littleEndian {width n : ℕ} (h : n < 256 ^ width) :
    value (littleEndian width n) = n := by
  induction width generalizing n with
  | zero =>
      rw [pow_zero] at h
      rw [littleEndian, value]
      omega
  | succ width ih =>
      have hdiv : n / 256 < 256 ^ width := by
        rw [pow_succ'] at h
        exact Nat.div_lt_of_lt_mul h
      rw [littleEndian, value, ih hdiv, UInt8.toNat_ofNat']
      omega

/-- `set`, `setUint16` and `setUint32` within the buffer. -/
def put (buffer : List UInt8) (offset : ℕ) (data : List UInt8) : List UInt8 :=
  buffer.take offset ++ data ++ buffer.drop (offset + data.length)

/-- `subarray(offset, offset + length)` -/
def window (buffer : List UInt8) (offset length : ℕ) : List UInt8 :=
  (buffer.drop offset).take length

/-- Two windows that meet are one. -/
theorem window_append (buffer : List UInt8) {start mid stop : ℕ} (hstart : start ≤ mid)
    (hstop : mid ≤ stop) :
    window buffer start (mid - start) ++ window buffer mid (stop - mid) =
      window buffer start (stop - start) := by
  have hlength : stop - start = (mid - start) + (stop - mid) := by omega
  have hmid : mid = start + (mid - start) := by omega
  rw [window, window, window, hlength, List.take_add, List.drop_drop, ← hmid]

/-- `getUint16` and `getUint32`, little-endian. -/
def getUint (width : ℕ) (buffer : List UInt8) (offset : ℕ) : ℕ :=
  value (window buffer offset width)

/-- A number is read where it was written. -/
theorem getUint_of_window {width offset n : ℕ} {buffer : List UInt8}
    (hwindow : window buffer offset width = littleEndian width n) (h : n < 256 ^ width) :
    getUint width buffer offset = n := by
  rw [getUint, hwindow, value_littleEndian h]

/-- A list of writes, one after the other. -/
def putAll (buffer : List UInt8) (writes : List (ℕ × List UInt8)) : List UInt8 :=
  writes.foldl (fun buffer write => put buffer write.1 write.2) buffer

/-- Each write starts where the one before ended. -/
def Consecutive : ℕ → List (ℕ × List UInt8) → Prop
  | _, [] => True
  | offset, write :: writes =>
      write.1 = offset ∧ Consecutive (offset + write.2.length) writes

instance : ∀ (offset : ℕ) (writes : List (ℕ × List UInt8)),
    Decidable (Consecutive offset writes)
  | _, [] => isTrue trivial
  | offset, write :: writes =>
      have := instDecidableConsecutive (offset + write.2.length) writes
      inferInstanceAs (Decidable (_ ∧ _))

theorem putAll_append {done rest : List UInt8} {writes : List (ℕ × List UInt8)}
    (h : Consecutive done.length writes) :
    putAll (done ++ rest) writes =
      done ++ writes.flatMap Prod.snd ++ rest.drop (writes.flatMap Prod.snd).length := by
  induction writes generalizing done rest with
  | nil => simp [putAll]
  | cons write writes ih =>
      obtain ⟨offset, data⟩ := write
      obtain ⟨rfl, hrest⟩ := h
      have hput : put (done ++ rest) done.length data =
          (done ++ data) ++ rest.drop data.length := by
        rw [put, List.take_left' rfl, List.drop_append, List.drop_eq_nil_of_le (by omega),
          List.nil_append, Nat.add_sub_cancel_left]
      have hnext : putAll (done ++ rest) ((done.length, data) :: writes) =
          putAll (put (done ++ rest) done.length data) writes := rfl
      rw [hnext, hput, ih (by rw [List.length_append]; exact hrest)]
      simp only [List.flatMap_cons, List.append_assoc, List.drop_drop, List.length_append]

/-- Consecutive writes over a whole buffer leave their data. -/
theorem putAll_eq {buffer : List UInt8} {writes : List (ℕ × List UInt8)}
    (h : Consecutive 0 writes)
    (hlength : (writes.flatMap Prod.snd).length = buffer.length) :
    putAll buffer writes = writes.flatMap Prod.snd := by
  have hall : putAll ([] ++ buffer) writes = _ := putAll_append h
  rw [List.nil_append, List.nil_append] at hall
  rw [hall, hlength, List.drop_length, List.append_nil]

end ByteView

end Foundation
