import Mathlib.Data.List.DropRight
import Mathlib.Data.Nat.Digits.Lemmas
import Mathlib.Data.UInt

/-!
# JavaScript strings

A JavaScript string is the list of its UTF-16 code units, lone surrogates
included, so its `length` is the length of the list. The operations follow the
language: `trim` removes white space and line terminators at both ends, and
encoding to UTF-8 joins surrogate pairs and replaces lone surrogates by U+FFFD.
-/

namespace Foundation

/-- A JavaScript string: its UTF-16 code units. -/
abbrev JsString := List UInt16

instance : LawfulBEq JsString := inferInstance

/-- A string of ASCII characters, as written in the source. -/
def js (s : String) : JsString :=
  s.toList.map fun c => c.toNat.toUInt16

namespace JsString

/-- The code units that `String.prototype.trim` removes: the language's
WhiteSpace and LineTerminator productions. -/
def isWhiteSpace (c : UInt16) : Bool :=
  (0x09 ≤ c && c ≤ 0x0d) || c == 0x20 || c == 0xa0 || c == 0x1680 ||
    (0x2000 ≤ c && c ≤ 0x200a) || c == 0x2028 || c == 0x2029 || c == 0x202f ||
    c == 0x205f || c == 0x3000 || c == 0xfeff

/-- `String.prototype.trim`. -/
def trim (s : JsString) : JsString :=
  (s.dropWhile isWhiteSpace).rdropWhile isWhiteSpace

theorem rdropWhile_cons_of_not {α : Type*} {p : α → Bool} {a : α} (l : List α)
    (ha : ¬ p a) : (a :: l).rdropWhile p = a :: l.rdropWhile p := by
  induction l using List.reverseRecOn with
  | nil => simp [List.rdropWhile, ha]
  | append_singleton l b ih =>
      rw [← List.cons_append, List.rdropWhile_concat, List.rdropWhile_concat, ih]
      split <;> simp

/-- Trimming a trimmed string changes nothing. -/
@[simp] theorem trim_trim (s : JsString) : trim (trim s) = trim s := by
  unfold trim
  cases h : s.dropWhile isWhiteSpace with
  | nil => simp
  | cons c rest =>
      have hc : ¬ isWhiteSpace c := by
        have hne : s.dropWhile isWhiteSpace ≠ [] := by simp [h]
        have := List.head_dropWhile_not isWhiteSpace hne
        simpa [h] using this
      rw [rdropWhile_cons_of_not rest hc, List.dropWhile_cons_of_neg (by simpa using hc),
        ← rdropWhile_cons_of_not rest hc, List.rdropWhile_idempotent]

/-! ## UTF-8 -/

def isHighSurrogate (c : UInt16) : Bool := 0xd800 ≤ c && c ≤ 0xdbff

def isLowSurrogate (c : UInt16) : Bool := 0xdc00 ≤ c && c ≤ 0xdfff

/-- The UTF-8 bytes of a code unit that is not part of a surrogate pair. -/
def encodeUnit (c : UInt16) : List UInt8 :=
  let n := c.toNat
  if n < 0x80 then [UInt8.ofNat n]
  else if n < 0x800 then [UInt8.ofNat (0xc0 + n / 64), UInt8.ofNat (0x80 + n % 64)]
  else if isHighSurrogate c || isLowSurrogate c then [0xef, 0xbf, 0xbd]
  else [UInt8.ofNat (0xe0 + n / 4096), UInt8.ofNat (0x80 + n / 64 % 64),
    UInt8.ofNat (0x80 + n % 64)]

/-- The UTF-8 bytes of a surrogate pair. -/
def encodePair (high low : UInt16) : List UInt8 :=
  let n := 0x10000 + (high.toNat - 0xd800) * 0x400 + (low.toNat - 0xdc00)
  [UInt8.ofNat (0xf0 + n / 262144), UInt8.ofNat (0x80 + n / 4096 % 64),
    UInt8.ofNat (0x80 + n / 64 % 64), UInt8.ofNat (0x80 + n % 64)]

/-- `new TextEncoder().encode`. -/
def utf8Encode : JsString → List UInt8
  | [] => []
  | [c] => encodeUnit c
  | c :: d :: rest =>
      if isHighSurrogate c && isLowSurrogate d then encodePair c d ++ utf8Encode rest
      else encodeUnit c ++ utf8Encode (d :: rest)

/-! ## Decimal numbers -/

/-- A natural number as JavaScript prints it. -/
def decimal (n : ℕ) : JsString :=
  if n = 0 then [0x30]
  else (Nat.digits 10 n).reverse.map fun digit => UInt16.ofNat (0x30 + digit)

end JsString

/-! ## Hexadecimal digits and UUIDs -/

def isLowerHex (c : UInt16) : Bool :=
  (0x30 ≤ c && c ≤ 0x39) || (0x61 ≤ c && c ≤ 0x66)

def isHex (c : UInt16) : Bool :=
  isLowerHex c || (0x41 ≤ c && c ≤ 0x46)

/-- The five hexadecimal groups of a UUID, with the version digit `1` to `8`
and the variant digit `8`, `9`, `a` or `b`. -/
def isVersionedUuid (s : JsString) : Bool :=
  s.length == 36 &&
    (s.zipIdx.all fun ⟨c, i⟩ =>
      if i == 8 || i == 13 || i == 18 || i == 23 then c == 0x2d
      else if i == 14 then 0x31 ≤ c && c ≤ 0x38
      else if i == 19 then c == 0x38 || c == 0x39 || c == 0x61 || c == 0x62 ||
        c == 0x41 || c == 0x42
      else isHex c)

/-- `z.string().uuid()`: a versioned UUID, the nil UUID or the max UUID. -/
def isUuid (s : JsString) : Bool :=
  isVersionedUuid s || s == js "00000000-0000-0000-0000-000000000000" ||
    s == js "ffffffff-ffff-ffff-ffff-ffffffffffff"

end Foundation
