import UnderstandProof.Foundation.JsString

/-!
# Decoding UTF-8

The decoder of the platform takes one byte at a time: between two bytes it knows
the bits of the current code point, how many continuation bytes are still needed
and the bounds of the next one. Feeding bytes in pieces is therefore feeding them
at once. A string without lone surrogates is decoded from its encoding, so the
encoding of such strings is injective.
-/

namespace Foundation

namespace JsString

/-- The decoder between two bytes. -/
structure Utf8Decoder where
  codePoint : ℕ
  needed : ℕ
  lower : ℕ
  upper : ℕ
  deriving DecidableEq, Repr

/-- The code units of a code point. -/
def codeUnits (codePoint : ℕ) : JsString :=
  if codePoint < 0x10000 then [UInt16.ofNat codePoint]
  else [UInt16.ofNat (0xd800 + (codePoint - 0x10000) / 0x400),
    UInt16.ofNat (0xdc00 + (codePoint - 0x10000) % 0x400)]

namespace Utf8Decoder

def start : Utf8Decoder := ⟨0, 0, 0x80, 0xbf⟩

/-- One byte; `none` where the bytes so far are no prefix of UTF-8. -/
def push (decoder : Utf8Decoder) (byte : UInt8) : Option (Utf8Decoder × JsString) :=
  let n := byte.toNat
  if decoder.needed = 0 then
    if n < 0x80 then some (start, [UInt16.ofNat n])
    else if 0xc2 ≤ n ∧ n ≤ 0xdf then some (⟨n % 32, 1, 0x80, 0xbf⟩, [])
    else if 0xe0 ≤ n ∧ n ≤ 0xef then
      some (⟨n % 16, 2, if n = 0xe0 then 0xa0 else 0x80, if n = 0xed then 0x9f else 0xbf⟩, [])
    else if 0xf0 ≤ n ∧ n ≤ 0xf4 then
      some (⟨n % 8, 3, if n = 0xf0 then 0x90 else 0x80, if n = 0xf4 then 0x8f else 0xbf⟩, [])
    else none
  else if decoder.lower ≤ n ∧ n ≤ decoder.upper then
    if decoder.needed = 1 then some (start, codeUnits (decoder.codePoint * 64 + n % 64))
    else some (⟨decoder.codePoint * 64 + n % 64, decoder.needed - 1, 0x80, 0xbf⟩, [])
  else none

/-- The bytes of a chunk, and the code units they complete. -/
def feed (decoder : Utf8Decoder) : List UInt8 → Option (Utf8Decoder × JsString)
  | [] => some (decoder, [])
  | byte :: rest =>
      (decoder.push byte).bind fun step =>
        (step.1.feed rest).map fun more => (more.1, step.2 ++ more.2)

@[simp] theorem feed_nil (decoder : Utf8Decoder) : decoder.feed [] = some (decoder, []) := rfl

theorem feed_cons (decoder : Utf8Decoder) (byte : UInt8) (rest : List UInt8) :
    decoder.feed (byte :: rest) = (decoder.push byte).bind fun step =>
      (step.1.feed rest).map fun more => (more.1, step.2 ++ more.2) := rfl

/-- Feeding in pieces is feeding at once. -/
theorem feed_append (decoder : Utf8Decoder) (first second : List UInt8) :
    decoder.feed (first ++ second) = (decoder.feed first).bind fun step =>
      (step.1.feed second).map fun more => (more.1, step.2 ++ more.2) := by
  induction first generalizing decoder with
  | nil => simp
  | cons byte rest ih =>
      rw [List.cons_append, feed_cons, feed_cons]
      cases decoder.push byte with
      | none => rfl
      | some step =>
          simp only [Option.bind_some, ih]
          cases step.1.feed rest with
          | none => rfl
          | some more =>
              simp [Function.comp_def]

theorem toNat_ofNat_of_lt {n : ℕ} (h : n < 0x100) : (UInt8.ofNat n).toNat = n := by
  rw [UInt8.toNat_ofNat', Nat.mod_eq_of_lt h]

theorem start_push_one {n : ℕ} (h : n < 0x80) :
    start.push (UInt8.ofNat n) = some (start, [UInt16.ofNat n]) := by
  simp only [push, toNat_ofNat_of_lt (by omega : n < 0x100), start]
  rw [if_pos trivial, if_pos h]

theorem start_push_two {n : ℕ} (hlower : 0xc2 ≤ n) (hupper : n ≤ 0xdf) :
    start.push (UInt8.ofNat n) = some (⟨n % 32, 1, 0x80, 0xbf⟩, []) := by
  simp only [push, toNat_ofNat_of_lt (by omega : n < 0x100), start]
  rw [if_pos trivial, if_neg (by omega), if_pos ⟨hlower, hupper⟩]

theorem start_push_three {n : ℕ} (hlower : 0xe0 ≤ n) (hupper : n ≤ 0xef) :
    start.push (UInt8.ofNat n) = some (⟨n % 16, 2, if n = 0xe0 then 0xa0 else 0x80,
      if n = 0xed then 0x9f else 0xbf⟩, []) := by
  simp only [push, toNat_ofNat_of_lt (by omega : n < 0x100), start]
  rw [if_pos trivial, if_neg (by omega), if_neg (by omega), if_pos ⟨hlower, hupper⟩]

theorem start_push_four {n : ℕ} (hlower : 0xf0 ≤ n) (hupper : n ≤ 0xf4) :
    start.push (UInt8.ofNat n) = some (⟨n % 8, 3, if n = 0xf0 then 0x90 else 0x80,
      if n = 0xf4 then 0x8f else 0xbf⟩, []) := by
  simp only [push, toNat_ofNat_of_lt (by omega : n < 0x100), start]
  rw [if_pos trivial, if_neg (by omega), if_neg (by omega), if_neg (by omega),
    if_pos ⟨hlower, hupper⟩]

theorem push_tail {codePoint needed lower upper n : ℕ} (hn : n < 0x100)
    (hlower : lower ≤ n) (hupper : n ≤ upper) :
    push ⟨codePoint, needed + 2, lower, upper⟩ (UInt8.ofNat n) =
      some (⟨codePoint * 64 + n % 64, needed + 1, 0x80, 0xbf⟩, []) := by
  simp only [push, toNat_ofNat_of_lt hn]
  rw [if_neg (by omega), if_pos ⟨hlower, hupper⟩, if_neg (by omega)]
  rfl

theorem push_last {codePoint lower upper n : ℕ} (hn : n < 0x100)
    (hlower : lower ≤ n) (hupper : n ≤ upper) :
    push ⟨codePoint, 1, lower, upper⟩ (UInt8.ofNat n) =
      some (start, codeUnits (codePoint * 64 + n % 64)) := by
  simp only [push, toNat_ofNat_of_lt hn]
  rw [if_neg (by omega), if_pos ⟨hlower, hupper⟩, if_pos trivial]

/-- A byte that completes nothing, then the rest. -/
theorem feed_cons_of_push {decoder next : Utf8Decoder} {byte : UInt8} {rest : List UInt8}
    (h : decoder.push byte = some (next, [])) :
    decoder.feed (byte :: rest) = next.feed rest := by
  rw [feed_cons, h]
  simp

theorem feed_singleton {decoder : Utf8Decoder} {byte : UInt8} :
    decoder.feed [byte] = decoder.push byte := by
  rw [feed_cons]
  cases decoder.push byte with
  | none => rfl
  | some step => simp

end Utf8Decoder

/-! ## Decoding what was encoded -/

/-- `String.prototype.isWellFormed`: no lone surrogates. -/
def isWellFormed : JsString → Bool
  | [] => true
  | [c] => !isHighSurrogate c && !isLowSurrogate c
  | c :: d :: rest =>
      if isHighSurrogate c && isLowSurrogate d then isWellFormed rest
      else !isHighSurrogate c && !isLowSurrogate c && isWellFormed (d :: rest)

theorem isHighSurrogate_iff {c : UInt16} :
    isHighSurrogate c = true ↔ 0xd800 ≤ c.toNat ∧ c.toNat ≤ 0xdbff := by
  simp [isHighSurrogate, UInt16.le_iff_toNat_le]

theorem isLowSurrogate_iff {c : UInt16} :
    isLowSurrogate c = true ↔ 0xdc00 ≤ c.toNat ∧ c.toNat ≤ 0xdfff := by
  simp [isLowSurrogate, UInt16.le_iff_toNat_le]

theorem codeUnits_toNat (c : UInt16) : codeUnits c.toNat = [c] := by
  have hlt := c.toNat_lt
  rw [codeUnits, if_pos (by omega), UInt16.ofNat_toNat]

/-- A code unit that is no surrogate is decoded from its bytes. -/
theorem feed_encodeUnit {c : UInt16} (hhigh : isHighSurrogate c = false)
    (hlow : isLowSurrogate c = false) :
    Utf8Decoder.start.feed (encodeUnit c) = some (Utf8Decoder.start, [c]) := by
  have hlt := c.toNat_lt
  have hnot : ¬ (0xd800 ≤ c.toNat ∧ c.toNat ≤ 0xdfff) := by
    have hh := mt (isHighSurrogate_iff (c := c)).mpr (by simp [hhigh])
    have hl := mt (isLowSurrogate_iff (c := c)).mpr (by simp [hlow])
    omega
  rw [← codeUnits_toNat c]
  simp only [encodeUnit, hhigh, hlow, Bool.or_self, Bool.false_eq_true, if_false]
  generalize c.toNat = n at hlt hnot
  by_cases hone : n < 0x80
  · rw [if_pos hone, Utf8Decoder.feed_singleton, Utf8Decoder.start_push_one hone, codeUnits,
      if_pos (by omega)]
  · rw [if_neg hone]
    by_cases htwo : n < 0x800
    · rw [if_pos htwo,
        Utf8Decoder.feed_cons_of_push (Utf8Decoder.start_push_two (by omega) (by omega)),
        Utf8Decoder.feed_singleton, Utf8Decoder.push_last (by omega) (by omega) (by omega)]
      congr 3
      omega
    · rw [if_neg htwo,
        Utf8Decoder.feed_cons_of_push (Utf8Decoder.start_push_three (by omega) (by omega)),
        Utf8Decoder.feed_cons_of_push (Utf8Decoder.push_tail (by omega)
          (by split <;> omega) (by split <;> omega)),
        Utf8Decoder.feed_singleton, Utf8Decoder.push_last (by omega) (by omega) (by omega)]
      congr 3
      omega

/-- The four bytes of a code point behind the first plane are decoded. -/
theorem feed_four {n : ℕ} (hlower : 0x10000 ≤ n) (hupper : n < 0x110000) :
    Utf8Decoder.start.feed [UInt8.ofNat (0xf0 + n / 262144),
      UInt8.ofNat (0x80 + n / 4096 % 64), UInt8.ofNat (0x80 + n / 64 % 64),
      UInt8.ofNat (0x80 + n % 64)] = some (Utf8Decoder.start, codeUnits n) := by
  rw [Utf8Decoder.feed_cons_of_push (Utf8Decoder.start_push_four (by omega) (by omega)),
    Utf8Decoder.feed_cons_of_push (Utf8Decoder.push_tail (by omega)
      (by split <;> omega) (by split <;> omega)),
    Utf8Decoder.feed_cons_of_push (Utf8Decoder.push_tail (by omega) (by omega) (by omega)),
    Utf8Decoder.feed_singleton, Utf8Decoder.push_last (by omega) (by omega) (by omega)]
  congr 3
  omega

/-- The code point of a surrogate pair has the pair as its code units. -/
theorem codeUnits_pair {high low : UInt16} {n : ℕ} (hhigh : isHighSurrogate high = true)
    (hlow : isLowSurrogate low = true)
    (hn : n = 0x10000 + (high.toNat - 0xd800) * 0x400 + (low.toNat - 0xdc00)) :
    codeUnits n = [high, low] ∧ 0x10000 ≤ n ∧ n < 0x110000 := by
  have hh := isHighSurrogate_iff.mp hhigh
  have hl := isLowSurrogate_iff.mp hlow
  refine ⟨?_, by omega, by omega⟩
  rw [codeUnits, if_neg (by omega), show 0xd800 + (n - 0x10000) / 0x400 = high.toNat by omega,
    show 0xdc00 + (n - 0x10000) % 0x400 = low.toNat by omega, UInt16.ofNat_toNat,
    UInt16.ofNat_toNat]

/-- A surrogate pair is decoded from its bytes. -/
theorem feed_encodePair {high low : UInt16} (hhigh : isHighSurrogate high = true)
    (hlow : isLowSurrogate low = true) :
    Utf8Decoder.start.feed (encodePair high low) = some (Utf8Decoder.start, [high, low]) := by
  obtain ⟨hunits, hlower, hupper⟩ := codeUnits_pair hhigh hlow rfl
  rw [← hunits]
  exact feed_four hlower hupper

/-- A string without lone surrogates is decoded from its encoding. -/
theorem feed_utf8Encode {s : JsString} (h : isWellFormed s = true) :
    Utf8Decoder.start.feed (utf8Encode s) = some (Utf8Decoder.start, s) := by
  fun_induction isWellFormed s with
  | case1 => rfl
  | case2 c =>
      simp only [Bool.and_eq_true, Bool.not_eq_true'] at h
      exact feed_encodeUnit h.1 h.2
  | case3 c d rest hpair ih =>
      obtain ⟨hhigh, hlow⟩ := Bool.and_eq_true_iff.mp hpair
      rw [utf8Encode, if_pos hpair, Utf8Decoder.feed_append, feed_encodePair hhigh hlow,
        Option.bind_some, ih h]
      rfl
  | case4 c d rest hpair ih =>
      simp only [Bool.and_eq_true, Bool.not_eq_true'] at h
      rw [utf8Encode, if_neg hpair, Utf8Decoder.feed_append, feed_encodeUnit h.1.1 h.1.2,
        Option.bind_some, ih h.2]
      rfl

theorem utf8Encode_injective {s t : JsString} (hs : isWellFormed s = true)
    (ht : isWellFormed t = true) (h : utf8Encode s = utf8Encode t) : s = t := by
  have hfeed := feed_utf8Encode hs
  rw [h, feed_utf8Encode ht] at hfeed
  exact ((Prod.mk.injEq _ _ _ _ ▸ Option.some.inj hfeed).2).symm

theorem isWellFormed_append {s t : JsString} (hs : isWellFormed s = true)
    (ht : isWellFormed t = true) : isWellFormed (s ++ t) = true := by
  fun_induction isWellFormed s with
  | case1 => exact ht
  | case2 c =>
      simp only [Bool.and_eq_true, Bool.not_eq_true'] at hs
      cases t with
      | nil => simp [isWellFormed, hs]
      | cons d rest =>
          simp [isWellFormed, hs, ht]
  | case3 c d rest hpair ih =>
      rw [List.cons_append, List.cons_append, isWellFormed, if_pos hpair]
      exact ih hs
  | case4 c d rest hpair ih =>
      simp only [Bool.and_eq_true, Bool.not_eq_true'] at hs
      rw [List.cons_append, List.cons_append, isWellFormed, if_neg hpair]
      simpa [hs.1] using ih hs.2

/-- A code unit that is no surrogate, in front of any text. -/
theorem utf8Encode_cons {c : UInt16} (h : isHighSurrogate c = false) (s : JsString) :
    utf8Encode (c :: s) = encodeUnit c ++ utf8Encode s := by
  cases s with
  | nil => simp [utf8Encode]
  | cons d rest => rw [utf8Encode, h, Bool.false_and, if_neg Bool.false_ne_true]

/-- U+FFFD in the place of a surrogate. -/
def replaceSurrogate (c : UInt16) : UInt16 :=
  if isHighSurrogate c || isLowSurrogate c then 0xfffd else c

/-- `String.prototype.toWellFormed`: lone surrogates are replaced by U+FFFD. -/
def toWellFormed : JsString → JsString
  | [] => []
  | [c] => [replaceSurrogate c]
  | c :: d :: rest =>
      if isHighSurrogate c && isLowSurrogate d then c :: d :: toWellFormed rest
      else replaceSurrogate c :: toWellFormed (d :: rest)

theorem not_surrogate_replaceSurrogate (c : UInt16) :
    isHighSurrogate (replaceSurrogate c) = false ∧
      isLowSurrogate (replaceSurrogate c) = false := by
  unfold replaceSurrogate
  split
  · decide
  · next h => simpa using h

theorem encodeUnit_replaceSurrogate (c : UInt16) :
    encodeUnit (replaceSurrogate c) = encodeUnit c := by
  unfold replaceSurrogate
  split
  · next h =>
    have hlower : 0xd800 ≤ c.toNat := by
      rcases Bool.or_eq_true_iff.mp h with hhigh | hlow
      · exact (isHighSurrogate_iff.mp hhigh).1
      · have := (isLowSurrogate_iff.mp hlow).1
        omega
    unfold encodeUnit
    rw [if_neg (by omega : ¬ c.toNat < 0x80), if_neg (by omega : ¬ c.toNat < 0x800), if_pos h]
    decide
  · rfl

theorem isWellFormed_cons {c : UInt16} {s : JsString} (hhigh : isHighSurrogate c = false)
    (hlow : isLowSurrogate c = false) (hs : isWellFormed s = true) :
    isWellFormed (c :: s) = true :=
  isWellFormed_append (s := [c]) (by simp [isWellFormed, hhigh, hlow]) hs

theorem isWellFormed_toWellFormed (s : JsString) : isWellFormed (toWellFormed s) = true := by
  fun_induction toWellFormed s with
  | case1 => rfl
  | case2 c =>
      obtain ⟨hhigh, hlow⟩ := not_surrogate_replaceSurrogate c
      simp [isWellFormed, hhigh, hlow]
  | case3 c d rest hpair ih =>
      rw [isWellFormed, if_pos hpair]
      exact ih
  | case4 c d rest hpair ih =>
      obtain ⟨hhigh, hlow⟩ := not_surrogate_replaceSurrogate c
      exact isWellFormed_cons hhigh hlow ih

/-- The encoder writes lone surrogates as U+FFFD. -/
theorem utf8Encode_toWellFormed (s : JsString) : utf8Encode (toWellFormed s) = utf8Encode s := by
  fun_induction toWellFormed s with
  | case1 => rfl
  | case2 c => exact encodeUnit_replaceSurrogate c
  | case3 c d rest hpair ih => rw [utf8Encode, if_pos hpair, utf8Encode, if_pos hpair, ih]
  | case4 c d rest hpair ih =>
      rw [utf8Encode_cons (not_surrogate_replaceSurrogate c).1, ih, encodeUnit_replaceSurrogate,
        utf8Encode, if_neg hpair]

/-- What is decoded of any encoding. -/
theorem feed_utf8Encode_toWellFormed (s : JsString) :
    Utf8Decoder.start.feed (utf8Encode s) = some (Utf8Decoder.start, toWellFormed s) := by
  rw [← utf8Encode_toWellFormed]
  exact feed_utf8Encode (isWellFormed_toWellFormed s)

theorem toWellFormed_eq_self_iff {s : JsString} :
    toWellFormed s = s ↔ isWellFormed s = true := by
  constructor
  · intro h
    exact h ▸ isWellFormed_toWellFormed s
  · intro h
    have hfeed := feed_utf8Encode_toWellFormed s
    rw [feed_utf8Encode h, Option.some_inj, Prod.mk.injEq] at hfeed
    exact hfeed.2.symm

/-! ## Decoding a stream -/

/-- The string without a byte order mark in front. -/
def dropBom : JsString → JsString
  | [] => []
  | c :: rest => if c = 0xfeff then rest else c :: rest

theorem dropBom_cons {c : UInt16} (h : c ≠ 0xfeff) (rest : JsString) :
    dropBom (c :: rest) = c :: rest := if_neg h

/-- `new TextDecoder("utf-8", { fatal: true })` between two chunks: a byte order mark
is dropped from the first text that is not empty. -/
structure TextDecoder where
  utf8 : Utf8Decoder
  bomSeen : Bool
  deriving DecidableEq, Repr

namespace TextDecoder

def new : TextDecoder := ⟨.start, false⟩

/-- What the decoder hands out of the text that a chunk completes. -/
def emit (decoder : TextDecoder) (utf8 : Utf8Decoder) (text : JsString) :
    TextDecoder × JsString :=
  if decoder.bomSeen then (⟨utf8, true⟩, text)
  else if text = [] then (⟨utf8, false⟩, [])
  else (⟨utf8, true⟩, dropBom text)

/-- `decode(chunk, { stream: true })`; `none` is a thrown error. -/
def decode (decoder : TextDecoder) (chunk : List UInt8) : Option (TextDecoder × JsString) :=
  (decoder.utf8.feed chunk).map fun step => decoder.emit step.1 step.2

/-- `decode()` at the end of the stream. -/
def flush (decoder : TextDecoder) : Option JsString :=
  if decoder.utf8.needed = 0 then some [] else none

/-- Decoding in chunks is decoding at once. -/
theorem decode_append (decoder : TextDecoder) (first second : List UInt8) :
    decoder.decode (first ++ second) = (decoder.decode first).bind fun step =>
      (step.1.decode second).map fun more => (more.1, step.2 ++ more.2) := by
  have hemit : ∀ (next : Utf8Decoder) (text : JsString),
      ((decoder.emit next text).1.utf8 = next) := by
    intro next text
    rw [emit]
    split
    · rfl
    · split <;> rfl
  rw [decode, decode, Utf8Decoder.feed_append]
  cases hfirst : decoder.utf8.feed first with
  | none => rfl
  | some step =>
      simp only [Option.bind_some, Option.map_some, decode, hemit, Option.map_map]
      cases hsecond : step.1.feed second with
      | none => rfl
      | some more =>
          simp only [Option.map_some, Function.comp_apply, Option.some.injEq]
          simp only [emit]
          by_cases hbom : decoder.bomSeen = true
          · simp [hbom]
          · by_cases htext : step.2 = []
            · simp [hbom, htext]
            · obtain ⟨c, rest, hcons⟩ := List.exists_cons_of_ne_nil htext
              by_cases hc : c = 0xfeff
              · simp [hbom, hcons, dropBom, hc]
              · simp [hbom, hcons, dropBom, hc]

end TextDecoder

end JsString

end Foundation
