import Mathlib.Data.Nat.Bitwise
import UnderstandProof.Foundation.Except
import UnderstandProof.Media.Constants

/-!
# Byte encodings

Comparison of byte strings, big-endian integers, hexadecimal and unpadded
base64url. The base64url decoder shifts every digit into a 32-bit buffer that it
never clears; only its lowest bits are read, so decoding an encoded byte string
returns it whatever the buffer has held before.
-/

open Foundation

namespace UnderstandProof

namespace Media

/-! ## Comparison and big-endian integers -/

/-- Compares without an early exit: the difference collects the lengths and
every pair of bytes, missing bytes counting as zero. -/
def bytesEqual (left right : Bytes) : Bool :=
  (List.range (max left.length right.length)).foldl
    (fun difference index =>
      difference ||| ((left.getD index 0).toNat ^^^ (right.getD index 0).toNat))
    (left.length ^^^ right.length) == 0

theorem foldl_lor_eq_zero_iff {α : Type*} (f : α → ℕ) (l : List α) (n : ℕ) :
    l.foldl (fun d a => d ||| f a) n = 0 ↔ n = 0 ∧ ∀ a ∈ l, f a = 0 := by
  induction l generalizing n with
  | nil => simp
  | cons a l ih =>
      rw [List.foldl_cons, ih, Nat.or_eq_zero_iff]
      simp [and_assoc]

@[simp] theorem bytesEqual_iff (left right : Bytes) :
    bytesEqual left right = true ↔ left = right := by
  unfold bytesEqual
  rw [beq_iff_eq, foldl_lor_eq_zero_iff]
  simp only [Nat.xor_eq_zero_iff, List.mem_range]
  constructor
  · rintro ⟨hlength, hbytes⟩
    apply List.ext_getElem hlength
    intro i hl hr
    have hi := hbytes i (lt_max_of_lt_left hl)
    rw [List.getD_eq_getElem _ _ hl, List.getD_eq_getElem _ _ hr] at hi
    exact UInt8.toNat_inj.mp hi
  · rintro rfl
    exact ⟨rfl, fun _ _ => rfl⟩

theorem bytesEqual_eq_false_iff {left right : Bytes} :
    bytesEqual left right = false ↔ left ≠ right := by
  rw [← Bool.not_eq_true, bytesEqual_iff]

/-- `DataView.setUint16` and `setUint32`, big-endian. -/
def uint16be (n : ℕ) : Bytes := [UInt8.ofNat (n / 2 ^ 8), UInt8.ofNat n]

def uint32be (n : ℕ) : Bytes :=
  [UInt8.ofNat (n / 2 ^ 24), UInt8.ofNat (n / 2 ^ 16), UInt8.ofNat (n / 2 ^ 8),
    UInt8.ofNat n]

/-- The big-endian value of a byte string. -/
def beValue (bytes : Bytes) : ℕ := bytes.foldl (fun n b => n * 256 + b.toNat) 0

/-- The value of the `count` bytes at `offset`, big-endian; `getUint8`,
`getUint16` and `getUint32` are the counts 1, 2 and 4. -/
def getUint (count : ℕ) (bytes : Bytes) (offset : ℕ) : ℕ :=
  beValue ((bytes.drop offset).take count)

@[simp] theorem length_uint32be (n : ℕ) : (uint32be n).length = 4 := rfl

@[simp] theorem beValue_concat (bytes : Bytes) (b : UInt8) :
    beValue (bytes ++ [b]) = beValue bytes * 256 + b.toNat := by
  simp [beValue]

/-- Byte strings of one length are ordered by their values, so the value
determines the bytes. -/
theorem beValue_injective {left right : Bytes} (hlength : left.length = right.length)
    (h : beValue left = beValue right) : left = right := by
  induction left using List.reverseRecOn generalizing right with
  | nil => exact (List.length_eq_zero_iff.mp hlength.symm).symm
  | append_singleton left a ih =>
      rcases List.eq_nil_or_concat' right with rfl | ⟨right, b, rfl⟩
      · simp at hlength
      · rw [beValue_concat, beValue_concat] at h
        have ha := a.toNat_lt
        have hb := b.toNat_lt
        have hbytes : left = right := by
          apply ih
          · simpa using hlength
          · omega
        have hlast : a = b := by
          apply UInt8.toNat_inj.mp
          omega
        rw [hbytes, hlast]

theorem beValue_lt (bytes : Bytes) : beValue bytes < 256 ^ bytes.length := by
  induction bytes using List.reverseRecOn with
  | nil => simp [beValue]
  | append_singleton bytes b ih =>
      have hb := b.toNat_lt
      rw [beValue_concat, List.length_append, List.length_singleton, pow_succ]
      omega

theorem getUint_four_le (bytes : Bytes) (offset : ℕ) :
    getUint 4 bytes offset ≤ maxUint32 := by
  have hlt := beValue_lt ((bytes.drop offset).take 4)
  have hlength : ((bytes.drop offset).take 4).length ≤ 4 := List.length_take_le _ _
  have hpow := Nat.pow_le_pow_right (show 0 < 256 by omega) hlength
  simp only [getUint, maxUint32]
  omega

theorem beValue_uint32be {n : ℕ} (hn : n ≤ maxUint32) : beValue (uint32be n) = n := by
  simp only [maxUint32] at hn
  simp only [beValue, uint32be, List.foldl_cons, List.foldl_nil, UInt8.toNat_ofNat']
  omega

theorem uint32be_beValue {bytes : Bytes} (h : bytes.length = 4) :
    uint32be (beValue bytes) = bytes := by
  have hlt := beValue_lt bytes
  rw [h] at hlt
  apply beValue_injective (by rw [length_uint32be, h])
  exact beValue_uint32be (by simp only [maxUint32]; omega)

theorem uint32be_injective {m n : ℕ} (hm : m ≤ maxUint32) (hn : n ≤ maxUint32)
    (h : uint32be m = uint32be n) : m = n := by
  rw [← beValue_uint32be hm, ← beValue_uint32be hn, h]

/-! ## Hexadecimal -/

def hexDigit (n : ℕ) : UInt16 :=
  if n < 10 then UInt16.ofNat (0x30 + n) else UInt16.ofNat (0x57 + n)

def encodeHex (value : Bytes) : JsString :=
  value.flatMap fun byte => [hexDigit (byte.toNat / 16), hexDigit (byte.toNat % 16)]

/-! ## Unpadded base64url -/

def base64UrlAlphabet : JsString :=
  js "ABCDEFGHIJKLMNOPQRSTUVWXYZabcdefghijklmnopqrstuvwxyz0123456789-_"

def base64UrlChar (digit : ℕ) : UInt16 := base64UrlAlphabet.getD digit 0

def base64UrlLookup (c : UInt16) : Option ℕ :=
  base64UrlAlphabet.findIdx? fun character => character == c

/-- The digits of one group of at most three bytes: missing bytes count as zero
and cut the digits that would only hold them. -/
def base64UrlGroup (first : UInt8) (second third : Option UInt8) : List ℕ :=
  let aggregate := first.toNat * 2 ^ 16 + (second.getD 0).toNat * 2 ^ 8 +
    (third.getD 0).toNat
  [aggregate / 2 ^ 18 % 64, aggregate / 2 ^ 12 % 64] ++
    (if second.isSome then [aggregate / 2 ^ 6 % 64] else []) ++
    (if third.isSome then [aggregate % 64] else [])

def base64UrlDigits : Bytes → List ℕ
  | [] => []
  | [first] => base64UrlGroup first none none
  | [first, second] => base64UrlGroup first (some second) none
  | first :: second :: third :: rest =>
      base64UrlGroup first (some second) (some third) ++ base64UrlDigits rest

def encodeBase64Url (value : Bytes) : JsString :=
  (base64UrlDigits value).map base64UrlChar

/-- The loop state of the decoder: the 32-bit buffer, how many of its lowest
bits are still to be read, and the bytes written. -/
structure Base64UrlState where
  buffer : ℕ
  bufferedBits : ℕ
  result : Bytes
  deriving DecidableEq, Repr

def Base64UrlState.push (state : Base64UrlState) (decoded : ℕ) : Base64UrlState :=
  let buffer := (state.buffer * 2 ^ 6 + decoded) % 2 ^ 32
  let bufferedBits := state.bufferedBits + 6
  if 8 ≤ bufferedBits then
    { buffer, bufferedBits := bufferedBits - 8
      result := state.result ++ [UInt8.ofNat (buffer / 2 ^ (bufferedBits - 8))] }
  else { state with buffer, bufferedBits }

def notCanonicalBase64Url : RecordingProtocolError :=
  ⟨.invalidSchema, "Value is not canonical unpadded base64url"⟩

/-- A character outside the alphabet is part of a surrogate pair or a single
code unit outside it, so the checks may look at code units one by one. -/
def decodeBase64Url (value : JsString) : Except RecordingProtocolError Bytes := do
  rejectIf (value.length % 4 = 1 ∨ 0x3d ∈ value ∨
    ∃ character ∈ value, base64UrlLookup character = none) notCanonicalBase64Url
  let state ← value.foldlM
    (fun state character => match base64UrlLookup character with
      | none => throw notCanonicalBase64Url
      | some decoded => pure (Base64UrlState.push state decoded))
    (⟨0, 0, []⟩ : Base64UrlState)
  rejectIf (0 < state.bufferedBits ∧ state.buffer % 2 ^ state.bufferedBits ≠ 0)
    ⟨.invalidSchema, "Value has non-canonical base64url trailing bits"⟩
  return state.result

theorem base64UrlLookup_char : ∀ digit < 64,
    base64UrlLookup (base64UrlChar digit) = some digit ∧ base64UrlChar digit ≠ 0x3d := by
  decide

theorem base64UrlGroup_lt (first : UInt8) (second third : Option UInt8) :
    ∀ digit ∈ base64UrlGroup first second third, digit < 64 := by
  intro digit hdigit
  unfold base64UrlGroup at hdigit
  simp only [List.cons_append, List.nil_append, List.mem_cons, List.mem_append] at hdigit
  rcases hdigit with rfl | rfl | hdigit | hdigit
  · exact Nat.mod_lt _ (by omega)
  · exact Nat.mod_lt _ (by omega)
  · split at hdigit
    · rw [List.mem_singleton.mp hdigit]
      exact Nat.mod_lt _ (by omega)
    · exact absurd hdigit List.not_mem_nil
  · split at hdigit
    · rw [List.mem_singleton.mp hdigit]
      exact Nat.mod_lt _ (by omega)
    · exact absurd hdigit List.not_mem_nil

theorem base64UrlDigits_lt (value : Bytes) :
    ∀ digit ∈ base64UrlDigits value, digit < 64 := by
  induction value using base64UrlDigits.induct with
  | case1 => simp [base64UrlDigits]
  | case2 first => exact base64UrlGroup_lt _ _ _
  | case3 first second => exact base64UrlGroup_lt _ _ _
  | case4 first second third rest ih =>
      intro digit hdigit
      rcases List.mem_append.mp hdigit with hdigit | hdigit
      · exact base64UrlGroup_lt _ _ _ digit hdigit
      · exact ih digit hdigit

/-! The buffer holds 0, 6, 4 and 2 unread bits in turn. -/

theorem push_zero (buffer digit : ℕ) (result : Bytes) :
    Base64UrlState.push ⟨buffer, 0, result⟩ digit =
      ⟨(buffer * 2 ^ 6 + digit) % 2 ^ 32, 6, result⟩ := rfl

theorem push_six (buffer digit : ℕ) (result : Bytes) :
    Base64UrlState.push ⟨buffer, 6, result⟩ digit =
      ⟨(buffer * 2 ^ 6 + digit) % 2 ^ 32, 4,
        result ++ [UInt8.ofNat ((buffer * 2 ^ 6 + digit) % 2 ^ 32 / 2 ^ 4)]⟩ := rfl

theorem push_four (buffer digit : ℕ) (result : Bytes) :
    Base64UrlState.push ⟨buffer, 4, result⟩ digit =
      ⟨(buffer * 2 ^ 6 + digit) % 2 ^ 32, 2,
        result ++ [UInt8.ofNat ((buffer * 2 ^ 6 + digit) % 2 ^ 32 / 2 ^ 2)]⟩ := rfl

theorem push_two (buffer digit : ℕ) (result : Bytes) :
    Base64UrlState.push ⟨buffer, 2, result⟩ digit =
      ⟨(buffer * 2 ^ 6 + digit) % 2 ^ 32, 0,
        result ++ [UInt8.ofNat ((buffer * 2 ^ 6 + digit) % 2 ^ 32 / 2 ^ 0)]⟩ := rfl

/-- One group, read from a buffer with no bits left in it. -/
theorem foldl_push_group (first second third : UInt8) (buffer : ℕ) (result : Bytes) :
    (∃ buffer', (base64UrlGroup first none none).foldl Base64UrlState.push
      ⟨buffer, 0, result⟩ = ⟨buffer', 4, result ++ [first]⟩ ∧ buffer' % 2 ^ 4 = 0) ∧
    (∃ buffer', (base64UrlGroup first (some second) none).foldl Base64UrlState.push
      ⟨buffer, 0, result⟩ = ⟨buffer', 2, result ++ [first, second]⟩ ∧
        buffer' % 2 ^ 2 = 0) ∧
    (∃ buffer', (base64UrlGroup first (some second) (some third)).foldl
      Base64UrlState.push ⟨buffer, 0, result⟩ =
        ⟨buffer', 0, result ++ [first, second, third]⟩) := by
  have h₁ := first.toNat_lt
  have h₂ := second.toNat_lt
  have h₃ := third.toNat_lt
  simp only [base64UrlGroup, Option.getD_none, Option.getD_some, Option.isSome_none,
    Option.isSome_some, if_true, Bool.false_eq_true, if_false, List.append_nil,
    List.cons_append, List.nil_append, List.foldl_cons, List.foldl_nil, push_zero,
    push_six, push_four, push_two, List.append_assoc, UInt8.toNat_zero]
  refine ⟨⟨_, congrArg (Base64UrlState.mk _ _) ?_, ?_⟩,
    ⟨_, congrArg (Base64UrlState.mk _ _) ?_, ?_⟩,
    ⟨_, congrArg (Base64UrlState.mk _ _) ?_⟩⟩
  case refine_2 | refine_4 => omega
  all_goals
    refine congrArg (result ++ ·) ?_
    simp only [List.cons.injEq, and_true, ← UInt8.toNat_inj, UInt8.toNat_ofNat']
    omega

/-- The digits of a byte string, read from a buffer with no bits left in it,
give the byte string, and the bits left over are zero. -/
theorem foldl_push_digits (value : Bytes) (buffer : ℕ) (result : Bytes) :
    ∃ buffer' bits, buffer' % 2 ^ bits = 0 ∧
      (base64UrlDigits value).foldl Base64UrlState.push ⟨buffer, 0, result⟩ =
        ⟨buffer', bits, result ++ value⟩ := by
  induction value using base64UrlDigits.induct generalizing buffer result with
  | case1 => exact ⟨buffer, 0, Nat.mod_one _, by simp [base64UrlDigits]⟩
  | case2 first =>
      obtain ⟨⟨buffer', hfold, hzero⟩, -⟩ := foldl_push_group first 0 0 buffer result
      exact ⟨buffer', 4, hzero, hfold⟩
  | case3 first second =>
      obtain ⟨-, ⟨buffer', hfold, hzero⟩, -⟩ :=
        foldl_push_group first second 0 buffer result
      exact ⟨buffer', 2, hzero, hfold⟩
  | case4 first second third rest ih =>
      obtain ⟨-, -, buffer', hfold⟩ := foldl_push_group first second third buffer result
      obtain ⟨buffer'', bits, hzero, hrest⟩ :=
        ih buffer' (result ++ [first, second, third])
      refine ⟨buffer'', bits, hzero, ?_⟩
      rw [base64UrlDigits, List.foldl_append, hfold, hrest]
      simp

theorem length_base64UrlDigits_mod (value : Bytes) :
    (base64UrlDigits value).length % 4 ≠ 1 := by
  induction value using base64UrlDigits.induct with
  | case1 => simp [base64UrlDigits]
  | case2 first => simp [base64UrlDigits, base64UrlGroup]
  | case3 first second => simp [base64UrlDigits, base64UrlGroup]
  | case4 first second third rest ih =>
      simp only [base64UrlDigits, base64UrlGroup, Option.isSome_some, if_true,
        List.length_append, List.length_cons, List.length_nil]
      omega

/-- On characters of the alphabet the decoder folds over their digits. -/
theorem foldlM_lookup (digits : List ℕ) (hdigits : ∀ digit ∈ digits, digit < 64)
    (state : Base64UrlState) :
    (digits.map base64UrlChar).foldlM
      (fun state character => match base64UrlLookup character with
        | none => throw notCanonicalBase64Url
        | some decoded => pure (Base64UrlState.push state decoded)) state =
      (.ok (digits.foldl Base64UrlState.push state) :
        Except RecordingProtocolError Base64UrlState) := by
  induction digits generalizing state with
  | nil => rfl
  | cons digit digits ih =>
      have hlookup := (base64UrlLookup_char digit (hdigits digit List.mem_cons_self)).1
      simp only [List.map_cons, List.foldlM_cons, List.foldl_cons, hlookup,
        except_pure, except_ok_bind]
      exact ih (fun d hd => hdigits d (List.mem_cons_of_mem _ hd)) _

/-- Decoding an encoded byte string returns it. -/
@[simp] theorem decodeBase64Url_encodeBase64Url (value : Bytes) :
    decodeBase64Url (encodeBase64Url value) = .ok value := by
  have hdigits := base64UrlDigits_lt value
  obtain ⟨buffer, bits, hzero, hfold⟩ := foldl_push_digits value 0 []
  have hguard : ¬ ((encodeBase64Url value).length % 4 = 1 ∨
      0x3d ∈ encodeBase64Url value ∨
      ∃ character ∈ encodeBase64Url value, base64UrlLookup character = none) := by
    simp only [encodeBase64Url, List.length_map, List.mem_map, not_or, not_exists,
      not_and]
    refine ⟨length_base64UrlDigits_mod value, ?_, ?_⟩
    · exact fun digit hdigit => (base64UrlLookup_char digit (hdigits digit hdigit)).2
    · rintro _ ⟨digit, hdigit, rfl⟩
      simp [(base64UrlLookup_char digit (hdigits digit hdigit)).1]
  rw [decodeBase64Url, rejectIf_of_not hguard, except_ok_bind, encodeBase64Url,
    foldlM_lookup _ hdigits, except_ok_bind, hfold]
  rw [rejectIf_of_not (fun h => h.2 hzero)]
  simp

theorem encodeBase64Url_injective : Function.Injective encodeBase64Url := by
  intro left right h
  have hdecoded := congrArg decodeBase64Url h
  simpa using hdecoded

end Media

end UnderstandProof
