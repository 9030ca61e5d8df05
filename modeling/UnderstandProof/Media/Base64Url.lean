import UnderstandProof.Media.Encoding

/-!
# The texts that unpadded base64url accepts

The decoder never clears its buffer, which keeps only the lowest 32 bits of all digits read so far.
Between two groups of four digits no bit of it is unread, so whatever stands in it is shifted out of
reach of the next bytes. Read group by group, the digits of an accepted text are therefore the digits
of its bytes, and the decoder accepts what the encoder writes and nothing else.
-/

open Foundation

namespace UnderstandProof

namespace Media

/-! ## The digits of a character -/

theorem base64UrlChar_of_lookup {c : UInt16} {digit : ℕ} (h : base64UrlLookup c = some digit) :
    digit < 64 ∧ base64UrlChar digit = c := by
  obtain ⟨hlt, hfound, -⟩ := List.findIdx?_eq_some_iff_getElem.mp h
  have hlength : base64UrlAlphabet.length = 64 := by decide
  refine ⟨hlength ▸ hlt, ?_⟩
  rw [base64UrlChar, List.getD_eq_getElem _ _ hlt]
  exact beq_iff_eq.mp hfound

/-- A text of the alphabet is the text of its digits. -/
theorem exists_digits {value : JsString}
    (h : ∀ character ∈ value, base64UrlLookup character ≠ none) :
    ∃ digits : List ℕ, (∀ digit ∈ digits, digit < 64) ∧ digits.map base64UrlChar = value := by
  induction value with
  | nil => exact ⟨[], fun _ hdigit => absurd hdigit List.not_mem_nil, rfl⟩
  | cons c value ih =>
      obtain ⟨digits, hdigits, hmap⟩ :=
        ih fun other hother => h other (List.mem_cons_of_mem _ hother)
      obtain ⟨digit, hdigit⟩ := Option.ne_none_iff_exists'.mp (h c List.mem_cons_self)
      obtain ⟨hlt, hchar⟩ := base64UrlChar_of_lookup hdigit
      refine ⟨digit :: digits, List.forall_mem_cons.mpr ⟨hlt, hdigits⟩, ?_⟩
      rw [List.map_cons, hchar, hmap]

/-! ## The bytes of the digits -/

/-- The unread bits that are left in the buffer after the last digit are zero. -/
def HasCleanTail (state : Base64UrlState) : Prop :=
  0 < state.bufferedBits → state.buffer % 2 ^ state.bufferedBits = 0

/-- Two digits whose lowest four bits are zero. -/
theorem group_of_two {a b : ℕ} (ha : a < 64) (hb : b < 64) (hzero : b % 2 ^ 4 = 0) :
    base64UrlGroup (UInt8.ofNat (a * 4 + b / 16)) none none = [a, b] := by
  have hbyte : (UInt8.ofNat (a * 4 + b / 16)).toNat = a * 4 + b / 16 := by
    rw [UInt8.toNat_ofNat', Nat.mod_eq_of_lt (by omega)]
  simp only [base64UrlGroup, hbyte, Option.getD_none, UInt8.toNat_zero, Option.isSome_none,
    Bool.false_eq_true, if_false, List.append_nil, List.cons.injEq, and_true]
  omega

/-- Three digits whose lowest two bits are zero. -/
theorem group_of_three {a b c : ℕ} (ha : a < 64) (hb : b < 64) (hc : c < 64)
    (hzero : c % 2 ^ 2 = 0) :
    base64UrlGroup (UInt8.ofNat (a * 4 + b / 16)) (some (UInt8.ofNat (b % 16 * 16 + c / 4))) none =
      [a, b, c] := by
  have hfirst : (UInt8.ofNat (a * 4 + b / 16)).toNat = a * 4 + b / 16 := by
    rw [UInt8.toNat_ofNat', Nat.mod_eq_of_lt (by omega)]
  have hsecond : (UInt8.ofNat (b % 16 * 16 + c / 4)).toNat = b % 16 * 16 + c / 4 := by
    rw [UInt8.toNat_ofNat', Nat.mod_eq_of_lt (by omega)]
  simp only [base64UrlGroup, hfirst, hsecond, Option.getD_none, Option.getD_some, UInt8.toNat_zero,
    Option.isSome_none, Option.isSome_some, Bool.false_eq_true, if_false, if_true,
    List.append_nil, List.cons_append, List.nil_append, List.cons.injEq, and_true]
  omega

theorem group_of_four {a b c d : ℕ} (ha : a < 64) (hb : b < 64) (hc : c < 64) (hd : d < 64) :
    base64UrlGroup (UInt8.ofNat (a * 4 + b / 16)) (some (UInt8.ofNat (b % 16 * 16 + c / 4)))
      (some (UInt8.ofNat (c % 4 * 64 + d))) = [a, b, c, d] := by
  have hfirst : (UInt8.ofNat (a * 4 + b / 16)).toNat = a * 4 + b / 16 := by
    rw [UInt8.toNat_ofNat', Nat.mod_eq_of_lt (by omega)]
  have hsecond : (UInt8.ofNat (b % 16 * 16 + c / 4)).toNat = b % 16 * 16 + c / 4 := by
    rw [UInt8.toNat_ofNat', Nat.mod_eq_of_lt (by omega)]
  have hthird : (UInt8.ofNat (c % 4 * 64 + d)).toNat = c % 4 * 64 + d := by
    rw [UInt8.toNat_ofNat', Nat.mod_eq_of_lt (by omega)]
  simp only [base64UrlGroup, hfirst, hsecond, hthird, Option.getD_some, Option.isSome_some,
    if_true, List.cons_append, List.nil_append, List.cons.injEq, and_true]
  omega

/-- Digits that leave a clean tail are the digits of some bytes. -/
theorem exists_value_of_digits (buffer : ℕ) (result : Bytes) : ∀ digits : List ℕ,
    (∀ digit ∈ digits, digit < 64) → digits.length % 4 ≠ 1 →
    HasCleanTail (digits.foldl Base64UrlState.push ⟨buffer, 0, result⟩) →
    ∃ value, base64UrlDigits value = digits
  | [], _, _, _ => ⟨[], rfl⟩
  | [_], _, hlength, _ => absurd rfl hlength
  | [a, b], hdigits, _, htail => by
      simp only [List.forall_mem_cons] at hdigits
      simp only [List.foldl_cons, List.foldl_nil, push_zero, push_six] at htail
      have hzero := htail (by decide : 0 < 4)
      refine ⟨[UInt8.ofNat (a * 4 + b / 16)], group_of_two hdigits.1 hdigits.2.1 ?_⟩
      dsimp only at hzero
      omega
  | [a, b, c], hdigits, _, htail => by
      simp only [List.forall_mem_cons] at hdigits
      simp only [List.foldl_cons, List.foldl_nil, push_zero, push_six, push_four] at htail
      have hzero := htail (by decide : 0 < 2)
      refine ⟨[_, _], group_of_three hdigits.1 hdigits.2.1 hdigits.2.2.1 ?_⟩
      dsimp only at hzero
      omega
  | a :: b :: c :: d :: rest, hdigits, hlength, htail => by
      simp only [List.forall_mem_cons] at hdigits
      obtain ⟨ha, hb, hc, hd, hrest⟩ := hdigits
      simp only [List.foldl_cons, push_zero, push_six, push_four, push_two] at htail
      have hmod : rest.length % 4 ≠ 1 := by
        simp only [List.length_cons] at hlength
        omega
      obtain ⟨value, hvalue⟩ := exists_value_of_digits _ _ rest hrest hmod htail
      refine ⟨UInt8.ofNat (a * 4 + b / 16) :: UInt8.ofNat (b % 16 * 16 + c / 4) ::
        UInt8.ofNat (c % 4 * 64 + d) :: value, ?_⟩
      rw [base64UrlDigits, group_of_four ha hb hc hd, hvalue]
      rfl

/-! ## The decoder -/

/-- The decoder accepts only what the encoder writes. -/
theorem exists_encoded_of_decode {text : JsString} {value : Bytes}
    (h : decodeBase64Url text = .ok value) : ∃ encoded, encodeBase64Url encoded = text := by
  unfold decodeBase64Url at h
  obtain ⟨haccepted, h⟩ := rejectIf_bind_eq_ok.mp h
  obtain ⟨state, hfold, h⟩ := bind_eq_ok.mp h
  obtain ⟨htail, -⟩ := rejectIf_bind_eq_ok.mp h
  push Not at haccepted
  obtain ⟨hlength, -, hcharacters⟩ := haccepted
  obtain ⟨digits, hdigits, rfl⟩ := exists_digits hcharacters
  rw [foldlM_lookup digits hdigits] at hfold
  obtain rfl := Except.ok.inj hfold
  rw [List.length_map] at hlength
  obtain ⟨encoded, hencoded⟩ := exists_value_of_digits 0 [] digits hdigits hlength
    fun hpos => by_contra fun hne => htail ⟨hpos, hne⟩
  exact ⟨encoded, by rw [encodeBase64Url, hencoded]⟩

theorem encodeBase64Url_of_decode {text : JsString} {value : Bytes}
    (h : decodeBase64Url text = .ok value) : encodeBase64Url value = text := by
  obtain ⟨encoded, rfl⟩ := exists_encoded_of_decode h
  rw [decodeBase64Url_encodeBase64Url] at h
  rw [Except.ok.inj h]

/-- Decoding inverts encoding on all bytes, and a text decodes to bytes exactly when it is their
encoding: padding, foreign characters, a length of one modulo four and trailing bits that are not
zero are refused. -/
theorem decodeBase64Url_eq_ok_iff :
    (∀ value : Bytes, decodeBase64Url (encodeBase64Url value) = .ok value) ∧
      (∀ text : JsString, (∃ value, decodeBase64Url text = .ok value) ↔
        ∃ value, text = encodeBase64Url value) ∧
      ∀ (text : JsString) (value : Bytes),
        decodeBase64Url text = .ok value → encodeBase64Url value = text := by
  refine ⟨decodeBase64Url_encodeBase64Url, fun text => ⟨?_, ?_⟩,
    fun _ _ => encodeBase64Url_of_decode⟩
  · rintro ⟨value, h⟩
    exact ⟨value, (encodeBase64Url_of_decode h).symm⟩
  · rintro ⟨value, rfl⟩
    exact ⟨value, decodeBase64Url_encodeBase64Url value⟩

theorem length_base64UrlDigits_bytes (value : Bytes) :
    (base64UrlDigits value).length * 6 / 8 = value.length := by
  induction value using base64UrlDigits.induct with
  | case1 => rfl
  | case2 first => simp [base64UrlDigits, base64UrlGroup]
  | case3 first second => simp [base64UrlDigits, base64UrlGroup]
  | case4 first second third rest ih =>
      simp only [base64UrlDigits, base64UrlGroup, Option.isSome_some, if_true, List.length_append,
        List.length_cons, List.length_nil]
      omega

/-- The decoder fills the array that it allocates. -/
theorem length_of_decodeBase64Url {text : JsString} {value : Bytes}
    (h : decodeBase64Url text = .ok value) : value.length = text.length * 6 / 8 := by
  obtain rfl := encodeBase64Url_of_decode h
  rw [encodeBase64Url, List.length_map, length_base64UrlDigits_bytes]

end Media

end UnderstandProof
