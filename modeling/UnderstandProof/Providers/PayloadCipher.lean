import UnderstandProof.Foundation.JsonText
import UnderstandProof.Media.Crypto
import UnderstandProof.Providers.Errors

/-!
# Encrypted payloads

The envelope in which a payload is stored: AES-256-GCM, which is a parameter, with its
parts in padded base64. Sealing succeeds for every payload under a new nonce, and the
length of the envelope's text follows from the length of the payload.
-/

open Foundation

namespace UnderstandProof

namespace Providers

open Media

/-! ## Base64 -/

def base64Alphabet : JsString :=
  js "ABCDEFGHIJKLMNOPQRSTUVWXYZabcdefghijklmnopqrstuvwxyz0123456789+/"

def base64Char (digit : ℕ) : UInt16 := base64Alphabet.getD digit 0

/-- `toString("base64")`: the digits are those of base64url. -/
def encodeBase64 (value : Bytes) : JsString :=
  (base64UrlDigits value).map base64Char ++ List.replicate ((3 - value.length % 3) % 3) 0x3d

def isBase64Char (c : UInt16) : Bool :=
  (0x41 ≤ c && c ≤ 0x5a) || (0x61 ≤ c && c ≤ 0x7a) || (0x30 ≤ c && c ≤ 0x39) || c == 0x2b ||
    c == 0x2f

/-- `/^(?:[A-Za-z0-9+/]{4})*(?:[A-Za-z0-9+/]{2}==|[A-Za-z0-9+/]{3}=)?$/` -/
def matchesBase64 : JsString → Bool
  | [] => true
  | a :: b :: c :: d :: rest =>
      isBase64Char a && isBase64Char b &&
        ((isBase64Char c && isBase64Char d && matchesBase64 rest) ||
          (rest.isEmpty && d == 0x3d && (c == 0x3d || isBase64Char c)))
  | _ => false

def Base64Schema.accepts (value : JsString) : Bool := 1 ≤ value.length && matchesBase64 value

/-- `Buffer.from(value, "base64").byteLength` of an accepted text. -/
def base64ByteLength (value : JsString) : ℕ := 3 * (value.length / 4) - value.count 0x3d

/-! ## The envelope -/

structure PayloadCipherEnvelope where
  nonce : JsString
  ciphertext : JsString
  authenticationTag : JsString
  aadSha256 : JsString
  deriving DecidableEq, Repr

def PayloadCipherEnvelopeV1Schema.issues (envelope : PayloadCipherEnvelope) : List Issue :=
  issueIf (base64ByteLength envelope.nonce ≠ 12) "AES-GCM nonce must decode to exactly 12 bytes"
    [.key "nonce"] ++
  issueIf (base64ByteLength envelope.authenticationTag ≠ 16)
    "AES-GCM authentication tag must decode to exactly 16 bytes" [.key "authenticationTag"]

def PayloadCipherEnvelopeV1Schema.accepts (envelope : PayloadCipherEnvelope) : Bool :=
  Base64Schema.accepts envelope.nonce && Base64Schema.accepts envelope.ciphertext &&
    Base64Schema.accepts envelope.authenticationTag &&
    Media.Sha256Schema.accepts envelope.aadSha256 &&
    (PayloadCipherEnvelopeV1Schema.issues envelope).isEmpty

def PayloadCipherEnvelope.json (envelope : PayloadCipherEnvelope) : Json :=
  .obj [(js "schemaVersion", .str (js "1")), (js "algorithm", .str (js "aes-256-gcm")),
    (js "nonce", .str envelope.nonce), (js "ciphertext", .str envelope.ciphertext),
    (js "authenticationTag", .str envelope.authenticationTag),
    (js "aadSha256", .str envelope.aadSha256)]

/-! ## The cipher -/

/-- `createCipheriv("aes-256-gcm", key, nonce)` for one key: ciphertext and tag from
nonce, additional data and plaintext. -/
structure Aes256Gcm where
  encrypt : Bytes → Bytes → Bytes → Bytes × Bytes
  length_ciphertext : ∀ nonce aad plaintext,
    (encrypt nonce aad plaintext).1.length = plaintext.length
  length_tag : ∀ nonce aad plaintext, (encrypt nonce aad plaintext).2.length = 16

/-- A cipher with the nonces that it has used. -/
structure PayloadCipher where
  aes : Aes256Gcm
  usedNonces : List JsString

/-- The envelope of a payload. -/
def PayloadCipher.envelope (sha256 : Sha256) (cipher : PayloadCipher)
    (nonce plaintext aad : Bytes) : PayloadCipherEnvelope where
  nonce := encodeBase64 nonce
  ciphertext := encodeBase64 (cipher.aes.encrypt nonce aad plaintext).1
  authenticationTag := encodeBase64 (cipher.aes.encrypt nonce aad plaintext).2
  aadSha256 := sha256Hex sha256 aad

/-- `encrypt`; the nonce is what the source of nonces returns. -/
def PayloadCipher.encrypt (sha256 : Sha256) (cipher : PayloadCipher)
    (nonce plaintext aad : Bytes) : Except Caught PayloadCipherEnvelope := do
  rejectIf (plaintext.length = 0) (.providerError (.plain .invalidCipherPayload .terminal))
  rejectIf (aad.length = 0) (.providerError (.plain .invalidCipherPayload .terminal))
  rejectIf (nonce.length ≠ 12) (.providerError (.plain .invalidCipherPayload .terminal))
  rejectIf (encodeHex nonce ∈ cipher.usedNonces) (.providerError (.plain .nonceReuse .terminal))
  let envelope := cipher.envelope sha256 nonce plaintext aad
  rejectIf (PayloadCipherEnvelopeV1Schema.accepts envelope = false) .zodError
  return envelope

/-- `encryptJson` of a value that has a text. -/
def PayloadCipher.encryptJson (sha256 : Sha256) (cipher : PayloadCipher) (nonce : Bytes)
    (value : Json) (associatedData : JsString) : Except Caught PayloadCipherEnvelope :=
  cipher.encrypt sha256 nonce (JsString.utf8Encode value.stringify)
    (JsString.utf8Encode associatedData)

/-- What the source of nonces has to return: twelve bytes that are new. -/
structure PayloadCipher.IsFresh (cipher : PayloadCipher) (nonce : Bytes) : Prop where
  length : nonce.length = 12
  unused : encodeHex nonce ∉ cipher.usedNonces

/-! ## Base64 is accepted -/

theorem isBase64Char_base64Char : ∀ digit < 64, isBase64Char (base64Char digit) = true := by
  decide +kernel

theorem base64Char_ne_pad : ∀ digit < 64, base64Char digit ≠ 0x3d := by
  decide

theorem length_base64UrlDigits (value : Bytes) :
    (base64UrlDigits value).length + (3 - value.length % 3) % 3 = 4 * ((value.length + 2) / 3) := by
  induction value using base64UrlDigits.induct with
  | case1 => rfl
  | case2 first => simp [base64UrlDigits, base64UrlGroup]
  | case3 first second => simp [base64UrlDigits, base64UrlGroup]
  | case4 first second third rest ih =>
      simp only [base64UrlDigits, base64UrlGroup, List.length_append, List.length_cons,
        List.length_nil, Option.isSome_some, if_true] at ih ⊢
      omega

@[simp] theorem length_encodeBase64 (value : Bytes) :
    (encodeBase64 value).length = 4 * ((value.length + 2) / 3) := by
  rw [encodeBase64, List.length_append, List.length_map, List.length_replicate,
    length_base64UrlDigits]

theorem matchesBase64_encodeBase64 (value : Bytes) : matchesBase64 (encodeBase64 value) = true := by
  induction value using base64UrlDigits.induct with
  | case1 => rfl
  | case2 first =>
      simp [encodeBase64, base64UrlDigits, base64UrlGroup, matchesBase64,
        isBase64Char_base64Char _ (Nat.mod_lt _ (by decide))]
  | case3 first second =>
      simp [encodeBase64, base64UrlDigits, base64UrlGroup, matchesBase64,
        isBase64Char_base64Char _ (Nat.mod_lt _ (by decide))]
  | case4 first second third rest ih =>
      have hpad : (first :: second :: third :: rest).length % 3 = rest.length % 3 := by
        simp only [List.length_cons]
        omega
      have hencode : encodeBase64 (first :: second :: third :: rest) =
          (base64UrlGroup first (some second) (some third)).map base64Char ++
            encodeBase64 rest := by
        simp only [encodeBase64, base64UrlDigits, hpad, List.map_append, List.append_assoc]
      rw [hencode]
      simp [base64UrlGroup, matchesBase64, ih,
        isBase64Char_base64Char _ (Nat.mod_lt _ (by decide))]

theorem encodeBase64_accepted {value : Bytes} (h : value ≠ []) :
    Base64Schema.accepts (encodeBase64 value) = true := by
  have hpos := List.length_pos_iff.mpr h
  rw [Base64Schema.accepts, matchesBase64_encodeBase64, Bool.and_true, length_encodeBase64]
  exact decide_eq_true (by omega)

theorem base64ByteLength_encodeBase64 (value : Bytes) :
    base64ByteLength (encodeBase64 value) = value.length := by
  have hcount : (encodeBase64 value).count 0x3d = (3 - value.length % 3) % 3 := by
    have hdigits : ((base64UrlDigits value).map base64Char).count 0x3d = 0 := by
      refine List.count_eq_zero.mpr fun hmem => ?_
      obtain ⟨digit, hdigit, heq⟩ := List.mem_map.mp hmem
      exact base64Char_ne_pad digit (base64UrlDigits_lt value digit hdigit) heq
    rw [encodeBase64, List.count_append, hdigits, List.count_replicate_self, Nat.zero_add]
  rw [base64ByteLength, hcount, length_encodeBase64]
  omega

/-! ## Sealing succeeds -/

section Seal

variable {sha256 : Sha256} {cipher : PayloadCipher} {nonce plaintext aad : Bytes}

theorem PayloadCipher.envelope_accepted (hnonce : nonce.length = 12) (hplaintext : plaintext ≠ []) :
    PayloadCipherEnvelopeV1Schema.accepts (cipher.envelope sha256 nonce plaintext aad) = true := by
  have hciphertext : (cipher.aes.encrypt nonce aad plaintext).1 ≠ [] := by
    rw [← List.length_pos_iff, cipher.aes.length_ciphertext]
    exact List.length_pos_iff.mpr hplaintext
  have htag := cipher.aes.length_tag nonce aad plaintext
  have hissues : PayloadCipherEnvelopeV1Schema.issues
      (cipher.envelope sha256 nonce plaintext aad) = [] := by
    simp only [PayloadCipherEnvelopeV1Schema.issues, List.append_eq_nil_iff, issueIf_eq_nil,
      not_not, PayloadCipher.envelope, base64ByteLength_encodeBase64]
    exact ⟨hnonce, htag⟩
  simp only [PayloadCipherEnvelopeV1Schema.accepts, hissues, Bool.and_eq_true, and_assoc]
  refine ⟨encodeBase64_accepted ?_, encodeBase64_accepted hciphertext, encodeBase64_accepted ?_,
    sha256Hex_accepted sha256 aad, rfl⟩
  · exact List.ne_nil_of_length_pos (by omega)
  · exact List.ne_nil_of_length_pos (by omega)

theorem PayloadCipher.encrypt_ok (hnonce : cipher.IsFresh nonce) (hplaintext : plaintext ≠ [])
    (haad : aad ≠ []) :
    cipher.encrypt sha256 nonce plaintext aad =
      .ok (cipher.envelope sha256 nonce plaintext aad) := by
  have haccepted : PayloadCipherEnvelopeV1Schema.accepts
      (cipher.envelope sha256 nonce plaintext aad) = true :=
    envelope_accepted hnonce.length hplaintext
  rw [PayloadCipher.encrypt, rejectIf_of_not (by simpa using hplaintext), except_ok_bind,
    rejectIf_of_not (by simpa using haad), except_ok_bind,
    rejectIf_of_not (by simpa using hnonce.length), except_ok_bind,
    rejectIf_of_not hnonce.unused, except_ok_bind]
  dsimp only
  rw [rejectIf_of_not (by simp [haccepted]), except_ok_bind]
  rfl

/-! ## The text of an envelope -/

theorem isPlain_of_isBase64 : ∀ digit < 64, Json.isPlain (base64Char digit) = true := by
  decide +kernel

theorem isPlain_encodeBase64 {value : Bytes} {c : UInt16} (h : c ∈ encodeBase64 value) :
    Json.isPlain c = true := by
  rw [encodeBase64, List.mem_append] at h
  rcases h with h | h
  · obtain ⟨digit, hdigit, rfl⟩ := List.mem_map.mp h
    exact isPlain_of_isBase64 digit (base64UrlDigits_lt value digit hdigit)
  · rw [List.eq_of_mem_replicate h]
    rfl

theorem isPlain_of_isLowerHex {c : UInt16} (h : isLowerHex c = true) : Json.isPlain c = true := by
  simp only [isLowerHex, Bool.or_eq_true, Bool.and_eq_true, decide_eq_true_eq,
    UInt16.le_iff_toNat_le] at h
  simp only [Json.isPlain, Bool.and_eq_true, decide_eq_true_eq, bne_iff_ne, ne_eq,
    UInt16.le_iff_toNat_le, UInt16.lt_iff_toNat_lt, ← UInt16.toNat_inj]
  simp only [UInt16.reduceToNat] at h ⊢
  omega

theorem length_quote_encodeBase64 (value : Bytes) :
    (Json.quote (encodeBase64 value)).length = 4 * ((value.length + 2) / 3) + 2 := by
  rw [Json.length_quote_of_isPlain fun c => isPlain_encodeBase64, length_encodeBase64]

/-- The text of an envelope is longer than its payload by a third and a constant. -/
theorem PayloadCipher.length_envelope (hnonce : nonce.length = 12) :
    (cipher.envelope sha256 nonce plaintext aad).json.stringify.length =
      4 * ((plaintext.length + 2) / 3) + 216 := by
  have haad := sha256Hex_accepted sha256 aad
  simp only [Media.Sha256Schema.accepts, Bool.and_eq_true, beq_iff_eq, List.all_eq_true] at haad
  have hhash : (Json.quote (sha256Hex sha256 aad)).length = 66 := by
    rw [Json.length_quote_of_isPlain fun c hc => isPlain_of_isLowerHex (haad.2 c hc), haad.1]
  simp only [PayloadCipher.envelope, PayloadCipherEnvelope.json, Json.stringify,
    Json.stringifyFields, List.length_append, List.length_cons, length_quote_encodeBase64,
    hnonce, cipher.aes.length_ciphertext, cipher.aes.length_tag, hhash, List.length_nil]
  have hnames : (Json.quote (js "schemaVersion")).length = 15 ∧
      (Json.quote (js "algorithm")).length = 11 ∧ (Json.quote (js "nonce")).length = 7 ∧
      (Json.quote (js "ciphertext")).length = 12 ∧
      (Json.quote (js "authenticationTag")).length = 19 ∧
      (Json.quote (js "aadSha256")).length = 11 ∧ (Json.quote (js "1")).length = 3 ∧
      (Json.quote (js "aes-256-gcm")).length = 13 := by decide
  omega

end Seal

end Providers

end UnderstandProof
