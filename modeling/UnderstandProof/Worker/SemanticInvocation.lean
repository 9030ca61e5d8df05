import Mathlib.Algebra.Order.Floor.Ring
import Mathlib.Data.Rat.Floor
import UnderstandProof.Domain.Primitives
import UnderstandProof.Media.Crypto
import UnderstandProof.Providers.JudgeMetadata
import UnderstandProof.Providers.StreamRetry
import UnderstandProof.Questions.Generative

/-!
# What a semantic provider answers

The descriptor of a semantic provider, its raw response and the instruction for a repair. Resolved
values are arbitrary: a value is seen through the questions that the schemas ask of it.
-/

open Foundation

namespace UnderstandProof

namespace Worker

namespace SemanticInvocation

open Providers (ProviderErrorCode ProviderFailureKind safeHttpStatus TokenUsage)
open Providers.StreamRequest (HttpStatusClass httpStatusClassFor)
open Media (Sha256 sha256Hex)
open Domain (Timestamp)
open Questions (SemanticContentValidationCode)

/-! ## Values -/

/-- What the schemas and the hash ask of a value. `absent` is what an unknown field reads where
the key is missing, if that is accepted at all; `stableJson` may throw. -/
structure Values (V : Type) where
  fields? : V → Option (List (JsString × V))
  string? : V → Option JsString
  number? : V → Option ℚ
  isNull : V → Bool
  null : V
  absent : Option V
  stableJson : V → Option JsString

structure SemanticProviderDescriptor where
  provider : JsString
  model : JsString
  deriving DecidableEq, Repr

inductive SemanticMalformedOutputKind where
  | invalidOutput
  | outputTruncated
  deriving DecidableEq, Repr

/-- The count is 1 to 3 where there is one. -/
structure SemanticProviderRawResponse (V : Type) where
  output : V
  tokenUsage : Option TokenUsage
  transportAttemptCount : Option ℕ
  answeredBy : Option SemanticProviderDescriptor
  malformedOutputKind : Option SemanticMalformedOutputKind

section Schemas

variable {V : Type} (values : Values V)

/-- The fields of a strict object. -/
def strictFields (names : List JsString) (value : V) : Option (List (JsString × V)) :=
  (values.fields? value).bind fun fields =>
    if fields.all fun field => names.contains field.1 then some fields else none

/-- `z.string().trim().min(1).max(maximum)` -/
def trimmedText (maximum : ℕ) (value : V) : Option JsString :=
  (values.string? value).bind fun text =>
    let text := text.trim
    if 1 ≤ text.length ∧ text.length ≤ maximum then some text else none

/-- `z.number().int().min(minimum).max(maximum)` -/
def boundedNumber (minimum maximum : ℕ) (value : V) : Option ℕ :=
  (values.number? value).bind fun number =>
    if number.den = 1 ∧ (minimum : ℤ) ≤ number.num ∧ number.num ≤ maximum then
      some number.num.toNat else none

/-- An optional field: absent, or read. -/
def optionalField {α : Type} (read : V → Option α) (name : JsString)
    (fields : List (JsString × V)) : Option (Option α) :=
  match fields.lookup name with
  | none => some none
  | some value => (read value).map some

def SemanticProviderDescriptorV1Schema.parse (value : V) : Option SemanticProviderDescriptor := do
  let fields ← strictFields values [js "provider", js "model"] value
  let provider ← (fields.lookup (js "provider")).bind (trimmedText values 100)
  let model ← (fields.lookup (js "model")).bind (trimmedText values 200)
  return { provider, model }

def maxTokens : ℕ := 10000000

/-- `SemanticTokenUsageV1Schema.nullable()` -/
def SemanticTokenUsageV1Schema.parse (value : V) : Option (Option TokenUsage) :=
  if values.isNull value then some none
  else do
    let fields ← strictFields values [js "inputTokens", js "outputTokens"] value
    let inputTokens ← (fields.lookup (js "inputTokens")).bind (boundedNumber values 0 maxTokens)
    let outputTokens ← (fields.lookup (js "outputTokens")).bind (boundedNumber values 0 maxTokens)
    return some { inputTokens, outputTokens }

def SemanticMalformedOutputKindV1Schema.parse (value : V) : Option SemanticMalformedOutputKind :=
  (values.string? value).bind fun text =>
    if text = js "invalid_output" then some .invalidOutput
    else if text = js "output_truncated" then some .outputTruncated
    else none

def SemanticProviderRawResponseV1Schema.parse (value : V) :
    Option (SemanticProviderRawResponse V) := do
  let fields ← strictFields values [js "output", js "tokenUsage", js "transportAttemptCount",
    js "answeredBy", js "malformedOutputKind"] value
  let output ← (fields.lookup (js "output")).or values.absent
  let tokenUsage ← (fields.lookup (js "tokenUsage")).bind (SemanticTokenUsageV1Schema.parse values)
  let transportAttemptCount ← optionalField (boundedNumber values 1 3)
    (js "transportAttemptCount") fields
  let answeredBy ← optionalField (SemanticProviderDescriptorV1Schema.parse values)
    (js "answeredBy") fields
  let malformedOutputKind ← optionalField (SemanticMalformedOutputKindV1Schema.parse values)
    (js "malformedOutputKind") fields
  return { output, tokenUsage, transportAttemptCount, answeredBy, malformedOutputKind }

end Schemas

/-! ## Hashes and identifiers -/

abbrev Sha256Digest := {s : JsString // Media.Sha256Schema.accepts s = true}

/-! ## The calls -/

inductive SemanticProviderPurpose where
  | learningMaterial
  | practiceFeedback
  | proofQuestions
  deriving DecidableEq, Repr

def SemanticProviderPurpose.text : SemanticProviderPurpose → JsString
  | .learningMaterial => js "learning_material"
  | .practiceFeedback => js "practice_feedback"
  | .proofQuestions => js "proof_questions"

inductive Phase where
  | initial
  | repair
  deriving DecidableEq, Repr

structure SemanticProviderRepairInstruction where
  invalidOutputHash : Sha256Digest
  validationCode : SemanticContentValidationCode
  deriving DecidableEq

/-- `/^[a-z0-9][a-z0-9-]{2,63}$/` -/
def isVersionText (text : JsString) : Bool :=
  3 ≤ text.length && text.length ≤ 64 && (text.head?.any isLowerAlphanumeric) &&
    text.all fun c => isLowerAlphanumeric c || c == 0x2d
where
  /-- `[a-z0-9]` -/
  isLowerAlphanumeric (c : UInt16) : Bool :=
    (0x61 ≤ c && c ≤ 0x7a) || (0x30 ≤ c && c ≤ 0x39)

/-! ## Descriptors -/

section Descriptors

variable {V : Type}

/-- A descriptor that its schema has read: trimmed names of the allowed lengths. -/
structure SemanticProviderDescriptor.Named (descriptor : SemanticProviderDescriptor) : Prop where
  provider_trim : descriptor.provider.trim = descriptor.provider
  model_trim : descriptor.model.trim = descriptor.model
  provider_length : 1 ≤ descriptor.provider.length ∧ descriptor.provider.length ≤ 100
  model_length : 1 ≤ descriptor.model.length ∧ descriptor.model.length ≤ 200

theorem trimmedText_eq_some {values : Values V} {maximum : ℕ} {value : V} {text : JsString}
    (h : trimmedText values maximum value = some text) :
    text.trim = text ∧ 1 ≤ text.length ∧ text.length ≤ maximum := by
  obtain ⟨raw, -, h⟩ := Option.bind_eq_some_iff.mp h
  obtain ⟨hlength, htext⟩ := Option.ite_none_right_eq_some.mp h
  obtain rfl := Option.some.inj htext
  exact ⟨JsString.trim_trim raw, hlength⟩

theorem descriptor_named {values : Values V} {value : V}
    {descriptor : SemanticProviderDescriptor}
    (h : SemanticProviderDescriptorV1Schema.parse values value = some descriptor) :
    descriptor.Named := by
  simp only [SemanticProviderDescriptorV1Schema.parse, Option.bind_eq_bind,
    Option.bind_eq_some_iff, Option.pure_def, Option.some.injEq] at h
  obtain ⟨fields, -, provider, ⟨_, -, hprovider⟩, model, ⟨_, -, hmodel⟩, rfl⟩ := h
  obtain ⟨hptrim, hplength⟩ := trimmedText_eq_some hprovider
  obtain ⟨hmtrim, hmlength⟩ := trimmedText_eq_some hmodel
  exact ⟨hptrim, hmtrim, hplength, hmlength⟩

end Descriptors

end SemanticInvocation

end Worker

end UnderstandProof
