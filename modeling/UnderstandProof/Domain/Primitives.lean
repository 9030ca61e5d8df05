import UnderstandProof.Foundation.Except
import UnderstandProof.Foundation.JsString

/-!
# Primitive values of the attempt domain

Every string that the schemas of the domain package check becomes a subtype
that carries the check: an accepted identifier, Git SHA, idempotency key or
UUID cannot be built without it. Parsing goes from the raw string to the
subtype; `raw` goes back, and parsing a raw accepted value returns it.
-/

open Foundation

namespace UnderstandProof

namespace Domain

/-- The schema of the domain package that rejected a value. -/
inductive SchemaError where
  | uuid
  | gitSha
  | nonEmptyIdentifier
  | idempotencyKey
  | date
  | authorized
  | scopes
  deriving DecidableEq, Repr

/-- The message that the schema attaches itself; the other texts are the
library's. -/
def SchemaError.message : SchemaError → Option String
  | gitSha => some "Expected a lowercase Git object SHA"
  | idempotencyKey => some "Idempotency keys must be log-safe identifiers"
  | _ => none

def isGitSha (s : JsString) : Bool :=
  (s.length == 40 || s.length == 64) && s.all isLowerHex

/-- An identifier after `trim()`, of 1 to 200 code units. -/
def isNonEmptyIdentifier (s : JsString) : Bool :=
  s.trim == s && 1 ≤ s.length && s.length ≤ 200

def isLogSafe (c : UInt16) : Bool :=
  (0x41 ≤ c && c ≤ 0x5a) || (0x61 ≤ c && c ≤ 0x7a) || (0x30 ≤ c && c ≤ 0x39) ||
    c == 0x2e || c == 0x5f || c == 0x3a || c == 0x2d

def isIdempotencyKey (s : JsString) : Bool :=
  8 ≤ s.length && s.length ≤ 200 && s.all isLogSafe

abbrev Uuid := {s : JsString // isUuid s}

abbrev GitSha := {s : JsString // isGitSha s}

abbrev NonEmptyIdentifier := {s : JsString // isNonEmptyIdentifier s}

abbrev IdempotencyKey := {s : JsString // isIdempotencyKey s}

/-- The time value of an accepted date, in milliseconds. -/
abbrev Timestamp := Int

/-- A `Date` object by its time value; `none` is an invalid date, whose
`getTime()` is `NaN`. -/
abbrev JsDate := Option Timestamp

/-- `left.getTime() <= right.getTime()`, false as soon as one side is `NaN`. -/
def JsDate.le : JsDate → JsDate → Bool
  | some left, some right => left ≤ right
  | _, _ => false

/-- `left.getTime() > right.getTime()`. -/
def JsDate.gt : JsDate → JsDate → Bool
  | some left, some right => right < left
  | _, _ => false

/-- A string schema that accepts by a check. -/
def parseString (check : JsString → Bool) (error : SchemaError) (s : JsString) :
    Except SchemaError {s : JsString // check s} :=
  if h : check s then .ok ⟨s, h⟩ else .error error

theorem parseString_val {check : JsString → Bool} {error : SchemaError}
    (v : {s : JsString // check s}) : parseString check error v.1 = .ok v := by
  simp [parseString, v.2]

def UuidSchema.parse : JsString → Except SchemaError Uuid :=
  parseString isUuid .uuid

def GitShaSchema.parse : JsString → Except SchemaError GitSha :=
  parseString isGitSha .gitSha

def IdempotencyKeySchema.parse : JsString → Except SchemaError IdempotencyKey :=
  parseString isIdempotencyKey .idempotencyKey

/-- `z.string().trim().min(1).max(200)`: the value goes on trimmed. -/
def NonEmptyIdentifierSchema.parse (s : JsString) :
    Except SchemaError NonEmptyIdentifier :=
  parseString isNonEmptyIdentifier .nonEmptyIdentifier s.trim

/-- `z.date()` refuses an invalid date. -/
def DateSchema.parse : JsDate → Except SchemaError Timestamp
  | some t => .ok t
  | none => .error .date

@[simp] theorem UuidSchema.parse_val (v : Uuid) : parse v.1 = .ok v :=
  parseString_val v

@[simp] theorem GitShaSchema.parse_val (v : GitSha) : parse v.1 = .ok v :=
  parseString_val v

@[simp] theorem IdempotencyKeySchema.parse_val (v : IdempotencyKey) :
    parse v.1 = .ok v :=
  parseString_val v

theorem NonEmptyIdentifier.trim_val (v : NonEmptyIdentifier) :
    JsString.trim v.1 = v.1 := by
  have h := v.2
  simp only [isNonEmptyIdentifier, Bool.and_eq_true, beq_iff_eq] at h
  exact h.1.1

/-- The stored identifier is already trimmed, so it parses to itself. -/
@[simp] theorem NonEmptyIdentifierSchema.parse_val (v : NonEmptyIdentifier) :
    parse v.1 = .ok v := by
  unfold parse
  rw [NonEmptyIdentifier.trim_val]
  exact parseString_val v

theorem NonEmptyIdentifierSchema.val_of_parse {s : JsString}
    {v : NonEmptyIdentifier} (h : parse s = .ok v) : v.1 = s.trim := by
  unfold parse parseString at h
  split at h
  · cases h
    rfl
  · cases h

@[simp] theorem DateSchema.parse_some (t : Timestamp) : parse (some t) = .ok t :=
  rfl

end Domain

end UnderstandProof
