import UnderstandProof.Analysis.GenerationContextSchema
import UnderstandProof.Foundation.Except

/-!
# Semantic content of a provider

The schemas of learning bundles, practice feedback and proof questions, and the validators that
hold them against a generation context: every statement names anchors of the context, with one
reference into the patch for each of them, and private content does not give away a proof.
-/

open Foundation
open Foundation.JsValue

namespace UnderstandProof

namespace Questions

open Analysis
open Media (Sha256)

inductive SemanticContentValidationCode where
  | schemaInvalid
  | anchorInvalid
  | countInvalid
  | contentPolicyInvalid
  deriving DecidableEq, Repr

/-! ## Texts -/

/-- The parts of Unicode that come with the platform: `normalize("NFKC")` and
`toLocaleLowerCase("en-US")`. -/
structure Unicode where
  normalizeNFKC : JsString → JsString
  toLowerCase : JsString → JsString

section Patterns

/-- `\w` with the flags `iu`, which adds the long s and the Kelvin sign. -/
def isWordLetter (c : UInt16) : Bool :=
  (0x61 ≤ c && c ≤ 0x7a) || (0x41 ≤ c && c ≤ 0x5a) || (0x30 ≤ c && c ≤ 0x39) || c == 0x5f ||
    c == 0x17f || c == 0x212a

/-- `\b` -/
def wordBoundary : Regex UInt16 := .boundary isWordLetter

/-- `\s+` -/
def spaces : Regex UInt16 := Regex.some₁ JsString.isWhiteSpace

def word (s : String) : Regex UInt16 := Regex.word (js s)

def anyWord (l : List String) : Regex UInt16 := Regex.anyOf (l.map js)

/-- Two words with white space between them. -/
def twoWords (first second : String) : Regex UInt16 :=
  Regex.seqs [word first, spaces, word second]

/-- A word that may be left out, with the white space behind it. -/
def optionalWords (l : List String) : Regex UInt16 := (Regex.seqs [anyWord l, spaces]).opt

/-- `model|assistant|coding\s+tool|tool` -/
def toolNames : Regex UInt16 :=
  .alt (anyWord ["model", "assistant"]) (.alt (twoWords "coding" "tool") (word "tool"))

/-- `ai|llm|model|assistant|coding\s+tool|tool` -/
def modelNames : Regex UInt16 := .alt (anyWord ["ai", "llm"]) toolNames

def forbiddenPersonOrToolQuestions : List (Regex UInt16) :=
  [Regex.seqs [wordBoundary,
      .alt (Regex.seqs [word "who", spaces,
          anyWord ["are", "wrote", "authored", "generated", "created"]])
        (Regex.seqs [word "your", spaces, anyWord ["identity", "name"]]), wordBoundary],
    Regex.seqs [wordBoundary, anyWord ["did", "do", "have"], spaces, word "you", spaces,
      anyWord ["use", "write", "author", "generate", "create"], wordBoundary],
    Regex.seqs [wordBoundary, anyWord ["which", "what"], spaces, modelNames, spaces,
      anyWord ["did", "do", "was", "were"], wordBoundary],
    Regex.seqs [wordBoundary,
      .alt (anyWord ["chatgpt", "copilot", "claude", "cursor"])
        (Regex.seqs [anyWord ["ai", "machine"], .one fun c => c == 0x2d || c == 0x20,
          word "generated"]), wordBoundary],
    Regex.seqs [wordBoundary, word "prove", spaces, optionalWords ["that"], word "you", spaces,
      anyWord ["are", "wrote", "authored", "created"], wordBoundary],
    Regex.seqs [wordBoundary, modelNames, spaces, anyWord ["used", "chosen", "selected"], spaces,
      word "by", spaces,
      .alt (word "you") (Regex.seqs [word "the", spaces, anyWord ["author", "contributor"]]),
      wordBoundary],
    Regex.seqs [wordBoundary,
      anyWord ["name", "names", "identify", "identifies", "state", "states"], spaces,
      anyWord ["which", "what", "the"], spaces, optionalWords ["ai", "llm"], toolNames,
      wordBoundary],
    Regex.seqs [wordBoundary,
      anyWord ["identify", "identifies", "identified", "infer", "infers", "inferred", "name",
        "names", "named", "reveal", "reveals", "revealed"], spaces, optionalWords ["the"],
      anyWord ["author", "contributor", "identity", "authorship"], wordBoundary]]

def forbiddenPromptInjectionDirectives : List (Regex UInt16) :=
  [Regex.seqs [wordBoundary, word "ignore", spaces, optionalWords ["all"],
      anyWord ["previous", "prior", "system", "developer"], spaces,
      anyWord ["instruction", "instructions"], wordBoundary],
    Regex.seqs [wordBoundary, anyWord ["reveal", "print", "return", "expose", "leak"], spaces,
      optionalWords ["the"],
      .alt (anyWord ["secret", "token", "password", "credential"]) (twoWords "system" "prompt"),
      wordBoundary],
    Regex.seqs [wordBoundary, anyWord ["visit", "open", "fetch", "browse"], spaces,
      anyWord ["http://", "https://"]],
    Regex.seqs [wordBoundary, anyWord ["run", "execute"], spaces, optionalWords ["this"],
      anyWord ["command", "code", "script"], wordBoundary],
    Regex.seqs [wordBoundary, anyWord ["call", "invoke"], spaces,
      optionalWords ["a", "the", "this"], anyWord ["tool", "function"], wordBoundary]]

end Patterns

section Texts

variable (unicode : Unicode)

def asksAboutIdentityToolingOrAuthorship (s : JsString) : Bool :=
  forbiddenPersonOrToolQuestions.any fun pattern =>
    pattern.test sameLetter (unicode.normalizeNFKC s)

def containsPromptInjectionDirective (s : JsString) : Bool :=
  forbiddenPromptInjectionDirectives.any fun pattern =>
    pattern.test sameLetter (unicode.normalizeNFKC s)

/-- `replace(/\s+/gu, " ")` -/
def collapseSpaces : JsString → JsString
  | [] => []
  | [c] => if JsString.isWhiteSpace c then [0x20] else [c]
  | c :: d :: s =>
      if JsString.isWhiteSpace c then
        if JsString.isWhiteSpace d then collapseSpaces (d :: s)
        else 0x20 :: collapseSpaces (d :: s)
      else c :: collapseSpaces (d :: s)

def normalize (s : JsString) : JsString :=
  JsString.trim (collapseSpaces (unicode.toLowerCase (unicode.normalizeNFKC s)))

/-- `GeneratedSemanticTextSchema.min(minimum).max(maximum)`; the text goes on trimmed. -/
def generatedText (minimum maximum : ℕ) (value : JsValue) : Option JsString :=
  (text (fun _ => true) value).bind fun s =>
    let s := s.trim
    if containsPromptInjectionDirective unicode s = false ∧ minimum ≤ s.length ∧
        s.length ≤ maximum then some s else none

end Texts

/-! ## Anchored items -/

structure SemanticPatchReference where
  anchorId : JsString
  file : JsString
  oldStart : ℕ
  newStart : ℕ
  deriving DecidableEq, Repr

def SemanticPatchReferenceV1Schema.read (value : JsValue) : Option SemanticPatchReference := do
  let fields ← strictFields [js "anchorId", js "file", js "oldStart", js "newStart"] value
  let anchorId ← text isAnchorId (get (js "anchorId") fields)
  let file ← text (fun s => 1 ≤ s.length && s.length ≤ 1024 && !s.contains 0)
    (get (js "file") fields)
  let oldStart ← natural 0 maxSafeInteger (get (js "oldStart") fields)
  let newStart ← natural 0 maxSafeInteger (get (js "newStart") fields)
  return { anchorId, file, oldStart, newStart }

/-- The anchors that an item names, and its references into the patch. -/
structure Anchored where
  anchorIds : List JsString
  patchReferences : List SemanticPatchReference
  deriving DecidableEq, Repr

/-- `AnchorIdsSchema` -/
def AnchorIdsSchema.read (value : JsValue) : Option (List JsString) :=
  (array 1 10 (text isAnchorId) value).filter fun anchorIds => decide anchorIds.Nodup

def PatchReferencesSchema.read : JsValue → Option (List SemanticPatchReference) :=
  array 1 10 SemanticPatchReferenceV1Schema.read

def SingleAnchorIdSchema.read : JsValue → Option (List JsString) := array 1 1 (text isAnchorId)

def SinglePatchReferenceSchema.read : JsValue → Option (List SemanticPatchReference) :=
  array 1 1 SemanticPatchReferenceV1Schema.read

/-- `JSON.stringify` of texts. -/
def stringifyTexts (l : List JsString) : JsString := Json.stringify (.arr (l.map .str))

/-- No issue of `validateDeclaredReferenceSet`. -/
def declaredReferenceSet (item : Anchored) : Bool :=
  let declared := JsString.sort item.anchorIds
  let referenced := JsString.sort (item.patchReferences.map SemanticPatchReference.anchorId)
  decide referenced.Nodup && stringifyTexts declared == stringifyTexts referenced

/-- The members of an item with several anchors. -/
def readAnchored (fields : List (JsString × JsValue)) : Option Anchored := do
  let anchorIds ← AnchorIdsSchema.read (get (js "anchorIds") fields)
  let patchReferences ← PatchReferencesSchema.read (get (js "patchReferences") fields)
  return { anchorIds, patchReferences }

/-- The members of an item with a single anchor. -/
def readSingleAnchored (fields : List (JsString × JsValue)) : Option Anchored := do
  let anchorIds ← SingleAnchorIdSchema.read (get (js "anchorIds") fields)
  let patchReferences ← SinglePatchReferenceSchema.read (get (js "patchReferences") fields)
  return { anchorIds, patchReferences }

/-! ## Learning bundles and practice feedback -/

structure AnchoredLearningStatement extends Anchored where
  text : JsString
  deriving DecidableEq, Repr

inductive PracticeQuestionFocus where
  | patchIntent
  | changedBehavior
  | interface
  | risk
  | testing
  | rollback
  deriving DecidableEq, Repr

namespace PracticeQuestionFocus

def all : List PracticeQuestionFocus :=
  [patchIntent, changedBehavior, interface, risk, testing, rollback]

def name : PracticeQuestionFocus → JsString
  | patchIntent => js "patch_intent"
  | changedBehavior => js "changed_behavior"
  | interface => js "interface"
  | risk => js "risk"
  | testing => js "testing"
  | rollback => js "rollback"

end PracticeQuestionFocus

structure PracticeQuestionCandidate extends Anchored where
  focus : PracticeQuestionFocus
  prompt : JsString
  deriving DecidableEq, Repr

/-- A practice question with the members that the worker adds. -/
structure PracticeQuestion extends PracticeQuestionCandidate where
  id : JsString
  order : ℕ
  revisionId : JsString
  headSha : JsString
  contextHash : JsString
  deriving DecidableEq, Repr

structure LearningBundleCandidate where
  patchIntent : AnchoredLearningStatement
  changedAreas : List AnchoredLearningStatement
  behaviors : List AnchoredLearningStatement
  interfaces : List AnchoredLearningStatement
  risks : List AnchoredLearningStatement
  testGaps : List AnchoredLearningStatement
  testIdeas : List AnchoredLearningStatement
  rollbackSignals : List AnchoredLearningStatement
  practiceQuestions : List PracticeQuestionCandidate
  deriving DecidableEq, Repr

structure PracticeFeedbackCandidate where
  understood : AnchoredLearningStatement
  missingPatchDetail : AnchoredLearningStatement
  hint : AnchoredLearningStatement
  deriving DecidableEq, Repr

section Learning

variable (unicode : Unicode)

def AnchoredLearningStatementV1Schema.read (value : JsValue) :
    Option AnchoredLearningStatement := do
  let fields ← strictFields [js "text", js "anchorIds", js "patchReferences"] value
  let text ← generatedText unicode 10 2000 (get (js "text") fields)
  let anchored ← readAnchored fields
  if declaredReferenceSet anchored && !asksAboutIdentityToolingOrAuthorship unicode text then
    return { anchored with text }
  else none

/-- The members of `PracticeQuestionCandidateV2Schema` in an object that may have further ones. -/
def readPracticeQuestionCandidate (fields : List (JsString × JsValue)) :
    Option PracticeQuestionCandidate := do
  let _ ← literal (js "2") (get (js "schemaVersion") fields)
  let _ ← literal (js "practice-question-v2") (get (js "questionVersion") fields)
  let focus ← oneOf PracticeQuestionFocus.all PracticeQuestionFocus.name
    (get (js "focus") fields)
  let prompt ← generatedText unicode 20 700 (get (js "prompt") fields)
  let anchored ← readAnchored fields
  let _ ← literalBool true (get (js "privateToPracticeSession") fields)
  if declaredReferenceSet anchored && !asksAboutIdentityToolingOrAuthorship unicode prompt then
    return { anchored with focus, prompt }
  else none

namespace PracticeQuestionCandidateV2Schema

def names : List JsString :=
  [js "schemaVersion", js "questionVersion", js "focus", js "prompt", js "anchorIds",
    js "patchReferences", js "privateToPracticeSession"]

def read (value : JsValue) : Option PracticeQuestionCandidate :=
  (strictFields names value).bind (readPracticeQuestionCandidate unicode)

end PracticeQuestionCandidateV2Schema

def PracticeQuestionV2Schema.read (value : JsValue) : Option PracticeQuestion := do
  let fields ← strictFields (PracticeQuestionCandidateV2Schema.names ++
    [js "id", js "order", js "revisionId", js "headSha", js "contextHash"]) value
  let candidate ← readPracticeQuestionCandidate unicode fields
  let id ← text isUuid (get (js "id") fields)
  let order ← natural 1 5 (get (js "order") fields)
  let revisionId ← text isUuid (get (js "revisionId") fields)
  let headSha ← text Domain.isGitSha (get (js "headSha") fields)
  let contextHash ← text isSha256 (get (js "contextHash") fields)
  return { candidate with id, order, revisionId, headSha, contextHash }

/-- `z.array(AnchoredLearningStatementV1Schema).min(minimum).max(maximum)` -/
def readStatements (minimum maximum : ℕ) : JsValue → Option (List AnchoredLearningStatement) :=
  array minimum maximum (AnchoredLearningStatementV1Schema.read unicode)

def LearningBundleCandidateV1Schema.read (value : JsValue) : Option LearningBundleCandidate := do
  let fields ← strictFields [js "schemaVersion", js "learningVersion", js "patchIntent",
    js "changedAreas", js "behaviors", js "interfaces", js "risks", js "testGaps", js "testIdeas",
    js "rollbackSignals", js "practiceQuestions"] value
  let _ ← literal (js "1") (get (js "schemaVersion") fields)
  let _ ← literal (js "learning-bundle-v1") (get (js "learningVersion") fields)
  let patchIntent ← AnchoredLearningStatementV1Schema.read unicode (get (js "patchIntent") fields)
  let changedAreas ← readStatements unicode 1 12 (get (js "changedAreas") fields)
  let behaviors ← readStatements unicode 1 12 (get (js "behaviors") fields)
  let interfaces ← readStatements unicode 0 12 (get (js "interfaces") fields)
  let risks ← readStatements unicode 1 12 (get (js "risks") fields)
  let testGaps ← readStatements unicode 1 8 (get (js "testGaps") fields)
  let testIdeas ← readStatements unicode 1 8 (get (js "testIdeas") fields)
  let rollbackSignals ← readStatements unicode 1 8 (get (js "rollbackSignals") fields)
  let practiceQuestions ← array 3 5 (PracticeQuestionCandidateV2Schema.read unicode)
    (get (js "practiceQuestions") fields)
  if (practiceQuestions.map fun question => normalize unicode question.prompt).Nodup then
    return {
      patchIntent, changedAreas, behaviors, interfaces, risks, testGaps, testIdeas
      rollbackSignals, practiceQuestions }
  else none

def PracticeFeedbackCandidateV1Schema.read (value : JsValue) :
    Option PracticeFeedbackCandidate := do
  let fields ← strictFields [js "schemaVersion", js "feedbackVersion", js "understood",
    js "missingPatchDetail", js "hint", js "scoreIncluded", js "modelAnswerIncluded"] value
  let _ ← literal (js "1") (get (js "schemaVersion") fields)
  let _ ← literal (js "practice-feedback-v1") (get (js "feedbackVersion") fields)
  let understood ← AnchoredLearningStatementV1Schema.read unicode (get (js "understood") fields)
  let missingPatchDetail ← AnchoredLearningStatementV1Schema.read unicode
    (get (js "missingPatchDetail") fields)
  let hint ← AnchoredLearningStatementV1Schema.read unicode (get (js "hint") fields)
  let _ ← literalBool false (get (js "scoreIncluded") fields)
  let _ ← literalBool false (get (js "modelAnswerIncluded") fields)
  return { understood, missingPatchDetail, hint }

end Learning

/-! ## Proof questions -/

inductive ProofQuestionIntent where
  | explain
  | predict
  | tradeoff
  | failurePath
  | testAndRollback
  deriving DecidableEq, Repr

namespace ProofQuestionIntent

def all : List ProofQuestionIntent := [explain, predict, tradeoff, failurePath, testAndRollback]

def name : ProofQuestionIntent → JsString
  | explain => js "explain"
  | predict => js "predict"
  | tradeoff => js "tradeoff"
  | failurePath => js "failure_path"
  | testAndRollback => js "test_and_rollback"

end ProofQuestionIntent

structure AnchoredRubricStatement extends Anchored where
  description : JsString
  deriving DecidableEq, Repr

structure ProofRubric where
  requiredPoints : List AnchoredRubricStatement
  observableSignals : List AnchoredRubricStatement
  antiGenericReason : AnchoredRubricStatement
  deriving DecidableEq, Repr

structure ProofQuestionCandidate extends Anchored where
  intent : ProofQuestionIntent
  focus : JsString
  prompt : JsString
  rubric : ProofRubric
  deriving DecidableEq, Repr

/-- The items of a rubric, in the order in which the code lists them. -/
def ProofRubric.items (rubric : ProofRubric) : List AnchoredRubricStatement :=
  rubric.requiredPoints ++ rubric.observableSignals ++ [rubric.antiGenericReason]

section Proof

variable (unicode : Unicode)

def AnchoredRubricStatementV2Schema.read (value : JsValue) : Option AnchoredRubricStatement := do
  let fields ← strictFields [js "description", js "anchorIds", js "patchReferences"] value
  let description ← generatedText unicode 8 300 (get (js "description") fields)
  let anchored ← readSingleAnchored fields
  if declaredReferenceSet anchored then return { anchored with description } else none

def ProofRubricV2Schema.read (value : JsValue) : Option ProofRubric := do
  let fields ← strictFields [js "schemaVersion", js "rubricVersion", js "requiredPoints",
    js "observableSignals", js "rejectsGenericAnswer", js "antiGenericReason"] value
  let _ ← literal (js "2") (get (js "schemaVersion") fields)
  let _ ← literal (js "proof-rubric-v2") (get (js "rubricVersion") fields)
  let requiredPoints ← array 2 5 (AnchoredRubricStatementV2Schema.read unicode)
    (get (js "requiredPoints") fields)
  let observableSignals ← array 1 5 (AnchoredRubricStatementV2Schema.read unicode)
    (get (js "observableSignals") fields)
  let _ ← literalBool true (get (js "rejectsGenericAnswer") fields)
  let antiGenericReason ← AnchoredRubricStatementV2Schema.read unicode
    (get (js "antiGenericReason") fields)
  if (requiredPoints.map fun point => normalize unicode point.description).Nodup then
    return { requiredPoints, observableSignals, antiGenericReason }
  else none

/-- Every rubric item has the single anchor and the single reference of the question. -/
def rubricUsesQuestionAnchor (anchored : Anchored) (rubric : ProofRubric) : Bool :=
  match anchored.anchorIds.head?, anchored.patchReferences.head? with
  | some anchor, some reference => rubric.items.all fun item =>
      item.anchorIds.head? == some anchor && item.patchReferences.head? == some reference
  | _, _ => false

def ProofQuestionCandidateV2Schema.read (value : JsValue) : Option ProofQuestionCandidate := do
  let fields ← strictFields [js "schemaVersion", js "questionVersion", js "intent", js "focus",
    js "prompt", js "anchorIds", js "patchReferences", js "rubric"] value
  let _ ← literal (js "2") (get (js "schemaVersion") fields)
  let _ ← literal (js "proof-question-candidate-v2") (get (js "questionVersion") fields)
  let intent ← oneOf ProofQuestionIntent.all ProofQuestionIntent.name (get (js "intent") fields)
  let focus ← generatedText unicode 3 120 (get (js "focus") fields)
  let prompt ← generatedText unicode 20 1000 (get (js "prompt") fields)
  let anchored ← readSingleAnchored fields
  let rubric ← ProofRubricV2Schema.read unicode (get (js "rubric") fields)
  let personOrToolContent := focus :: prompt ::
    rubric.items.map AnchoredRubricStatement.description
  if declaredReferenceSet anchored &&
      !personOrToolContent.any (asksAboutIdentityToolingOrAuthorship unicode) &&
      rubricUsesQuestionAnchor anchored rubric then
    return { anchored with intent, focus, prompt, rubric }
  else none

end Proof

/-! ## Private content -/

section Private

variable (unicode : Unicode)

/-- `ForbiddenProofContentV1Schema` on a list of texts; they go on trimmed. -/
def ForbiddenProofContentV1Schema.parse (texts : List JsString) : Option (List JsString) :=
  let trimmed := texts.map JsString.trim
  if (1 ≤ texts.length ∧ texts.length ≤ 60) ∧ ∀ s ∈ trimmed, 1 ≤ s.length ∧ s.length ≤ 2000 then
    some trimmed else none

/-- `String.prototype.includes` -/
def includes (s part : JsString) : Bool := s.tails.any fun rest => part.isPrefixOf rest

def practiceContentExcludesProofContentV1 (practiceContent forbiddenProofContent : List JsString) :
    Bool :=
  if forbiddenProofContent = [] then true
  else
    match ForbiddenProofContentV1Schema.parse forbiddenProofContent with
    | none => false
    | some parsed =>
        let normalizedProof := (parsed.map (normalize unicode)).filter fun s => s ≠ []
        practiceContent.all fun practiceValue =>
          let normalizedPractice := normalize unicode practiceValue
          normalizedProof.all fun proofValue =>
            normalizedPractice ≠ proofValue &&
              (proofValue.length < 20 || !includes normalizedPractice proofValue)

def learningBundleExcludesProofContentV1 (learning : LearningBundleCandidate)
    (forbiddenProofContent : List JsString) : Bool :=
  practiceContentExcludesProofContentV1 unicode
    (learning.patchIntent.text :: learning.changedAreas.map AnchoredLearningStatement.text ++
      learning.behaviors.map AnchoredLearningStatement.text ++
      learning.interfaces.map AnchoredLearningStatement.text ++
      learning.risks.map AnchoredLearningStatement.text ++
      learning.testGaps.map AnchoredLearningStatement.text ++
      learning.testIdeas.map AnchoredLearningStatement.text ++
      learning.rollbackSignals.map AnchoredLearningStatement.text ++
      learning.practiceQuestions.map PracticeQuestionCandidate.prompt) forbiddenProofContent

def practiceFeedbackExcludesProofContentV1 (feedback : PracticeFeedbackCandidate)
    (forbiddenProofContent : List JsString) : Bool :=
  practiceContentExcludesProofContentV1 unicode
    [feedback.understood.text, feedback.missingPatchDetail.text, feedback.hint.text]
    forbiddenProofContent

end Private

/-! ## The validators -/

/-- The last anchor under an identifier, as a map keeps it. -/
def descriptorOf (context : GenerationContext) (anchorId : JsString) :
    Option GenerationContextAnchor :=
  context.anchors.reverse.find? fun anchor => anchor.id == anchorId

/-- A reference that is not the one of its anchor. -/
def mismatches (context : GenerationContext) (reference : SemanticPatchReference) : Bool :=
  match descriptorOf context reference.anchorId with
  | none => true
  | some descriptor => descriptor.filename.content != reference.file ||
      descriptor.oldStart != reference.oldStart || descriptor.newStart != reference.newStart

def assertKnownConcreteAnchors (context : GenerationContext) (statements : List Anchored) :
    Except SemanticContentValidationCode Unit :=
  statements.forM fun statement => do
    rejectIf (statement.anchorIds = [] ∨
      ∃ anchorId ∈ statement.anchorIds, anchorId ∉ context.allowedAnchorIds) .anchorInvalid
    rejectIf (statement.patchReferences.length ≠ statement.anchorIds.length) .anchorInvalid
    statement.patchReferences.forM fun reference =>
      rejectIf (mismatches context reference = true) .anchorInvalid

section Validators

variable (unicode : Unicode) (hash : Sha256)

/-- The data of a successful parse, or the error of the validators. -/
def requireParsed {α : Type} (parsed : Option α) : Except SemanticContentValidationCode α :=
  match parsed with
  | some a => .ok a
  | none => .error .schemaInvalid

def validateLearningBundleCandidateV1 (rawCandidate rawContext : JsValue)
    (expectedPracticeQuestionCount : Option ℚ) (forbiddenProofContent : List JsString) :
    Except SemanticContentValidationCode LearningBundleCandidate := do
  let candidate ← requireParsed (LearningBundleCandidateV1Schema.read unicode rawCandidate)
  let context ← requireParsed (GenerationContextV1Schema.read hash rawContext)
  rejectIf (∃ count ∈ expectedPracticeQuestionCount,
    (candidate.practiceQuestions.length : ℚ) ≠ count) .countInvalid
  let statements :=
    candidate.patchIntent.toAnchored ::
      candidate.changedAreas.map AnchoredLearningStatement.toAnchored ++
      candidate.behaviors.map AnchoredLearningStatement.toAnchored ++
      candidate.interfaces.map AnchoredLearningStatement.toAnchored ++
      candidate.risks.map AnchoredLearningStatement.toAnchored ++
      candidate.testGaps.map AnchoredLearningStatement.toAnchored ++
      candidate.testIdeas.map AnchoredLearningStatement.toAnchored ++
      candidate.rollbackSignals.map AnchoredLearningStatement.toAnchored ++
      candidate.practiceQuestions.map PracticeQuestionCandidate.toAnchored
  assertKnownConcreteAnchors context statements
  rejectIf (forbiddenProofContent ≠ [] ∧
    learningBundleExcludesProofContentV1 unicode candidate forbiddenProofContent = false)
    .contentPolicyInvalid
  return candidate

def validatePracticeFeedbackCandidateV1 (rawCandidate rawContext rawQuestion : JsValue)
    (forbiddenProofContent : List JsString) :
    Except SemanticContentValidationCode PracticeFeedbackCandidate := do
  let candidate ← requireParsed (PracticeFeedbackCandidateV1Schema.read unicode rawCandidate)
  let context ← requireParsed (GenerationContextV1Schema.read hash rawContext)
  let question ← requireParsed (PracticeQuestionV2Schema.read unicode rawQuestion)
  let statements :=
    [candidate.understood.toAnchored, candidate.missingPatchDetail.toAnchored,
      candidate.hint.toAnchored]
  assertKnownConcreteAnchors context statements
  rejectIf (∃ statement ∈ statements, ∃ anchorId ∈ statement.anchorIds,
    anchorId ∉ question.anchorIds) .anchorInvalid
  rejectIf (forbiddenProofContent ≠ [] ∧
    practiceFeedbackExcludesProofContentV1 unicode candidate forbiddenProofContent = false)
    .contentPolicyInvalid
  return candidate

def validateProofQuestionCandidatesV2 (rawCandidates rawContext : JsValue) (expectedCount : ℚ) :
    Except SemanticContentValidationCode (List ProofQuestionCandidate) := do
  let candidates ← requireParsed
    (array 1 5 (ProofQuestionCandidateV2Schema.read unicode) rawCandidates)
  let context ← requireParsed (GenerationContextV1Schema.read hash rawContext)
  rejectIf ((candidates.length : ℚ) ≠ expectedCount) .countInvalid
  rejectIf (¬ (candidates.map fun candidate => normalize unicode candidate.prompt).Nodup)
    .contentPolicyInvalid
  candidates.forM fun candidate => assertKnownConcreteAnchors context
    (candidate.toAnchored :: candidate.rubric.items.map AnchoredRubricStatement.toAnchored)
  return candidates

end Validators

end Questions

end UnderstandProof
