import UnderstandProof.Analysis.GenerationContext
import UnderstandProof.Foundation.Regex
import UnderstandProof.Media.Crypto

/-!
# The schema of a generation context

The refinement of the base schema: the parts of a context fit together, its usage counts what it
holds, and its hash is the one of everything else.
-/

open Foundation
open Foundation.JsValue

namespace UnderstandProof

namespace Analysis

open Foundation.JsString (utf8Bytes utf8Encode)
open Media (Sha256 sha256Hex)

/-! ## Test files -/

/-- Simple case folding, as far as it reaches the letters of the alphabet. -/
def foldCase (c : UInt16) : UInt16 :=
  if 0x41 ≤ c && c ≤ 0x5a then c + 0x20
  else if c == 0x17f then 0x73
  else if c == 0x212a then 0x6b
  else c

/-- The sameness of the flags `iu`. -/
def sameLetter (c d : UInt16) : Bool := foldCase c == foldCase d

/-- `/(?:^|\/)(?:test|tests|__tests__)(?:\/|$)|\.(?:test|spec)\.[^./]+$/` -/
def testFilePattern : Regex UInt16 :=
  .alt
    (Regex.seqs [.alt .start (.letter 0x2f),
      Regex.anyOf [js "test", js "tests", js "__tests__"], .alt (.letter 0x2f) .stop])
    (Regex.seqs [.letter 0x2e, Regex.anyOf [js "test", js "spec"], .letter 0x2e,
      Regex.some₁ fun c => c != 0x2e && c != 0x2f, .stop])

def isDeterministicTestFile (path : JsString) : Bool := testFilePattern.test sameLetter path

/-! ## Canonical texts -/

/-- The text of a context without its hash. -/
def canonicalGenerationContextMaterialV1 (context : JsValue) : JsString :=
  stableJson (withoutMember (js "contextHash") context)

def sha256 (hash : Sha256) (value : JsString) : JsString := sha256Hex hash (utf8Encode value)

def computeGenerationContextHash (hash : Sha256) (context : JsValue) : JsString :=
  sha256 hash (canonicalGenerationContextMaterialV1 context)

namespace GenerationProviderMaterialV1Schema

def names : List JsString :=
  [js "schemaVersion", js "trust", js "title", js "body", js "files", js "anchors", js "excerpts",
    js "deterministicTestFiles", js "allowedAnchorIds", js "limits", js "limitsHit",
    js "exclusions"]

end GenerationProviderMaterialV1Schema

/-- `generationProviderMaterial(providerFieldsFromContext(context))`; its schema accepts the fields
of a context that the base schema has accepted, and keeps them as they are. -/
def generationProviderMaterial (context : GenerationContext) : JsValue :=
  record GenerationProviderMaterialV1Schema.names
    [.str (js "1"), .str (js "untrusted_github_revision"),
      UntrustedGenerationDataV1Schema.write context.title,
      ofNullable UntrustedGenerationDataV1Schema.write context.body,
      ofArray GenerationContextFileV1Schema.write context.files,
      ofArray GenerationContextAnchorV1Schema.write context.anchors,
      ofArray GenerationContextExcerptV1Schema.write context.excerpts,
      ofArray UntrustedGenerationDataV1Schema.write context.deterministicTestFiles,
      ofArray ofText context.allowedAnchorIds, GenerationContextLimitsV1Schema.write context.limits,
      ofArray (fun hit => .str hit.name) context.limitsHit,
      ofArray GenerationContextProviderExclusionV1Schema.write context.exclusions]

/-! ## The refinement -/

/-- `Number(anchorId.slice(1))` -/
def anchorNumber (anchorId : JsString) : ℕ :=
  (anchorId.drop 1).foldl (fun n c => 10 * n + (c.toNat - 0x30)) 0

/-- `sort(anchorIdOrder)` -/
def sortAnchorIds (anchorIds : List JsString) : List JsString :=
  anchorIds.insertionSort fun left right => anchorNumber left ≤ anchorNumber right

/-- Two lists of texts with the same `stableJson`. -/
def sameTexts (left right : List JsString) : Bool :=
  (ofArray ofText left).stableJson == (ofArray ofText right).stableJson

namespace GenerationContextV1Schema

variable (context : GenerationContext)

def filePaths : List JsString := context.files.map fun file => file.filename.content

def uniqueParts : Bool :=
  decide context.allowedAnchorIds.Nodup && decide context.limitsHit.Nodup &&
    decide (filePaths context).Nodup

def fileFits (file : GenerationContextFile) : Bool :=
  decide file.anchorIds.Nodup &&
    (file.anchorIds.all fun anchorId => context.allowedAnchorIds.contains anchorId) &&
    file.patchBytes == utf8Bytes file.patch.content &&
    utf8Bytes file.patch.content ≤ context.limits.maximumFileBytes &&
    file.testFile == isDeterministicTestFile file.filename.content

/-- The anchors that the files reference. -/
def referencedAnchors : List JsString := context.files.flatMap fun file => file.anchorIds

/-- `!file?.anchorIds.includes(anchor.id)` is false. -/
def anchorHasFile (anchor : GenerationContextAnchor) : Bool :=
  match context.files.find? fun file => file.filename.content == anchor.filename.content with
  | some file => file.anchorIds.contains anchor.id
  | none => false

def anchorsFit : Bool :=
  sameTexts (sortAnchorIds (context.anchors.map GenerationContextAnchor.id))
      (sortAnchorIds context.allowedAnchorIds) &&
    decide (context.anchors.map GenerationContextAnchor.id).Nodup &&
    context.anchors.all (anchorHasFile context)

def testFilesFit : Bool :=
  sameTexts
    (JsString.sort ((context.files.filter fun file => file.testFile).map fun file =>
      file.filename.content))
    (JsString.sort (context.deterministicTestFiles.map UntrustedGenerationData.content))

def excerptFits (excerpt : GenerationContextExcerpt) : Bool :=
  (filePaths context).contains excerpt.filename.content &&
    excerpt.startLine ≤ excerpt.endLine &&
    excerpt.excerptBytes == utf8Bytes excerpt.excerpt.content &&
    utf8Bytes excerpt.excerpt.content ≤ context.limits.maximumExcerptBytes

def bodyBytes : ℕ := (context.body.map fun body => utf8Bytes body.content).getD 0

def providerBytes : ℕ := utf8Bytes (generationProviderMaterial context).stableJson

def usageFits : Bool :=
  context.usage.includedFiles == context.files.length &&
    context.usage.includedHunks == context.allowedAnchorIds.length &&
    context.usage.titleBytes == utf8Bytes context.title.content &&
    context.usage.bodyBytes == bodyBytes context &&
    context.usage.patchBytes == (context.files.map GenerationContextFile.patchBytes).sum &&
    context.usage.excerptBytes ==
      (context.excerpts.map GenerationContextExcerpt.excerptBytes).sum &&
    context.usage.providerBytes == providerBytes context &&
    context.usage.totalBytes == context.usage.providerBytes &&
    context.files.length ≤ context.limits.maximumFiles &&
    context.allowedAnchorIds.length ≤ context.limits.maximumHunks &&
    context.excerpts.length ≤ context.limits.maximumExcerpts &&
    utf8Bytes context.title.content ≤ context.limits.maximumTitleBytes &&
    bodyBytes context ≤ context.limits.maximumBodyBytes &&
    context.usage.providerBytes ≤ context.limits.maximumTotalBytes

def hashFits (hash : Sha256) : Bool :=
  context.contextHash ==
    computeGenerationContextHash hash (GenerationContextV1BaseSchema.write context)

def refines (hash : Sha256) : Bool :=
  uniqueParts context && context.files.all (fileFits context) &&
    sameTexts (sortAnchorIds (referencedAnchors context))
      (sortAnchorIds context.allowedAnchorIds) &&
    anchorsFit context && testFilesFit context && context.excerpts.all (excerptFits context) &&
    usageFits context && hashFits context hash

/-- `GenerationContextV1Schema.safeParse` -/
def read (hash : Sha256) (value : JsValue) : Option GenerationContext :=
  (GenerationContextV1BaseSchema.read value).filter fun context => refines context hash

end GenerationContextV1Schema

end Analysis

end UnderstandProof
