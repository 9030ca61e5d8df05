import UnderstandProof.Domain.Primitives
import UnderstandProof.Foundation.JsSchema

/-!
# The generation context

What a semantic provider is told about a revision: title, body, patches, anchors and excerpts under
their trust labels, the limits that were applied and what they left out. Each object has its reader,
which is the schema, and its writer.
-/

open Foundation
open Foundation.JsValue

namespace UnderstandProof

namespace Analysis

/-! ## Enumerations -/

inductive UntrustedSource where
  | pullRequestTitle
  | pullRequestBody
  | pullRequestFilename
  | pullRequestPatch
  | changedFileExcerpt
  | analysisHunkHeader
  | analysisAnchorEvidence
  deriving DecidableEq, Repr

namespace UntrustedSource

def all : List UntrustedSource :=
  [pullRequestTitle, pullRequestBody, pullRequestFilename, pullRequestPatch, changedFileExcerpt,
    analysisHunkHeader, analysisAnchorEvidence]

def name : UntrustedSource → JsString
  | pullRequestTitle => js "pull_request_title"
  | pullRequestBody => js "pull_request_body"
  | pullRequestFilename => js "pull_request_filename"
  | pullRequestPatch => js "pull_request_patch"
  | changedFileExcerpt => js "changed_file_excerpt"
  | analysisHunkHeader => js "analysis_hunk_header"
  | analysisAnchorEvidence => js "analysis_anchor_evidence"

end UntrustedSource

inductive FileStatus where
  | added
  | removed
  | modified
  | renamed
  | copied
  | changed
  | unchanged
  deriving DecidableEq, Repr

namespace FileStatus

def all : List FileStatus := [added, removed, modified, renamed, copied, changed, unchanged]

def name : FileStatus → JsString
  | added => js "added"
  | removed => js "removed"
  | modified => js "modified"
  | renamed => js "renamed"
  | copied => js "copied"
  | changed => js "changed"
  | unchanged => js "unchanged"

end FileStatus

inductive ExcerptSide where
  | base
  | head
  deriving DecidableEq, Repr

namespace ExcerptSide

def all : List ExcerptSide := [base, head]

def name : ExcerptSide → JsString
  | base => js "base"
  | head => js "head"

end ExcerptSide

inductive LimitHit where
  | sourceFileCount
  | sourcePatchBytes
  | sourcePatchUnavailable
  | fileCount
  | hunkCount
  | totalBytes
  | fileBytes
  | titleBytes
  | bodyBytes
  | excerptCount
  | excerptBytes
  deriving DecidableEq, Repr

namespace LimitHit

def all : List LimitHit :=
  [sourceFileCount, sourcePatchBytes, sourcePatchUnavailable, fileCount, hunkCount, totalBytes,
    fileBytes, titleBytes, bodyBytes, excerptCount, excerptBytes]

def name : LimitHit → JsString
  | sourceFileCount => js "source_file_count"
  | sourcePatchBytes => js "source_patch_bytes"
  | sourcePatchUnavailable => js "source_patch_unavailable"
  | fileCount => js "file_count"
  | hunkCount => js "hunk_count"
  | totalBytes => js "total_bytes"
  | fileBytes => js "file_bytes"
  | titleBytes => js "title_bytes"
  | bodyBytes => js "body_bytes"
  | excerptCount => js "excerpt_count"
  | excerptBytes => js "excerpt_bytes"

end LimitHit

inductive ExclusionReason where
  | fileCount
  | hunkCount
  | totalBytes
  | fileBytes
  | patchUnavailable
  | archive
  | lfsPointer
  | submodule
  | symlink
  | generated
  | lockfile
  | unusualPath
  | malformedPatch
  | excerptNotChangedText
  | excerptCount
  | excerptBytes
  deriving DecidableEq, Repr

namespace ExclusionReason

def all : List ExclusionReason :=
  [fileCount, hunkCount, totalBytes, fileBytes, patchUnavailable, archive, lfsPointer, submodule,
    symlink, generated, lockfile, unusualPath, malformedPatch, excerptNotChangedText, excerptCount,
    excerptBytes]

def name : ExclusionReason → JsString
  | fileCount => js "file_count"
  | hunkCount => js "hunk_count"
  | totalBytes => js "total_bytes"
  | fileBytes => js "file_bytes"
  | patchUnavailable => js "patch_unavailable"
  | archive => js "archive"
  | lfsPointer => js "lfs_pointer"
  | submodule => js "submodule"
  | symlink => js "symlink"
  | generated => js "generated"
  | lockfile => js "lockfile"
  | unusualPath => js "unusual_path"
  | malformedPatch => js "malformed_patch"
  | excerptNotChangedText => js "excerpt_not_changed_text"
  | excerptCount => js "excerpt_count"
  | excerptBytes => js "excerpt_bytes"

end ExclusionReason

/-- `/^a(?:0|[1-9][0-9]{0,2})$/` -/
def isAnchorId : JsString → Bool
  | [letter, digit] => letter == 0x61 && isDigit digit
  | [letter, first, second] => letter == 0x61 && isLeadingDigit first && isDigit second
  | [letter, first, second, third] =>
      letter == 0x61 && isLeadingDigit first && isDigit second && isDigit third
  | _ => false
where
  isDigit (c : UInt16) : Bool := 0x30 ≤ c && c ≤ 0x39
  isLeadingDigit (c : UInt16) : Bool := 0x31 ≤ c && c ≤ 0x39

/-- `/^[a-f0-9]{64}$/` -/
def isSha256 (s : JsString) : Bool := s.length == 64 && s.all isLowerHex

/-! ## Untrusted data -/

structure UntrustedGenerationData where
  source : UntrustedSource
  content : JsString
  deriving DecidableEq, Repr

namespace UntrustedGenerationDataV1Schema

def names : List JsString := [js "trust", js "source", js "content"]

def read (value : JsValue) : Option UntrustedGenerationData := do
  let fields ← strictFields names value
  let _ ← literal (js "untrusted") (get (js "trust") fields)
  let source ← oneOf UntrustedSource.all UntrustedSource.name (get (js "source") fields)
  let content ← text (fun s => s.length ≤ 128 * 1024) (get (js "content") fields)
  return { source, content }

def values (data : UntrustedGenerationData) : List JsValue :=
  [.str (js "untrusted"), .str data.source.name, .str data.content]

def write (data : UntrustedGenerationData) : JsValue := record names (values data)

/-- The refinement of a trust label. -/
def labelled (source : UntrustedSource) (value : JsValue) : Option UntrustedGenerationData :=
  (read value).filter fun data => data.source = source

end UntrustedGenerationDataV1Schema

/-- `untrusted(source, content)` -/
def untrusted (source : UntrustedSource) (content : JsString) : UntrustedGenerationData :=
  ⟨source, content⟩

/-! ## Files, anchors, excerpts and exclusions -/

structure GenerationContextFile where
  filename : UntrustedGenerationData
  previousFilename : Option UntrustedGenerationData
  status : FileStatus
  testFile : Bool
  patch : UntrustedGenerationData
  patchBytes : ℕ
  anchorIds : List JsString
  deriving DecidableEq, Repr

namespace GenerationContextFileV1Schema

def names : List JsString :=
  [js "filename", js "previousFilename", js "status", js "testFile", js "patch", js "patchBytes",
    js "anchorIds"]

def read (value : JsValue) : Option GenerationContextFile := do
  let fields ← strictFields names value
  let filename ← UntrustedGenerationDataV1Schema.labelled .pullRequestFilename
    (get (js "filename") fields)
  let previousFilename ← optional (UntrustedGenerationDataV1Schema.labelled .pullRequestFilename)
    (get (js "previousFilename") fields)
  let status ← oneOf FileStatus.all FileStatus.name (get (js "status") fields)
  let testFile ← boolean (get (js "testFile") fields)
  let patch ← UntrustedGenerationDataV1Schema.labelled .pullRequestPatch (get (js "patch") fields)
  let patchBytes ← natural 1 (128 * 1024) (get (js "patchBytes") fields)
  let anchorIds ← array 1 400 (text isAnchorId) (get (js "anchorIds") fields)
  return { filename, previousFilename, status, testFile, patch, patchBytes, anchorIds }

def values (file : GenerationContextFile) : List JsValue :=
  [UntrustedGenerationDataV1Schema.write file.filename,
    ofOptional UntrustedGenerationDataV1Schema.write file.previousFilename,
    .str file.status.name, .bool file.testFile, UntrustedGenerationDataV1Schema.write file.patch,
    .num file.patchBytes, ofArray ofText file.anchorIds]

def write (file : GenerationContextFile) : JsValue := record names (values file)

end GenerationContextFileV1Schema

structure GenerationContextExcerpt where
  filename : UntrustedGenerationData
  side : ExcerptSide
  startLine : ℕ
  endLine : ℕ
  excerpt : UntrustedGenerationData
  excerptBytes : ℕ
  deriving DecidableEq, Repr

namespace GenerationContextExcerptV1Schema

def names : List JsString :=
  [js "filename", js "side", js "startLine", js "endLine", js "excerpt", js "excerptBytes"]

def read (value : JsValue) : Option GenerationContextExcerpt := do
  let fields ← strictFields names value
  let filename ← UntrustedGenerationDataV1Schema.labelled .pullRequestFilename
    (get (js "filename") fields)
  let side ← oneOf ExcerptSide.all ExcerptSide.name (get (js "side") fields)
  let startLine ← natural 1 maxSafeInteger (get (js "startLine") fields)
  let endLine ← natural 1 maxSafeInteger (get (js "endLine") fields)
  let excerpt ← UntrustedGenerationDataV1Schema.labelled .changedFileExcerpt
    (get (js "excerpt") fields)
  let excerptBytes ← natural 1 4096 (get (js "excerptBytes") fields)
  return { filename, side, startLine, endLine, excerpt, excerptBytes }

def values (excerpt : GenerationContextExcerpt) : List JsValue :=
  [UntrustedGenerationDataV1Schema.write excerpt.filename, .str excerpt.side.name,
    .num excerpt.startLine, .num excerpt.endLine,
    UntrustedGenerationDataV1Schema.write excerpt.excerpt, .num excerpt.excerptBytes]

def write (excerpt : GenerationContextExcerpt) : JsValue := record names (values excerpt)

end GenerationContextExcerptV1Schema

structure GenerationContextAnchor where
  id : JsString
  filename : UntrustedGenerationData
  hunkHeader : UntrustedGenerationData
  oldStart : ℕ
  newStart : ℕ
  changedLines : ℕ
  evidence : UntrustedGenerationData
  deriving DecidableEq, Repr

namespace GenerationContextAnchorV1Schema

def names : List JsString :=
  [js "id", js "filename", js "hunkHeader", js "oldStart", js "newStart", js "changedLines",
    js "evidence"]

def read (value : JsValue) : Option GenerationContextAnchor := do
  let fields ← strictFields names value
  let id ← text isAnchorId (get (js "id") fields)
  let filename ← UntrustedGenerationDataV1Schema.labelled .pullRequestFilename
    (get (js "filename") fields)
  let hunkHeader ← UntrustedGenerationDataV1Schema.labelled .analysisHunkHeader
    (get (js "hunkHeader") fields)
  let oldStart ← natural 0 maxSafeInteger (get (js "oldStart") fields)
  let newStart ← natural 0 maxSafeInteger (get (js "newStart") fields)
  let changedLines ← natural 1 maxSafeInteger (get (js "changedLines") fields)
  let evidence ← UntrustedGenerationDataV1Schema.labelled .analysisAnchorEvidence
    (get (js "evidence") fields)
  return { id, filename, hunkHeader, oldStart, newStart, changedLines, evidence }

def values (anchor : GenerationContextAnchor) : List JsValue :=
  [.str anchor.id, UntrustedGenerationDataV1Schema.write anchor.filename,
    UntrustedGenerationDataV1Schema.write anchor.hunkHeader, .num anchor.oldStart,
    .num anchor.newStart, .num anchor.changedLines,
    UntrustedGenerationDataV1Schema.write anchor.evidence]

def write (anchor : GenerationContextAnchor) : JsValue := record names (values anchor)

end GenerationContextAnchorV1Schema

structure GenerationContextProviderExclusion where
  filename : Option UntrustedGenerationData
  reason : ExclusionReason
  deriving DecidableEq, Repr

namespace GenerationContextProviderExclusionV1Schema

def names : List JsString := [js "filename", js "reason"]

def read (value : JsValue) : Option GenerationContextProviderExclusion := do
  let fields ← strictFields names value
  let filename ← optional (UntrustedGenerationDataV1Schema.labelled .pullRequestFilename)
    (get (js "filename") fields)
  let reason ← oneOf ExclusionReason.all ExclusionReason.name (get (js "reason") fields)
  return { filename, reason }

def values (exclusion : GenerationContextProviderExclusion) : List JsValue :=
  [ofOptional UntrustedGenerationDataV1Schema.write exclusion.filename,
    .str exclusion.reason.name]

def write (exclusion : GenerationContextProviderExclusion) : JsValue :=
  record names (values exclusion)

end GenerationContextProviderExclusionV1Schema

/-! ## Limits and usage -/

structure GenerationContextLimits where
  maximumFiles : ℕ
  maximumHunks : ℕ
  maximumTotalBytes : ℕ
  maximumFileBytes : ℕ
  maximumTitleBytes : ℕ
  maximumBodyBytes : ℕ
  maximumExcerpts : ℕ
  maximumExcerptBytes : ℕ
  deriving DecidableEq, Repr

namespace GenerationContextLimitsV1Schema

def names : List JsString :=
  [js "maximumFiles", js "maximumHunks", js "maximumTotalBytes", js "maximumFileBytes",
    js "maximumTitleBytes", js "maximumBodyBytes", js "maximumExcerpts", js "maximumExcerptBytes"]

/-- The members, before the refinement. -/
def readMembers (value : JsValue) : Option GenerationContextLimits := do
  let fields ← strictFields names value
  let maximumFiles ← natural 1 120 (get (js "maximumFiles") fields)
  let maximumHunks ← natural 1 400 (get (js "maximumHunks") fields)
  let maximumTotalBytes ← natural 1024 (512 * 1024) (get (js "maximumTotalBytes") fields)
  let maximumFileBytes ← natural 512 (64 * 1024) (get (js "maximumFileBytes") fields)
  let maximumTitleBytes ← natural 64 (2 * 1024) (get (js "maximumTitleBytes") fields)
  let maximumBodyBytes ← natural 128 (16 * 1024) (get (js "maximumBodyBytes") fields)
  let maximumExcerpts ← natural 0 12 (get (js "maximumExcerpts") fields)
  let maximumExcerptBytes ← natural 128 4096 (get (js "maximumExcerptBytes") fields)
  return {
    maximumFiles, maximumHunks, maximumTotalBytes, maximumFileBytes, maximumTitleBytes
    maximumBodyBytes, maximumExcerpts, maximumExcerptBytes }

/-- No part may be larger than the whole. -/
def refines (limits : GenerationContextLimits) : Bool :=
  limits.maximumFileBytes ≤ limits.maximumTotalBytes &&
    limits.maximumExcerptBytes ≤ limits.maximumTotalBytes &&
    limits.maximumTitleBytes ≤ limits.maximumTotalBytes &&
    limits.maximumBodyBytes ≤ limits.maximumTotalBytes

def read (value : JsValue) : Option GenerationContextLimits := (readMembers value).filter refines

def values (limits : GenerationContextLimits) : List JsValue :=
  [.num limits.maximumFiles, .num limits.maximumHunks, .num limits.maximumTotalBytes,
    .num limits.maximumFileBytes, .num limits.maximumTitleBytes, .num limits.maximumBodyBytes,
    .num limits.maximumExcerpts, .num limits.maximumExcerptBytes]

def write (limits : GenerationContextLimits) : JsValue := record names (values limits)

end GenerationContextLimitsV1Schema

structure GenerationContextUsage where
  includedFiles : ℕ
  includedHunks : ℕ
  titleBytes : ℕ
  bodyBytes : ℕ
  patchBytes : ℕ
  excerptBytes : ℕ
  totalBytes : ℕ
  providerBytes : ℕ
  deriving DecidableEq, Repr

namespace GenerationContextUsageSchema

def names : List JsString :=
  [js "includedFiles", js "includedHunks", js "titleBytes", js "bodyBytes", js "patchBytes",
    js "excerptBytes", js "totalBytes", js "providerBytes"]

def read (value : JsValue) : Option GenerationContextUsage := do
  let fields ← strictFields names value
  let includedFiles ← natural 0 120 (get (js "includedFiles") fields)
  let includedHunks ← natural 0 400 (get (js "includedHunks") fields)
  let titleBytes ← natural 0 4096 (get (js "titleBytes") fields)
  let bodyBytes ← natural 0 65536 (get (js "bodyBytes") fields)
  let patchBytes ← natural 0 (512 * 1024) (get (js "patchBytes") fields)
  let excerptBytes ← natural 0 (48 * 1024) (get (js "excerptBytes") fields)
  let totalBytes ← natural 0 (512 * 1024) (get (js "totalBytes") fields)
  let providerBytes ← natural 0 (512 * 1024) (get (js "providerBytes") fields)
  return {
    includedFiles, includedHunks, titleBytes, bodyBytes, patchBytes, excerptBytes, totalBytes
    providerBytes }

def values (usage : GenerationContextUsage) : List JsValue :=
  [.num usage.includedFiles, .num usage.includedHunks, .num usage.titleBytes,
    .num usage.bodyBytes, .num usage.patchBytes, .num usage.excerptBytes, .num usage.totalBytes,
    .num usage.providerBytes]

def write (usage : GenerationContextUsage) : JsValue := record names (values usage)

end GenerationContextUsageSchema

/-! ## The context -/

structure GenerationContext where
  revisionId : JsString
  headSha : JsString
  baseSha : JsString
  analysisSnapshotId : JsString
  sourceHash : JsString
  contextHash : JsString
  title : UntrustedGenerationData
  body : Option UntrustedGenerationData
  files : List GenerationContextFile
  anchors : List GenerationContextAnchor
  excerpts : List GenerationContextExcerpt
  deterministicTestFiles : List UntrustedGenerationData
  allowedAnchorIds : List JsString
  limits : GenerationContextLimits
  limitsHit : List LimitHit
  exclusions : List GenerationContextProviderExclusion
  usage : GenerationContextUsage
  deriving DecidableEq, Repr

namespace GenerationContextV1BaseSchema

def names : List JsString :=
  [js "schemaVersion", js "contextVersion", js "revisionId", js "headSha", js "baseSha",
    js "analysisSnapshotId", js "sourceHash", js "analyzerVersion", js "contextHash", js "title",
    js "body", js "files", js "anchors", js "excerpts", js "deterministicTestFiles",
    js "allowedAnchorIds", js "limits", js "limitsHit", js "exclusions", js "usage"]

def read (value : JsValue) : Option GenerationContext := do
  let fields ← strictFields names value
  let _ ← literal (js "1") (get (js "schemaVersion") fields)
  let _ ← literal (js "generation-context-v1") (get (js "contextVersion") fields)
  let revisionId ← text isUuid (get (js "revisionId") fields)
  let headSha ← text Domain.isGitSha (get (js "headSha") fields)
  let baseSha ← text Domain.isGitSha (get (js "baseSha") fields)
  let analysisSnapshotId ← text isUuid (get (js "analysisSnapshotId") fields)
  let sourceHash ← text isSha256 (get (js "sourceHash") fields)
  let _ ← literal (js "bounded-diff-v1") (get (js "analyzerVersion") fields)
  let contextHash ← text isSha256 (get (js "contextHash") fields)
  let title ← UntrustedGenerationDataV1Schema.labelled .pullRequestTitle (get (js "title") fields)
  let body ← nullable (UntrustedGenerationDataV1Schema.labelled .pullRequestBody)
    (get (js "body") fields)
  let files ← array 0 120 GenerationContextFileV1Schema.read (get (js "files") fields)
  let anchors ← array 0 400 GenerationContextAnchorV1Schema.read (get (js "anchors") fields)
  let excerpts ← array 0 12 GenerationContextExcerptV1Schema.read (get (js "excerpts") fields)
  let deterministicTestFiles ← array 0 120
    (UntrustedGenerationDataV1Schema.labelled .pullRequestFilename)
    (get (js "deterministicTestFiles") fields)
  let allowedAnchorIds ← array 0 400 (text isAnchorId) (get (js "allowedAnchorIds") fields)
  let limits ← GenerationContextLimitsV1Schema.read (get (js "limits") fields)
  let limitsHit ← array 0 20 (oneOf LimitHit.all LimitHit.name) (get (js "limitsHit") fields)
  let exclusions ← array 0 600 GenerationContextProviderExclusionV1Schema.read
    (get (js "exclusions") fields)
  let usage ← GenerationContextUsageSchema.read (get (js "usage") fields)
  return {
    revisionId, headSha, baseSha, analysisSnapshotId, sourceHash, contextHash, title, body, files
    anchors, excerpts, deterministicTestFiles, allowedAnchorIds, limits, limitsHit, exclusions
    usage }

def values (context : GenerationContext) : List JsValue :=
  [.str (js "1"), .str (js "generation-context-v1"), .str context.revisionId,
    .str context.headSha, .str context.baseSha, .str context.analysisSnapshotId,
    .str context.sourceHash, .str (js "bounded-diff-v1"), .str context.contextHash,
    UntrustedGenerationDataV1Schema.write context.title,
    ofNullable UntrustedGenerationDataV1Schema.write context.body,
    ofArray GenerationContextFileV1Schema.write context.files,
    ofArray GenerationContextAnchorV1Schema.write context.anchors,
    ofArray GenerationContextExcerptV1Schema.write context.excerpts,
    ofArray UntrustedGenerationDataV1Schema.write context.deterministicTestFiles,
    ofArray ofText context.allowedAnchorIds, GenerationContextLimitsV1Schema.write context.limits,
    ofArray (fun hit => .str hit.name) context.limitsHit,
    ofArray GenerationContextProviderExclusionV1Schema.write context.exclusions,
    GenerationContextUsageSchema.write context.usage]

def write (context : GenerationContext) : JsValue := record names (values context)

end GenerationContextV1BaseSchema

end Analysis

end UnderstandProof
