import UnderstandProof.Analysis.GenerationContextSchema

/-!
# Reading what was written

A context within the bounds of its schema is read back from the value that it is written to.
-/

open Foundation
open Foundation.JsValue

namespace UnderstandProof

namespace Analysis

/-! ## Members -/

section Members

variable {α : Type}

/-- An object literal is read member by member. -/
theorem record_fields {names : List JsString} (hnames : names.Nodup) {values : List JsValue}
    (hlength : names.length = values.length) :
    ∃ fields, strictFields names (record names values) = some fields ∧
      (names.map fun name => get name fields) = values := by
  refine ⟨names.zip values, ?_, map_get_zip hnames hlength⟩
  have hstrict := strict_zip hnames hlength
  rw [record, strictFields, if_pos ⟨hstrict.nodup, hstrict.subset⟩]

theorem text_str {accepts : JsString → Bool} {s : JsString} (h : accepts s = true) :
    text accepts (.str s) = some s := if_pos h

theorem natural_num {minimum maximum n : ℕ} (h : minimum ≤ n ∧ n ≤ maximum) :
    natural minimum maximum (.num n) = some n := if_pos h

theorem literal_str (s : JsString) : literal s (.str s) = some () := if_pos rfl

theorem array_ofArray {read : JsValue → Option α} {write : α → JsValue} {minimum maximum : ℕ}
    {items : List α} (hlength : minimum ≤ items.length ∧ items.length ≤ maximum)
    (h : ∀ item ∈ items, read (write item) = some item) :
    array minimum maximum read (ofArray write items) = some items := by
  rw [ofArray, array, List.length_map, if_pos hlength]
  clear hlength
  induction items with
  | nil => rfl
  | cons item items ih =>
      rw [List.forall_mem_cons] at h
      rw [List.map_cons, List.mapM_cons, h.1, ih h.2]
      rfl

theorem bind_of_eq {β : Type} {x : Option α} {f : α → Option β} {a : α} {b : β}
    (hx : x = some a) (hf : f a = some b) : (x >>= f) = some b := by
  rw [hx]
  exact hf

theorem filter_of_pos {a : α} {p : α → Bool} (h : p a = true) : (some a).filter p = some a := by
  simp [Option.filter, h]

end Members

theorem read_untrustedSource (source : UntrustedSource) :
    oneOf UntrustedSource.all UntrustedSource.name (.str source.name) = some source := by
  cases source <;> decide

theorem read_fileStatus (status : FileStatus) :
    oneOf FileStatus.all FileStatus.name (.str status.name) = some status := by
  cases status <;> decide

theorem read_excerptSide (side : ExcerptSide) :
    oneOf ExcerptSide.all ExcerptSide.name (.str side.name) = some side := by
  cases side <;> decide

theorem read_limitHit (hit : LimitHit) :
    oneOf LimitHit.all LimitHit.name (.str hit.name) = some hit := by
  cases hit <;> decide

theorem read_exclusionReason (reason : ExclusionReason) :
    oneOf ExclusionReason.all ExclusionReason.name (.str reason.name) = some reason := by
  cases reason <;> decide

/-! ## Objects -/

/-- The data fits its schema with a trust label. -/
def UntrustedGenerationData.Labelled (data : UntrustedGenerationData) (source : UntrustedSource) :
    Prop := data.source = source ∧ data.content.length ≤ 128 * 1024

theorem read_write_untrusted {data : UntrustedGenerationData}
    (h : data.content.length ≤ 128 * 1024) :
    UntrustedGenerationDataV1Schema.read (UntrustedGenerationDataV1Schema.write data) =
      some data := by
  obtain ⟨fields, hfields, hget⟩ := @record_fields UntrustedGenerationDataV1Schema.names
    (by decide) (UntrustedGenerationDataV1Schema.values data) rfl
  simp only [UntrustedGenerationDataV1Schema.names, UntrustedGenerationDataV1Schema.values,
    List.map_cons, List.map_nil, List.cons.injEq, and_true] at hget
  obtain ⟨htrust, hsource, hcontent⟩ := hget
  have htext : text (fun s => decide (s.length ≤ 128 * 1024)) (.str data.content) =
      some data.content := text_str (decide_eq_true h)
  rw [UntrustedGenerationDataV1Schema.read, UntrustedGenerationDataV1Schema.write, hfields]
  simp only [Option.bind_eq_bind, Option.bind_some, htrust, hsource, hcontent, literal_str,
    read_untrustedSource, htext, Option.pure_def]

theorem read_write_labelled {data : UntrustedGenerationData} {source : UntrustedSource}
    (h : data.Labelled source) :
    UntrustedGenerationDataV1Schema.labelled source (UntrustedGenerationDataV1Schema.write data) =
      some data := by
  rw [UntrustedGenerationDataV1Schema.labelled, read_write_untrusted h.2]
  exact filter_of_pos (decide_eq_true h.1)

theorem read_write_optional {data : Option UntrustedGenerationData} {source : UntrustedSource}
    (h : ∀ d ∈ data, d.Labelled source) :
    optional (UntrustedGenerationDataV1Schema.labelled source)
      (ofOptional UntrustedGenerationDataV1Schema.write data) = some data := by
  cases data with
  | none => rfl
  | some d => exact congrArg (Option.map some) (read_write_labelled (h d rfl))

theorem read_write_nullable {data : Option UntrustedGenerationData} {source : UntrustedSource}
    (h : ∀ d ∈ data, d.Labelled source) :
    nullable (UntrustedGenerationDataV1Schema.labelled source)
      (ofNullable UntrustedGenerationDataV1Schema.write data) = some data := by
  cases data with
  | none => rfl
  | some d => exact congrArg (Option.map some) (read_write_labelled (h d rfl))

structure GenerationContextFile.Bounded (file : GenerationContextFile) : Prop where
  filename : file.filename.Labelled .pullRequestFilename
  previousFilename : ∀ data ∈ file.previousFilename, data.Labelled .pullRequestFilename
  patch : file.patch.Labelled .pullRequestPatch
  patchBytes : 1 ≤ file.patchBytes ∧ file.patchBytes ≤ 128 * 1024
  anchorCount : 1 ≤ file.anchorIds.length ∧ file.anchorIds.length ≤ 400
  anchorIds : ∀ id ∈ file.anchorIds, isAnchorId id = true

theorem read_write_file {file : GenerationContextFile} (h : file.Bounded) :
    GenerationContextFileV1Schema.read (GenerationContextFileV1Schema.write file) = some file := by
  obtain ⟨fields, hfields, hget⟩ := @record_fields GenerationContextFileV1Schema.names
    (by decide) (GenerationContextFileV1Schema.values file) rfl
  simp only [GenerationContextFileV1Schema.names, GenerationContextFileV1Schema.values,
    List.map_cons, List.map_nil, List.cons.injEq, and_true] at hget
  obtain ⟨hfilename, hprevious, hstatus, htest, hpatch, hbytes, hanchors⟩ := hget
  have hids : array 1 400 (text isAnchorId) (ofArray ofText file.anchorIds) =
      some file.anchorIds :=
    array_ofArray h.anchorCount fun id hid => text_str (h.anchorIds id hid)
  rw [GenerationContextFileV1Schema.read, GenerationContextFileV1Schema.write, hfields]
  simp only [Option.bind_eq_bind, Option.bind_some, hfilename, hprevious, hstatus, htest, hpatch,
    hbytes, hanchors, read_write_labelled h.filename, read_write_optional h.previousFilename,
    read_fileStatus, boolean, read_write_labelled h.patch, natural_num h.patchBytes, hids,
    Option.pure_def]

structure GenerationContextExcerpt.Bounded (excerpt : GenerationContextExcerpt) : Prop where
  filename : excerpt.filename.Labelled .pullRequestFilename
  startLine : 1 ≤ excerpt.startLine ∧ excerpt.startLine ≤ maxSafeInteger
  endLine : 1 ≤ excerpt.endLine ∧ excerpt.endLine ≤ maxSafeInteger
  content : excerpt.excerpt.Labelled .changedFileExcerpt
  excerptBytes : 1 ≤ excerpt.excerptBytes ∧ excerpt.excerptBytes ≤ 4096

theorem read_write_excerpt {excerpt : GenerationContextExcerpt} (h : excerpt.Bounded) :
    GenerationContextExcerptV1Schema.read (GenerationContextExcerptV1Schema.write excerpt) =
      some excerpt := by
  obtain ⟨fields, hfields, hget⟩ := @record_fields GenerationContextExcerptV1Schema.names
    (by decide) (GenerationContextExcerptV1Schema.values excerpt) rfl
  simp only [GenerationContextExcerptV1Schema.names, GenerationContextExcerptV1Schema.values,
    List.map_cons, List.map_nil, List.cons.injEq, and_true] at hget
  obtain ⟨hfilename, hside, hstart, hend, hexcerpt, hbytes⟩ := hget
  rw [GenerationContextExcerptV1Schema.read, GenerationContextExcerptV1Schema.write, hfields]
  simp only [Option.bind_eq_bind, Option.bind_some, hfilename, hside, hstart, hend, hexcerpt,
    hbytes, read_write_labelled h.filename, read_excerptSide, natural_num h.startLine,
    natural_num h.endLine, read_write_labelled h.content, natural_num h.excerptBytes,
    Option.pure_def]

structure GenerationContextAnchor.Bounded (anchor : GenerationContextAnchor) : Prop where
  id : isAnchorId anchor.id = true
  filename : anchor.filename.Labelled .pullRequestFilename
  hunkHeader : anchor.hunkHeader.Labelled .analysisHunkHeader
  oldStart : 0 ≤ anchor.oldStart ∧ anchor.oldStart ≤ maxSafeInteger
  newStart : 0 ≤ anchor.newStart ∧ anchor.newStart ≤ maxSafeInteger
  changedLines : 1 ≤ anchor.changedLines ∧ anchor.changedLines ≤ maxSafeInteger
  evidence : anchor.evidence.Labelled .analysisAnchorEvidence

theorem read_write_anchor {anchor : GenerationContextAnchor} (h : anchor.Bounded) :
    GenerationContextAnchorV1Schema.read (GenerationContextAnchorV1Schema.write anchor) =
      some anchor := by
  obtain ⟨fields, hfields, hget⟩ := @record_fields GenerationContextAnchorV1Schema.names
    (by decide) (GenerationContextAnchorV1Schema.values anchor) rfl
  simp only [GenerationContextAnchorV1Schema.names, GenerationContextAnchorV1Schema.values,
    List.map_cons, List.map_nil, List.cons.injEq, and_true] at hget
  obtain ⟨hid, hfilename, hheader, hold, hnew, hchanged, hevidence⟩ := hget
  rw [GenerationContextAnchorV1Schema.read, GenerationContextAnchorV1Schema.write, hfields]
  simp only [Option.bind_eq_bind, Option.bind_some, hid, hfilename, hheader, hold, hnew, hchanged,
    hevidence, text_str h.id, read_write_labelled h.filename, read_write_labelled h.hunkHeader,
    natural_num h.oldStart, natural_num h.newStart, natural_num h.changedLines,
    read_write_labelled h.evidence, Option.pure_def]

theorem read_write_exclusion {exclusion : GenerationContextProviderExclusion}
    (h : ∀ data ∈ exclusion.filename, data.Labelled .pullRequestFilename) :
    GenerationContextProviderExclusionV1Schema.read
      (GenerationContextProviderExclusionV1Schema.write exclusion) = some exclusion := by
  obtain ⟨fields, hfields, hget⟩ := @record_fields GenerationContextProviderExclusionV1Schema.names
    (by decide) (GenerationContextProviderExclusionV1Schema.values exclusion) rfl
  simp only [GenerationContextProviderExclusionV1Schema.names,
    GenerationContextProviderExclusionV1Schema.values, List.map_cons, List.map_nil,
    List.cons.injEq, and_true] at hget
  rw [GenerationContextProviderExclusionV1Schema.read,
    GenerationContextProviderExclusionV1Schema.write, hfields]
  simp only [Option.bind_eq_bind, Option.bind_some, hget.1, hget.2, read_write_optional h,
    read_exclusionReason, Option.pure_def]

/-! ## Limits and usage -/

structure GenerationContextLimits.Bounded (limits : GenerationContextLimits) : Prop where
  files : 1 ≤ limits.maximumFiles ∧ limits.maximumFiles ≤ 120
  hunks : 1 ≤ limits.maximumHunks ∧ limits.maximumHunks ≤ 400
  totalBytes : 1024 ≤ limits.maximumTotalBytes ∧ limits.maximumTotalBytes ≤ 512 * 1024
  fileBytes : 512 ≤ limits.maximumFileBytes ∧ limits.maximumFileBytes ≤ 64 * 1024
  titleBytes : 64 ≤ limits.maximumTitleBytes ∧ limits.maximumTitleBytes ≤ 2 * 1024
  bodyBytes : 128 ≤ limits.maximumBodyBytes ∧ limits.maximumBodyBytes ≤ 16 * 1024
  excerpts : 0 ≤ limits.maximumExcerpts ∧ limits.maximumExcerpts ≤ 12
  excerptBytes : 128 ≤ limits.maximumExcerptBytes ∧ limits.maximumExcerptBytes ≤ 4096
  refines : GenerationContextLimitsV1Schema.refines limits = true

theorem read_write_limits {limits : GenerationContextLimits} (h : limits.Bounded) :
    GenerationContextLimitsV1Schema.read (GenerationContextLimitsV1Schema.write limits) =
      some limits := by
  obtain ⟨fields, hfields, hget⟩ := @record_fields GenerationContextLimitsV1Schema.names
    (by decide) (GenerationContextLimitsV1Schema.values limits) rfl
  simp only [GenerationContextLimitsV1Schema.names, GenerationContextLimitsV1Schema.values,
    List.map_cons, List.map_nil, List.cons.injEq, and_true] at hget
  obtain ⟨h₁, h₂, h₃, h₄, h₅, h₆, h₇, h₈⟩ := hget
  rw [GenerationContextLimitsV1Schema.read, GenerationContextLimitsV1Schema.readMembers,
    GenerationContextLimitsV1Schema.write, hfields]
  simp only [Option.bind_eq_bind, Option.bind_some, h₁, h₂, h₃, h₄, h₅, h₆, h₇, h₈,
    natural_num h.files, natural_num h.hunks, natural_num h.totalBytes, natural_num h.fileBytes,
    natural_num h.titleBytes, natural_num h.bodyBytes, natural_num h.excerpts,
    natural_num h.excerptBytes, Option.pure_def]
  exact filter_of_pos h.refines

structure GenerationContextUsage.Bounded (usage : GenerationContextUsage) : Prop where
  includedFiles : 0 ≤ usage.includedFiles ∧ usage.includedFiles ≤ 120
  includedHunks : 0 ≤ usage.includedHunks ∧ usage.includedHunks ≤ 400
  titleBytes : 0 ≤ usage.titleBytes ∧ usage.titleBytes ≤ 4096
  bodyBytes : 0 ≤ usage.bodyBytes ∧ usage.bodyBytes ≤ 65536
  patchBytes : 0 ≤ usage.patchBytes ∧ usage.patchBytes ≤ 512 * 1024
  excerptBytes : 0 ≤ usage.excerptBytes ∧ usage.excerptBytes ≤ 48 * 1024
  totalBytes : 0 ≤ usage.totalBytes ∧ usage.totalBytes ≤ 512 * 1024
  providerBytes : 0 ≤ usage.providerBytes ∧ usage.providerBytes ≤ 512 * 1024

theorem read_write_usage {usage : GenerationContextUsage} (h : usage.Bounded) :
    GenerationContextUsageSchema.read (GenerationContextUsageSchema.write usage) = some usage := by
  obtain ⟨fields, hfields, hget⟩ := @record_fields GenerationContextUsageSchema.names
    (by decide) (GenerationContextUsageSchema.values usage) rfl
  simp only [GenerationContextUsageSchema.names, GenerationContextUsageSchema.values,
    List.map_cons, List.map_nil, List.cons.injEq, and_true] at hget
  obtain ⟨h₁, h₂, h₃, h₄, h₅, h₆, h₇, h₈⟩ := hget
  rw [GenerationContextUsageSchema.read, GenerationContextUsageSchema.write, hfields]
  simp only [Option.bind_eq_bind, Option.bind_some, h₁, h₂, h₃, h₄, h₅, h₆, h₇, h₈,
    natural_num h.includedFiles, natural_num h.includedHunks, natural_num h.titleBytes,
    natural_num h.bodyBytes, natural_num h.patchBytes, natural_num h.excerptBytes,
    natural_num h.totalBytes, natural_num h.providerBytes, Option.pure_def]

/-! ## The context -/

structure GenerationContext.Bounded (context : GenerationContext) : Prop where
  revisionId : isUuid context.revisionId = true
  headSha : Domain.isGitSha context.headSha = true
  baseSha : Domain.isGitSha context.baseSha = true
  analysisSnapshotId : isUuid context.analysisSnapshotId = true
  sourceHash : isSha256 context.sourceHash = true
  contextHash : isSha256 context.contextHash = true
  title : context.title.Labelled .pullRequestTitle
  body : ∀ data ∈ context.body, data.Labelled .pullRequestBody
  fileCount : 0 ≤ context.files.length ∧ context.files.length ≤ 120
  files : ∀ file ∈ context.files, file.Bounded
  anchorCount : 0 ≤ context.anchors.length ∧ context.anchors.length ≤ 400
  anchors : ∀ anchor ∈ context.anchors, anchor.Bounded
  excerptCount : 0 ≤ context.excerpts.length ∧ context.excerpts.length ≤ 12
  excerpts : ∀ excerpt ∈ context.excerpts, excerpt.Bounded
  testFileCount : 0 ≤ context.deterministicTestFiles.length ∧
    context.deterministicTestFiles.length ≤ 120
  testFiles : ∀ data ∈ context.deterministicTestFiles, data.Labelled .pullRequestFilename
  anchorIdCount : 0 ≤ context.allowedAnchorIds.length ∧ context.allowedAnchorIds.length ≤ 400
  anchorIds : ∀ id ∈ context.allowedAnchorIds, isAnchorId id = true
  limits : context.limits.Bounded
  limitHitCount : 0 ≤ context.limitsHit.length ∧ context.limitsHit.length ≤ 20
  exclusionCount : 0 ≤ context.exclusions.length ∧ context.exclusions.length ≤ 600
  exclusions : ∀ exclusion ∈ context.exclusions, ∀ data ∈ exclusion.filename,
    data.Labelled .pullRequestFilename
  usage : context.usage.Bounded

/-- The base schema reads back every context within its bounds. -/
theorem read_write_context {context : GenerationContext} (h : context.Bounded) :
    GenerationContextV1BaseSchema.read (GenerationContextV1BaseSchema.write context) =
      some context := by
  obtain ⟨fields, hfields, hget⟩ := @record_fields GenerationContextV1BaseSchema.names
    (by decide) (GenerationContextV1BaseSchema.values context) rfl
  simp only [GenerationContextV1BaseSchema.names, GenerationContextV1BaseSchema.values,
    List.map_cons, List.map_nil, List.cons.injEq, and_true] at hget
  obtain ⟨h₁, h₂, h₃, h₄, h₅, h₆, h₇, h₈, h₉, h₁₀, h₁₁, h₁₂, h₁₃, h₁₄, h₁₅, h₁₆, h₁₇, h₁₈, h₁₉,
    h₂₀⟩ := hget
  rw [GenerationContextV1BaseSchema.read, GenerationContextV1BaseSchema.write]
  refine bind_of_eq hfields ?_
  refine bind_of_eq ((congrArg _ h₁).trans (literal_str _)) ?_
  refine bind_of_eq ((congrArg _ h₂).trans (literal_str _)) ?_
  refine bind_of_eq ((congrArg _ h₃).trans (text_str h.revisionId)) ?_
  refine bind_of_eq ((congrArg _ h₄).trans (text_str h.headSha)) ?_
  refine bind_of_eq ((congrArg _ h₅).trans (text_str h.baseSha)) ?_
  refine bind_of_eq ((congrArg _ h₆).trans (text_str h.analysisSnapshotId)) ?_
  refine bind_of_eq ((congrArg _ h₇).trans (text_str h.sourceHash)) ?_
  refine bind_of_eq ((congrArg _ h₈).trans (literal_str _)) ?_
  refine bind_of_eq ((congrArg _ h₉).trans (text_str h.contextHash)) ?_
  refine bind_of_eq ((congrArg _ h₁₀).trans (read_write_labelled h.title)) ?_
  refine bind_of_eq ((congrArg _ h₁₁).trans (read_write_nullable h.body)) ?_
  refine bind_of_eq ((congrArg _ h₁₂).trans (array_ofArray h.fileCount fun file hfile =>
    read_write_file (h.files file hfile))) ?_
  refine bind_of_eq ((congrArg _ h₁₃).trans (array_ofArray h.anchorCount fun anchor hanchor =>
    read_write_anchor (h.anchors anchor hanchor))) ?_
  refine bind_of_eq ((congrArg _ h₁₄).trans (array_ofArray h.excerptCount fun excerpt hexcerpt =>
    read_write_excerpt (h.excerpts excerpt hexcerpt))) ?_
  refine bind_of_eq ((congrArg _ h₁₅).trans (array_ofArray h.testFileCount fun data hdata =>
    read_write_labelled (h.testFiles data hdata))) ?_
  refine bind_of_eq ((congrArg _ h₁₆).trans (array_ofArray h.anchorIdCount fun id hid =>
    text_str (h.anchorIds id hid))) ?_
  refine bind_of_eq ((congrArg _ h₁₇).trans (read_write_limits h.limits)) ?_
  refine bind_of_eq ((congrArg _ h₁₈).trans (array_ofArray h.limitHitCount fun hit _ =>
    read_limitHit hit)) ?_
  refine bind_of_eq ((congrArg _ h₁₉).trans (array_ofArray h.exclusionCount
    fun exclusion hexclusion => read_write_exclusion (h.exclusions exclusion hexclusion))) ?_
  exact bind_of_eq ((congrArg _ h₂₀).trans (read_write_usage h.usage)) rfl

end Analysis

end UnderstandProof
