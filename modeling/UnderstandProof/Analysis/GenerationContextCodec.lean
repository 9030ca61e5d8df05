import UnderstandProof.Analysis.GenerationContext

/-!
# The codecs of the generation context

Every object of the context is read and written by a codec, so its canonical value determines what
was read.
-/

open Foundation
open Foundation.JsValue

namespace UnderstandProof

namespace Analysis

/-! ## Enumerations -/

theorem codec_untrustedSource :
    Codec (oneOf UntrustedSource.all UntrustedSource.name) fun source => .str source.name :=
  codec_oneOf (fun source => by cases source <;> decide) (by decide)

theorem codec_fileStatus :
    Codec (oneOf FileStatus.all FileStatus.name) fun status => .str status.name :=
  codec_oneOf (fun status => by cases status <;> decide) (by decide)

theorem codec_excerptSide :
    Codec (oneOf ExcerptSide.all ExcerptSide.name) fun side => .str side.name :=
  codec_oneOf (fun side => by cases side <;> decide) (by decide)

theorem codec_limitHit : Codec (oneOf LimitHit.all LimitHit.name) fun hit => .str hit.name :=
  codec_oneOf (fun hit => by cases hit <;> decide) (by decide)

theorem codec_exclusionReason :
    Codec (oneOf ExclusionReason.all ExclusionReason.name) fun reason => .str reason.name :=
  codec_oneOf (fun reason => by cases reason <;> decide) (by decide)

/-! ## Objects -/

theorem codec_untrusted :
    Codec UntrustedGenerationDataV1Schema.read UntrustedGenerationDataV1Schema.write := by
  refine codec_object (by decide) (fun _ => rfl) ?_ (fun _ => ⟨.str _, .str _, .str _⟩) ?_
  · intro value data h
    simp only [UntrustedGenerationDataV1Schema.read, Option.bind_eq_bind, Option.bind_eq_some_iff,
      Option.pure_def, Option.some.injEq] at h
    obtain ⟨fields, hfields, _, htrust, source, hsource, content, hcontent, rfl⟩ := h
    exact ⟨fields, hfields, .cons (matches_literal htrust)
      (.cons (codec_untrustedSource.matches hsource) (.cons (matches_text hcontent) .nil))⟩
  · intro a b h
    simp only [UntrustedGenerationDataV1Schema.values, List.map_cons, List.cons.injEq] at h
    obtain ⟨-, hsource, hcontent, -⟩ := h
    cases a
    cases b
    rw [UntrustedGenerationData.mk.injEq]
    exact ⟨codec_untrustedSource.memberCodec.injective hsource, member_str_inj hcontent⟩

theorem codec_labelled (source : UntrustedSource) :
    Codec (UntrustedGenerationDataV1Schema.labelled source) UntrustedGenerationDataV1Schema.write :=
  codec_untrusted.filter fun data => data.source = source

theorem codec_anchorIds (minimum maximum : ℕ) :
    Codec (array minimum maximum (text isAnchorId)) (ofArray ofText) :=
  (codec_text isAnchorId).array minimum maximum

theorem codec_file :
    Codec GenerationContextFileV1Schema.read GenerationContextFileV1Schema.write := by
  have hoptional := (codec_labelled .pullRequestFilename).optional
  refine codec_object (by decide) (fun _ => rfl) ?_ (fun file => ?_) ?_
  · intro value file h
    simp only [GenerationContextFileV1Schema.read, Option.bind_eq_bind, Option.bind_eq_some_iff,
      Option.pure_def, Option.some.injEq] at h
    obtain ⟨fields, hfields, filename, hfilename, previous, hprevious, status, hstatus, testFile,
      htestFile, patch, hpatch, patchBytes, hpatchBytes, anchorIds, hanchorIds, rfl⟩ := h
    exact ⟨fields, hfields, .cons ((codec_labelled _).matches hfilename)
      (.cons (hoptional.matches hprevious) (.cons (codec_fileStatus.matches hstatus)
        (.cons (codec_boolean.matches htestFile) (.cons ((codec_labelled _).matches hpatch)
          (.cons (matches_natural hpatchBytes)
            (.cons ((codec_anchorIds _ _).matches hanchorIds) .nil))))))⟩
  · exact ⟨codec_untrusted.plain_write _, hoptional.plain_write _, .str _, .bool _,
      codec_untrusted.plain_write _, .num _, (codec_anchorIds 1 400).plain_write _⟩
  · intro a b h
    simp only [GenerationContextFileV1Schema.values, List.map_cons, List.cons.injEq] at h
    obtain ⟨hfilename, hprevious, hstatus, htestFile, hpatch, hpatchBytes, hanchorIds, -⟩ := h
    cases a
    cases b
    rw [GenerationContextFile.mk.injEq]
    exact ⟨codec_untrusted.memberCodec.injective hfilename, hoptional.injective hprevious,
      codec_fileStatus.memberCodec.injective hstatus, member_bool_inj htestFile,
      codec_untrusted.memberCodec.injective hpatch, member_num_inj hpatchBytes,
      (codec_anchorIds 1 400).memberCodec.injective hanchorIds⟩

theorem codec_excerpt :
    Codec GenerationContextExcerptV1Schema.read GenerationContextExcerptV1Schema.write := by
  refine codec_object (by decide) (fun _ => rfl) ?_ (fun excerpt => ?_) ?_
  · intro value excerpt h
    simp only [GenerationContextExcerptV1Schema.read, Option.bind_eq_bind,
      Option.bind_eq_some_iff, Option.pure_def, Option.some.injEq] at h
    obtain ⟨fields, hfields, filename, hfilename, side, hside, startLine, hstartLine, endLine,
      hendLine, text, htext, excerptBytes, hexcerptBytes, rfl⟩ := h
    exact ⟨fields, hfields, .cons ((codec_labelled _).matches hfilename)
      (.cons (codec_excerptSide.matches hside) (.cons (matches_natural hstartLine)
        (.cons (matches_natural hendLine) (.cons ((codec_labelled _).matches htext)
          (.cons (matches_natural hexcerptBytes) .nil)))))⟩
  · exact ⟨codec_untrusted.plain_write _, .str _, .num _, .num _, codec_untrusted.plain_write _,
      .num _⟩
  · intro a b h
    simp only [GenerationContextExcerptV1Schema.values, List.map_cons, List.cons.injEq] at h
    obtain ⟨hfilename, hside, hstartLine, hendLine, htext, hexcerptBytes, -⟩ := h
    cases a
    cases b
    rw [GenerationContextExcerpt.mk.injEq]
    exact ⟨codec_untrusted.memberCodec.injective hfilename,
      codec_excerptSide.memberCodec.injective hside, member_num_inj hstartLine,
      member_num_inj hendLine, codec_untrusted.memberCodec.injective htext,
      member_num_inj hexcerptBytes⟩

theorem codec_anchor :
    Codec GenerationContextAnchorV1Schema.read GenerationContextAnchorV1Schema.write := by
  refine codec_object (by decide) (fun _ => rfl) ?_ (fun anchor => ?_) ?_
  · intro value anchor h
    simp only [GenerationContextAnchorV1Schema.read, Option.bind_eq_bind, Option.bind_eq_some_iff,
      Option.pure_def, Option.some.injEq] at h
    obtain ⟨fields, hfields, id, hid, filename, hfilename, hunkHeader, hhunkHeader, oldStart,
      holdStart, newStart, hnewStart, changedLines, hchangedLines, evidence, hevidence, rfl⟩ := h
    exact ⟨fields, hfields, .cons (matches_text hid)
      (.cons ((codec_labelled _).matches hfilename) (.cons ((codec_labelled _).matches hhunkHeader)
        (.cons (matches_natural holdStart) (.cons (matches_natural hnewStart)
          (.cons (matches_natural hchangedLines)
            (.cons ((codec_labelled _).matches hevidence) .nil))))))⟩
  · exact ⟨.str _, codec_untrusted.plain_write _, codec_untrusted.plain_write _, .num _, .num _,
      .num _, codec_untrusted.plain_write _⟩
  · intro a b h
    simp only [GenerationContextAnchorV1Schema.values, List.map_cons, List.cons.injEq] at h
    obtain ⟨hid, hfilename, hhunkHeader, holdStart, hnewStart, hchangedLines, hevidence, -⟩ := h
    cases a
    cases b
    rw [GenerationContextAnchor.mk.injEq]
    exact ⟨member_str_inj hid, codec_untrusted.memberCodec.injective hfilename,
      codec_untrusted.memberCodec.injective hhunkHeader, member_num_inj holdStart,
      member_num_inj hnewStart, member_num_inj hchangedLines,
      codec_untrusted.memberCodec.injective hevidence⟩

theorem codec_exclusion :
    Codec GenerationContextProviderExclusionV1Schema.read
      GenerationContextProviderExclusionV1Schema.write := by
  have hoptional := (codec_labelled .pullRequestFilename).optional
  refine codec_object (by decide) (fun _ => rfl) ?_
    (fun exclusion => ⟨hoptional.plain_write _, .str _⟩) ?_
  · intro value exclusion h
    simp only [GenerationContextProviderExclusionV1Schema.read, Option.bind_eq_bind,
      Option.bind_eq_some_iff, Option.pure_def, Option.some.injEq] at h
    obtain ⟨fields, hfields, filename, hfilename, reason, hreason, rfl⟩ := h
    exact ⟨fields, hfields, .cons (hoptional.matches hfilename)
      (.cons (codec_exclusionReason.matches hreason) .nil)⟩
  · intro a b h
    simp only [GenerationContextProviderExclusionV1Schema.values, List.map_cons,
      List.cons.injEq] at h
    obtain ⟨hfilename, hreason, -⟩ := h
    cases a
    cases b
    rw [GenerationContextProviderExclusion.mk.injEq]
    exact ⟨hoptional.injective hfilename, codec_exclusionReason.memberCodec.injective hreason⟩

theorem codec_limits :
    Codec GenerationContextLimitsV1Schema.read GenerationContextLimitsV1Schema.write := by
  refine Codec.filter (codec_object (by decide) (fun _ => rfl) ?_ (fun limits => ?_) ?_) _
  · intro value limits h
    simp only [GenerationContextLimitsV1Schema.readMembers, Option.bind_eq_bind,
      Option.bind_eq_some_iff, Option.pure_def, Option.some.injEq] at h
    obtain ⟨fields, hfields, _, h₁, _, h₂, _, h₃, _, h₄, _, h₅, _, h₆, _, h₇, _, h₈, rfl⟩ := h
    exact ⟨fields, hfields, .cons (matches_natural h₁) (.cons (matches_natural h₂)
      (.cons (matches_natural h₃) (.cons (matches_natural h₄) (.cons (matches_natural h₅)
        (.cons (matches_natural h₆) (.cons (matches_natural h₇)
          (.cons (matches_natural h₈) .nil)))))))⟩
  · exact ⟨.num _, .num _, .num _, .num _, .num _, .num _, .num _, .num _⟩
  · intro a b h
    simp only [GenerationContextLimitsV1Schema.values, List.map_cons, List.cons.injEq] at h
    obtain ⟨h₁, h₂, h₃, h₄, h₅, h₆, h₇, h₈, -⟩ := h
    cases a
    cases b
    rw [GenerationContextLimits.mk.injEq]
    exact ⟨member_num_inj h₁, member_num_inj h₂, member_num_inj h₃, member_num_inj h₄,
      member_num_inj h₅, member_num_inj h₆, member_num_inj h₇, member_num_inj h₈⟩

theorem codec_usage :
    Codec GenerationContextUsageSchema.read GenerationContextUsageSchema.write := by
  refine codec_object (by decide) (fun _ => rfl) ?_ (fun usage => ?_) ?_
  · intro value usage h
    simp only [GenerationContextUsageSchema.read, Option.bind_eq_bind, Option.bind_eq_some_iff,
      Option.pure_def, Option.some.injEq] at h
    obtain ⟨fields, hfields, _, h₁, _, h₂, _, h₃, _, h₄, _, h₅, _, h₆, _, h₇, _, h₈, rfl⟩ := h
    exact ⟨fields, hfields, .cons (matches_natural h₁) (.cons (matches_natural h₂)
      (.cons (matches_natural h₃) (.cons (matches_natural h₄) (.cons (matches_natural h₅)
        (.cons (matches_natural h₆) (.cons (matches_natural h₇)
          (.cons (matches_natural h₈) .nil)))))))⟩
  · exact ⟨.num _, .num _, .num _, .num _, .num _, .num _, .num _, .num _⟩
  · intro a b h
    simp only [GenerationContextUsageSchema.values, List.map_cons, List.cons.injEq] at h
    obtain ⟨h₁, h₂, h₃, h₄, h₅, h₆, h₇, h₈, -⟩ := h
    cases a
    cases b
    rw [GenerationContextUsage.mk.injEq]
    exact ⟨member_num_inj h₁, member_num_inj h₂, member_num_inj h₃, member_num_inj h₄,
      member_num_inj h₅, member_num_inj h₆, member_num_inj h₇, member_num_inj h₈⟩

end Analysis

end UnderstandProof
