import UnderstandProof.Providers.QuestionTranscription
import UnderstandProof.Worker.CompatibilityContract
import UnderstandProof.Worker.QuestionClips
import UnderstandProof.Worker.StreamDecryption

/-!
# The assembly of a transcript

The source of a recording's transcription, the results of its questions, and the transcript that is
put together from them. The model of a provider may be twice as long as the one of a transcript, so
a long one is refused only after every clip has been transcribed.
-/

open Foundation Foundation.JsString

namespace UnderstandProof

namespace Worker

open Domain (JsDate)
open Media (Bytes Sha256 ProofQuestionInterval FinalizeRecording FinalizeRecordingSchema.accepts
  HeadShaSchema.accepts Sha256Schema.accepts maxRecordingDurationMs maxRecordingObjectBytes
  maxProofQuestionCount recordingCodec validateProofQuestionIntervalsV1)
open Providers (TranscriptionError TranscriptionLanguagePolicy
  TranscriptionLanguagePolicySchema.accepts Transcript TranscriptSegment
  TranscriptV1Schema.accepts TranscriptV1Schema.issues TranscriptSegmentV1Schema.accepts isLanguage)
open Providers.OpenRouterTranscription (Descriptor ProviderConfig ProviderConfigSchema.descriptor
  QuestionTranscriptionResult QuestionTranscriptionResultSchema.accepts baseLanguage)

/-! ## The source -/

structure RecordingAudioTranscriptionSource where
  schemaVersion : JsString
  sourceVersion : JsString
  attemptId : JsString
  recordingObjectId : JsString
  headSha : JsString
  sourceSha256 : JsString
  recordingDurationMs : ℕ
  recordingCiphertextBytes : ℕ
  recordingCodec : JsString
  materialId : JsString
  materialKeyId : JsString
  finalization : FinalizeRecording
  proofQuestionIds : List JsString
  questionIntervals : List ProofQuestionInterval
  languagePolicy : TranscriptionLanguagePolicy
  deriving DecidableEq, Repr

namespace RecordingAudioTranscriptionSourceSchema

/-- The end of the interval before an index, or 0. -/
def previousEnd (intervals : List ProofQuestionInterval) (index : ℕ) : ℕ :=
  (((intervals.take index).getLast?).map fun interval => interval.endMs).getD 0

def issues (source : RecordingAudioTranscriptionSource) : List Issue :=
  (source.questionIntervals.zipIdx.flatMap fun entry =>
    issueIf (entry.1.ordinal ≠ entry.2 ∨
        entry.1.recordedDurationMs ≠ source.finalization.manifest.durationMs ∨
        source.recordingDurationMs < entry.1.endMs ∨
        entry.1.startMs < previousEnd source.questionIntervals entry.2 ∨
        entry.1.questionId ∈
          (source.questionIntervals.take entry.2).map ProofQuestionInterval.questionId ∨
        source.proofQuestionIds[entry.2]? ≠ some entry.1.questionId)
      "Question intervals must be unique, complete in order and non-overlapping"
      [.key "questionIntervals", .index entry.2]) ++
  issueIf (source.proofQuestionIds.length ≠ source.questionIntervals.length)
    "Every stored proof question needs one exact interval" [.key "proofQuestionIds"]

def accepts (source : RecordingAudioTranscriptionSource) : Bool :=
  source.schemaVersion == js "1" && source.sourceVersion == js "recording-audio-source-v1" &&
    isUuid source.attemptId && isUuid source.recordingObjectId &&
    HeadShaSchema.accepts source.headSha && Sha256Schema.accepts source.sourceSha256 &&
    1 ≤ source.recordingDurationMs && source.recordingDurationMs ≤ maxRecordingDurationMs &&
    1 ≤ source.recordingCiphertextBytes &&
    source.recordingCiphertextBytes ≤ maxRecordingObjectBytes &&
    source.recordingCodec == recordingCodec && isUuid source.materialId &&
    1 ≤ source.materialKeyId.length && source.materialKeyId.length ≤ 128 &&
    FinalizeRecordingSchema.accepts source.finalization &&
    source.proofQuestionIds.all isUuid && 1 ≤ source.proofQuestionIds.length &&
    source.proofQuestionIds.length ≤ maxProofQuestionCount && source.proofQuestionIds.Nodup &&
    1 ≤ source.questionIntervals.length &&
    source.questionIntervals.length ≤ maxProofQuestionCount &&
    source.questionIntervals.all Media.ProofQuestionIntervalV1Schema.accepts &&
    TranscriptionLanguagePolicySchema.accepts source.languagePolicy && (issues source).isEmpty

end RecordingAudioTranscriptionSourceSchema

/-- `Math.min(MAX_DECODE_DURATION_DRIFT_MS, Math.max(500, durationMs * 0.1))` -/
def allowedDurationDriftMs (durationMs : ℕ) : ℚ := min 1500 (max 500 (durationMs / 10))

/-- Intervals that a schema has returned have one text only when they are equal. -/
def assertSourceBinding (source : RecordingAudioTranscriptionSource) :
    Except TranscriptionError Unit :=
  let finalization := source.finalization
  let manifest := finalization.manifest
  match validateProofQuestionIntervalsV1 source.questionIntervals source.proofQuestionIds
      source.recordingDurationMs with
  | .error _ => .error technicalInputError
  | .ok _ =>
      rejectIf (manifest.attemptId ≠ source.attemptId ∨ manifest.headSha ≠ source.headSha ∨
          manifest.durationMs ≠ source.recordingDurationMs ∨
          manifest.totalObjectBytes ≠ source.recordingCiphertextBytes ∨
          manifest.codec ≠ source.recordingCodec ∨
          manifest.wrapping.materialId ≠ source.materialId ∨
          manifest.wrapping.keyId ≠ source.materialKeyId ∨
          finalization.manifestDigest ≠ source.sourceSha256 ∨
          manifest.questionIntervals ≠ some source.questionIntervals ∨
          allowedDurationDriftMs source.recordingDurationMs <
            |(manifest.durationMs : ℚ) - source.recordingDurationMs|)
        technicalInputError

/-! ## The results -/

def contradictsPolicy (policy : TranscriptionLanguagePolicy) (language : JsString) : Bool :=
  match policy with
  | .fixed expected => baseLanguage language != baseLanguage expected
  | .detect => false

def validateQuestionResult (rawResult : QuestionTranscriptionResult)
    (interval : ProofQuestionInterval) (clipSha256 : JsString)
    (source : RecordingAudioTranscriptionSource) (descriptor : Descriptor) :
    Except TranscriptionError QuestionTranscriptionResult := do
  rejectIf (QuestionTranscriptionResultSchema.accepts rawResult = false ∨
      rawResult.questionId ≠ interval.questionId ∨ rawResult.startMs ≠ interval.startMs ∨
      rawResult.endMs ≠ interval.endMs ∨ rawResult.clipSha256 ≠ clipSha256 ∨
      rawResult.provider ≠ Providers.OpenRouterTranscription.provider ∨
      rawResult.model ≠ descriptor.model ∨
      rawResult.zeroDataRetention ≠ descriptor.zeroDataRetention ∨
      trim rawResult.text.content = [] ∨
      contradictsPolicy source.languagePolicy rawResult.language = true)
    (reviewOutputError "Question transcript is not bound to its exact stored interval")
  return rawResult

/-! ## The transcript -/

inductive AssemblyError where
  | providerError (error : TranscriptionError)
  | zodError
  deriving DecidableEq, Repr

def resultSeed (result : QuestionTranscriptionResult) : JsString :=
  result.questionId ++ js ":" ++ decimal result.startMs ++ js ":" ++ decimal result.endMs ++
    js ":" ++ result.clipSha256

def segmentSeed (attemptId : JsString) (result : QuestionTranscriptionResult) : JsString :=
  js "transcript-segment-v1:" ++ attemptId ++ js ":" ++ resultSeed result

def transcriptSeed (source : RecordingAudioTranscriptionSource) (provider model : JsString)
    (results : List QuestionTranscriptionResult) : JsString :=
  (js ":").intercalate
    ([js "recording-transcript-v1", source.attemptId, source.sourceSha256, provider, model] ++
      results.map resultSeed)

/-- The base languages that were determined, each once. -/
def determinedLanguages (results : List QuestionTranscriptionResult) : List JsString :=
  ((results.map fun result => baseLanguage result.language).filter (· ≠ js "und")).eraseDups

def transcriptLanguage (policy : TranscriptionLanguagePolicy)
    (results : List QuestionTranscriptionResult) : JsString :=
  match policy with
  | .fixed language => language
  | .detect =>
      match determinedLanguages results with
      | [language] => language
      | _ => js "und"

def transcriptSegment (sha256 : Sha256) (attemptId : JsString)
    (result : QuestionTranscriptionResult) : TranscriptSegment where
  id := deterministicUuid sha256 (segmentSeed attemptId result)
  questionId := some result.questionId
  startMs := result.startMs
  endMs := result.endMs
  speaker := .contributor
  text := result.text

def assembledTranscript (sha256 : Sha256) (source : RecordingAudioTranscriptionSource)
    (provider model : JsString) (results : List QuestionTranscriptionResult)
    (createdAt : JsDate) : Transcript where
  id := deterministicUuid sha256 (transcriptSeed source provider model results)
  attemptId := source.attemptId
  provider := provider
  model := model
  language := transcriptLanguage source.languagePolicy results
  durationMs := source.recordingDurationMs
  sourceSha256 := source.sourceSha256
  segments := results.map (transcriptSegment sha256 source.attemptId)
  createdAt := createdAt

def assembleTranscript (sha256 : Sha256) (source : RecordingAudioTranscriptionSource)
    (results : List QuestionTranscriptionResult) (createdAt : JsDate) :
    Except AssemblyError Transcript := do
  rejectIf (results.length ≠ source.questionIntervals.length)
    (.providerError (reviewOutputError "Transcription omitted a stored proof question interval"))
  match results.head? with
  | none =>
      throw (.providerError (reviewOutputError
        "Question transcripts contain contradictory provider metadata"))
  | some first =>
      rejectIf (∃ result ∈ results,
          result.provider ≠ first.provider ∨ result.model ≠ first.model)
        (.providerError (reviewOutputError
          "Question transcripts contain contradictory provider metadata"))
      let transcript := assembledTranscript sha256 source first.provider first.model results
        createdAt
      rejectIf (TranscriptV1Schema.accepts transcript = false) .zodError
      return transcript

/-! ## Exactness -/

/-- The language of a transcript whose results are in these languages, the base languages with the
undetermined ones. -/
structure IsTranscriptLanguage (policy : TranscriptionLanguagePolicy) (bases : List JsString)
    (language : JsString) : Prop where
  fixed : ∀ expected, policy = .fixed expected → language = expected
  single : policy = .detect → ∀ base ∈ bases, base ≠ js "und" →
    (∀ other ∈ bases, other = base ∨ other = js "und") → language = base
  undetermined : policy = .detect →
    (¬ ∃ base ∈ bases, base ≠ js "und" ∧ ∀ other ∈ bases, other = base ∨ other = js "und") →
    language = js "und"

/-- A transcript with exactly one segment for each interval of the source. -/
structure ExactTranscript (source : RecordingAudioTranscriptionSource)
    (results : List QuestionTranscriptionResult) (transcript : Transcript) : Prop where
  accepted : TranscriptV1Schema.accepts transcript = true
  intervals : (transcript.segments.map fun segment =>
      (segment.questionId, segment.startMs, segment.endMs)) =
    source.questionIntervals.map fun interval =>
      (some interval.questionId, interval.startMs, interval.endMs)
  texts : (transcript.segments.map fun segment => segment.text) =
    results.map fun result => result.text
  ids : (transcript.segments.map fun segment => segment.id).Nodup
  language : IsTranscriptLanguage source.languagePolicy
    (results.map fun result => baseLanguage result.language) transcript.language

/-- Every result has been validated for its interval. -/
def ValidatedResults (source : RecordingAudioTranscriptionSource) (descriptor : Descriptor)
    (results : List QuestionTranscriptionResult) : Prop :=
  List.Forall₂ (fun interval result => ∃ rawResult clipSha256,
    validateQuestionResult rawResult interval clipSha256 source descriptor = .ok result)
    source.questionIntervals results

/-! ## What the schemas promise -/

/-- What an accepted source promises to the assembly. -/
structure AcceptedSource (source : RecordingAudioTranscriptionSource) : Prop where
  attemptId : isUuid source.attemptId = true
  sourceSha256 : Sha256Schema.accepts source.sourceSha256 = true
  positive : 1 ≤ source.recordingDurationMs
  bounded : source.recordingDurationMs ≤ maxRecordingDurationMs
  nonempty : 1 ≤ source.questionIntervals.length
  few : source.questionIntervals.length ≤ maxProofQuestionCount
  policy : TranscriptionLanguagePolicySchema.accepts source.languagePolicy = true
  inside : ∀ entry ∈ source.questionIntervals.zipIdx,
    entry.1.endMs ≤ source.recordingDurationMs
  ordered : ∀ entry ∈ source.questionIntervals.zipIdx,
    RecordingAudioTranscriptionSourceSchema.previousEnd source.questionIntervals entry.2 ≤
      entry.1.startMs
  distinct : (source.questionIntervals.map ProofQuestionInterval.questionId).Nodup

theorem AcceptedSource.of_accepts {source : RecordingAudioTranscriptionSource}
    (h : RecordingAudioTranscriptionSourceSchema.accepts source = true) :
    AcceptedSource source := by
  simp only [RecordingAudioTranscriptionSourceSchema.accepts, Bool.and_eq_true,
    decide_eq_true_eq, beq_iff_eq, and_assoc] at h
  obtain ⟨-, -, hattempt, -, -, hsha, hpositive, hbounded, -, -, -, -, -, -, -, -, -, -, -,
    hnonempty, hfew, -, hpolicy, hissues⟩ := h
  rw [List.isEmpty_iff, RecordingAudioTranscriptionSourceSchema.issues, List.append_eq_nil_iff,
    List.flatMap_eq_nil_iff] at hissues
  have hentry : ∀ entry ∈ source.questionIntervals.zipIdx,
      ¬ source.recordingDurationMs < entry.1.endMs ∧
      ¬ entry.1.startMs < RecordingAudioTranscriptionSourceSchema.previousEnd
        source.questionIntervals entry.2 ∧
      entry.1.questionId ∉
        (source.questionIntervals.take entry.2).map ProofQuestionInterval.questionId := by
    intro entry hmem
    have hnone := issueIf_eq_nil.mp (hissues.1 entry hmem)
    simp only [not_or] at hnone
    exact ⟨hnone.2.2.1, hnone.2.2.2.1, hnone.2.2.2.2.1⟩
  exact {
    attemptId := hattempt
    sourceSha256 := hsha
    positive := hpositive
    bounded := hbounded
    nonempty := hnonempty
    few := hfew
    policy := hpolicy
    inside := fun entry hmem => Nat.le_of_not_lt (hentry entry hmem).1
    ordered := fun entry hmem => Nat.le_of_not_lt (hentry entry hmem).2.1
    distinct := nodup_of_not_mem_take fun entry hmem => (hentry entry hmem).2.2 }

/-- What a validated result promises to the assembly. -/
structure ValidResult (descriptor : Descriptor) (interval : ProofQuestionInterval)
    (result : QuestionTranscriptionResult) : Prop where
  accepted : QuestionTranscriptionResultSchema.accepts result = true
  questionId : result.questionId = interval.questionId
  startMs : result.startMs = interval.startMs
  endMs : result.endMs = interval.endMs
  provider : result.provider = Providers.OpenRouterTranscription.provider
  model : result.model = descriptor.model

theorem ValidResult.of_validate {source : RecordingAudioTranscriptionSource}
    {descriptor : Descriptor} {interval : ProofQuestionInterval}
    {rawResult result : QuestionTranscriptionResult} {clipSha256 : JsString}
    (h : validateQuestionResult rawResult interval clipSha256 source descriptor = .ok result) :
    ValidResult descriptor interval result := by
  rw [validateQuestionResult, rejectIf_bind_eq_ok] at h
  obtain ⟨hnot, h⟩ := h
  cases h
  simp only [not_or, Bool.not_eq_false, ne_eq, not_not] at hnot
  obtain ⟨haccepted, hquestion, hstart, hend, -, hprovider, hmodel, -⟩ := hnot
  exact ⟨haccepted, hquestion, hstart, hend, hprovider, hmodel⟩

/-! ## Languages -/

/-- The base of an accepted language is its primary part. -/
theorem isLanguage_baseLanguage {language : JsString} (h : isLanguage language = true) :
    isLanguage (baseLanguage language) = true := by
  simp only [isLanguage, Bool.and_eq_true, decide_eq_true_eq] at h
  obtain ⟨⟨hlower, hupper⟩, hrest⟩ := h
  have hall : ∀ c ∈ language.takeWhile Providers.isLowerLetter,
      Providers.isLowerLetter c = true := fun c hc => List.mem_takeWhile_imp hc
  have hplain : ∀ c ∈ language.takeWhile Providers.isLowerLetter,
      decide (c ≠ 0x2d) = true := by
    intro c hc
    rw [decide_eq_true_eq]
    rintro rfl
    exact absurd (hall _ hc) (by decide)
  have hsplit := @List.takeWhile_append_dropWhile _ Providers.isLowerLetter language
  have hdrop : language.drop (language.takeWhile Providers.isLowerLetter).length =
      language.dropWhile Providers.isLowerLetter := by
    conv_lhs => rw [← hsplit]
    rw [List.drop_append_of_le_length (by simp)]
    simp
  rw [hdrop] at hrest
  have hbase : baseLanguage language = language.takeWhile Providers.isLowerLetter := by
    rw [baseLanguage]
    conv_lhs => rw [← hsplit]
    rw [List.takeWhile_append_of_pos hplain]
    generalize language.dropWhile Providers.isLowerLetter = rest at hrest
    rcases rest with _ | ⟨hyphen, _ | ⟨c, _ | ⟨d, _ | _⟩⟩⟩
    · simp
    · cases hrest
    · cases hrest
    · simp only [Bool.and_eq_true, beq_iff_eq] at hrest
      rw [hrest.1.1]
      simp
    · cases hrest
  rw [hbase]
  refine Providers.OpenRouterTranscription.isLanguage_of_isLanguageCode ?_
  simp only [Providers.OpenRouterTranscription.isLanguageCode, Bool.and_eq_true,
    decide_eq_true_eq, List.all_eq_true]
  exact ⟨⟨hlower, hupper⟩, hall⟩

theorem mem_determinedLanguages {results : List QuestionTranscriptionResult}
    {language : JsString} :
    language ∈ determinedLanguages results ↔
      language ∈ results.map (fun result => baseLanguage result.language) ∧
        language ≠ js "und" := by
  rw [determinedLanguages, mem_eraseDups, List.mem_filter, decide_eq_true_eq]

/-- Exactly one base language was determined if every determined one is it. -/
theorem determinedLanguages_eq_singleton {results : List QuestionTranscriptionResult}
    {language : JsString} :
    determinedLanguages results = [language] ↔
      language ∈ results.map (fun result => baseLanguage result.language) ∧
        language ≠ js "und" ∧
        ∀ other ∈ results.map (fun result => baseLanguage result.language),
          other = language ∨ other = js "und" := by
  constructor
  · intro h
    have hmem := mem_determinedLanguages.mp (h ▸ List.mem_singleton_self language)
    refine ⟨hmem.1, hmem.2, fun other hother => ?_⟩
    by_cases hund : other = js "und"
    · exact .inr hund
    · exact .inl (List.mem_singleton.mp (h ▸ mem_determinedLanguages.mpr ⟨hother, hund⟩))
  · rintro ⟨hmem, hund, hothers⟩
    have hall : ∀ other ∈ determinedLanguages results, other = language := by
      intro other hother
      obtain ⟨hother, hne⟩ := mem_determinedLanguages.mp hother
      exact (hothers other hother).resolve_right hne
    have hin := mem_determinedLanguages.mpr ⟨hmem, hund⟩
    have hnodup : (determinedLanguages results).Nodup := nodup_eraseDups _
    generalize determinedLanguages results = determined at hall hin hnodup
    match determined with
    | [] => cases hin
    | [other] => rw [hall other List.mem_cons_self]
    | other :: another :: rest =>
      have heq : other = another := (hall _ List.mem_cons_self).trans
        (hall another (List.mem_cons_of_mem _ List.mem_cons_self)).symm
      exact absurd (heq ▸ List.mem_cons_self) (List.nodup_cons.mp hnodup).1

theorem isTranscriptLanguage_transcriptLanguage (policy : TranscriptionLanguagePolicy)
    (results : List QuestionTranscriptionResult) :
    IsTranscriptLanguage policy (results.map fun result => baseLanguage result.language)
      (transcriptLanguage policy results) where
  fixed expected h := by rw [h, transcriptLanguage]
  single h base hbase hund hothers := by
    rw [h, transcriptLanguage, determinedLanguages_eq_singleton.mpr ⟨hbase, hund, hothers⟩]
  undetermined h hnone := by
    rw [h, transcriptLanguage]
    split
    · next language hsingle =>
      obtain ⟨hmem, hund, hothers⟩ := determinedLanguages_eq_singleton.mp hsingle
      exact absurd ⟨language, hmem, hund, hothers⟩ hnone
    · rfl

theorem isLanguage_transcriptLanguage {policy : TranscriptionLanguagePolicy}
    (hpolicy : TranscriptionLanguagePolicySchema.accepts policy = true)
    {results : List QuestionTranscriptionResult}
    (hresults : ∀ result ∈ results, isLanguage result.language = true) :
    isLanguage (transcriptLanguage policy results) = true := by
  cases policy with
  | fixed language => exact hpolicy
  | detect =>
    rw [transcriptLanguage]
    split
    · next language hsingle =>
      obtain ⟨hmem, -⟩ := determinedLanguages_eq_singleton.mp hsingle
      obtain ⟨result, hresult, rfl⟩ := List.mem_map.mp hmem
      exact isLanguage_baseLanguage (hresults result hresult)
    · decide

/-! ## Segments -/

section Segments

variable {sha256 : Sha256} {source : RecordingAudioTranscriptionSource} {descriptor : Descriptor}
  {results : List QuestionTranscriptionResult}

theorem ValidatedResults.forall₂ (h : ValidatedResults source descriptor results) :
    List.Forall₂ (ValidResult descriptor) source.questionIntervals results :=
  h.imp fun _ _ ⟨_, _, hvalidate⟩ => ValidResult.of_validate hvalidate

/-- Fields that a validated result shares with its interval are shared in order. -/
theorem map_eq_of_validResults {α : Type} {f : QuestionTranscriptionResult → α}
    {g : ProofQuestionInterval → α} {intervals : List ProofQuestionInterval}
    (hfield : ∀ interval result, ValidResult descriptor interval result →
      f result = g interval)
    (h : List.Forall₂ (ValidResult descriptor) intervals results) :
    results.map f = intervals.map g := by
  induction h with
  | nil => rfl
  | cons hvalid _ ih => rw [List.map_cons, List.map_cons, hfield _ _ hvalid, ih]

theorem exists_interval {intervals : List ProofQuestionInterval}
    (h : List.Forall₂ (ValidResult descriptor) intervals results)
    {result : QuestionTranscriptionResult} (hresult : result ∈ results) :
    ∃ interval ∈ intervals, ValidResult descriptor interval result := by
  induction h with
  | nil => cases hresult
  | cons hvalid _ ih =>
    cases hresult with
    | head => exact ⟨_, List.mem_cons_self, hvalid⟩
    | tail _ hresult =>
      obtain ⟨interval, hinterval, hvalid⟩ := ih hresult
      exact ⟨interval, List.mem_cons_of_mem _ hinterval, hvalid⟩

theorem length_of_isUuid {value : JsString} (h : isUuid value = true) : value.length = 36 := by
  rw [isUuid, Bool.or_eq_true, Bool.or_eq_true, beq_iff_eq, beq_iff_eq] at h
  rcases h with (h | rfl) | rfl
  · rw [isVersionedUuid, Bool.and_eq_true, beq_iff_eq] at h
    exact h.1
  · decide
  · decide

/-- The text that a segment's identifier is derived from begins with its question. -/
theorem questionId_eq_of_segmentSeed {attemptId : JsString}
    {left right : QuestionTranscriptionResult} (hleft : isUuid left.questionId = true)
    (hright : isUuid right.questionId = true)
    (h : segmentSeed attemptId left = segmentSeed attemptId right) :
    left.questionId = right.questionId := by
  have hresult := List.append_cancel_left h
  simp only [resultSeed, List.append_assoc] at hresult
  exact (List.append_inj hresult
    ((length_of_isUuid hleft).trans (length_of_isUuid hright).symm)).1

theorem isUuid_of_result {result : QuestionTranscriptionResult}
    (h : QuestionTranscriptionResultSchema.accepts result = true) :
    isUuid result.questionId = true := by
  simp only [QuestionTranscriptionResultSchema.accepts, Bool.and_eq_true, and_assoc] at h
  exact h.1

theorem isLanguage_of_result {result : QuestionTranscriptionResult}
    (h : QuestionTranscriptionResultSchema.accepts result = true) :
    isLanguage result.language = true := by
  simp only [QuestionTranscriptionResultSchema.accepts, Bool.and_eq_true, and_assoc] at h
  exact h.2.2.2.2.2.2.2.2.1

theorem segment_accepted (attemptId : JsString) {result : QuestionTranscriptionResult}
    (h : QuestionTranscriptionResultSchema.accepts result = true) :
    TranscriptSegmentV1Schema.accepts (transcriptSegment sha256 attemptId result) = true := by
  simp only [QuestionTranscriptionResultSchema.accepts, Bool.and_eq_true, decide_eq_true_eq,
    beq_iff_eq, and_assoc] at h
  obtain ⟨hquestion, -, hstart, hpositive, hend, -, -, -, -, htext, hlt⟩ := h
  simp only [TranscriptSegmentV1Schema.accepts, Bool.and_eq_true, decide_eq_true_eq, and_assoc]
  dsimp only [transcriptSegment]
  exact ⟨deterministicUuid_accepted _ _, hquestion, hstart, hpositive, hend, htext, hlt⟩

/-- The identifiers differ when the digest tells the texts apart that they are derived from. -/
theorem segmentIds_nodup (hsource : AcceptedSource source)
    (hresults : List.Forall₂ (ValidResult descriptor) source.questionIntervals results)
    (hinjective : Set.InjOn (deterministicUuid sha256)
      {seed | ∃ result ∈ results, seed = segmentSeed source.attemptId result}) :
    ((results.map (transcriptSegment sha256 source.attemptId)).map
      fun segment => segment.id).Nodup := by
  have hquestions : (results.map fun result => result.questionId).Nodup := by
    rw [map_eq_of_validResults (fun _ _ hvalid => hvalid.questionId) hresults]
    exact hsource.distinct
  rw [List.map_map]
  refine List.Nodup.map_on ?_ (List.Nodup.of_map _ hquestions)
  intro left hleft right hright heq
  have hseed : segmentSeed source.attemptId left = segmentSeed source.attemptId right :=
    hinjective ⟨left, hleft, rfl⟩ ⟨right, hright, rfl⟩ heq
  obtain ⟨_, -, hvalidLeft⟩ := exists_interval hresults hleft
  obtain ⟨_, -, hvalidRight⟩ := exists_interval hresults hright
  exact List.inj_on_of_nodup_map hquestions hleft hright (questionId_eq_of_segmentSeed
    (isUuid_of_result hvalidLeft.accepted) (isUuid_of_result hvalidRight.accepted) hseed)

/-- What the segments show of the intervals. -/
theorem segments_intervals (attemptId : JsString) {intervals : List ProofQuestionInterval}
    (h : List.Forall₂ (ValidResult descriptor) intervals results) :
    ((results.map (transcriptSegment sha256 attemptId)).map fun segment =>
      (segment.questionId, segment.startMs, segment.endMs)) =
      intervals.map fun interval =>
        (some interval.questionId, interval.startMs, interval.endMs) := by
  rw [List.map_map]
  refine map_eq_of_validResults (fun interval result hvalid => ?_) h
  rw [Function.comp_apply, transcriptSegment, hvalid.questionId, hvalid.startMs, hvalid.endMs]

end Segments

/-- Segments with the times of the intervals end before an index where these do. -/
theorem previousEnd_eq_of_times {segments : List TranscriptSegment}
    {intervals : List ProofQuestionInterval}
    (h : (segments.map fun segment => segment.endMs) = intervals.map fun interval => interval.endMs)
    (index : ℕ) :
    Providers.previousEnd segments index =
      RecordingAudioTranscriptionSourceSchema.previousEnd intervals index := by
  rw [Providers.previousEnd, RecordingAudioTranscriptionSourceSchema.previousEnd,
    ← List.getLast?_map, ← List.getLast?_map, List.map_take, List.map_take, h]

/-- Segments with the questions and the times of the intervals of an accepted source, and with
identifiers of their own, raise no issue. -/
theorem transcript_issues_eq_nil {source : RecordingAudioTranscriptionSource}
    (hsource : AcceptedSource source) {transcript : Transcript}
    (hduration : transcript.durationMs = source.recordingDurationMs)
    (hids : (transcript.segments.map fun segment => segment.id).Nodup)
    (hintervals : (transcript.segments.map fun segment =>
        (segment.questionId, segment.startMs, segment.endMs)) =
      source.questionIntervals.map fun interval =>
        (some interval.questionId, interval.startMs, interval.endMs)) :
    TranscriptV1Schema.issues transcript = [] := by
  have hends : (transcript.segments.map fun segment => segment.endMs) =
      source.questionIntervals.map fun interval => interval.endMs := by
    have hthird := congrArg (List.map fun times => times.2.2) hintervals
    rwa [List.map_map, List.map_map] at hthird
  rw [TranscriptV1Schema.issues, List.flatMap_eq_nil_iff]
  rintro ⟨segment, index⟩ hentry
  have hget := congrArg (·[index]?) hintervals
  simp only [List.getElem?_map, List.mem_zipIdx_iff_getElem?.mp hentry, Option.map_some] at hget
  obtain ⟨interval, hinterval, htimes⟩ := Option.map_eq_some_iff.mp hget.symm
  have hmem : (interval, index) ∈ source.questionIntervals.zipIdx :=
    List.mem_zipIdx_iff_getElem?.mpr hinterval
  have hstart : interval.startMs = segment.startMs := congrArg (fun times => times.2.1) htimes
  have hend : interval.endMs = segment.endMs := congrArg (fun times => times.2.2) htimes
  have hordered := hsource.ordered _ hmem
  have hinside := hsource.inside _ hmem
  dsimp only at hordered hinside
  rw [← previousEnd_eq_of_times hends, hstart] at hordered
  rw [hend, ← hduration] at hinside
  rw [List.append_eq_nil_iff, List.append_eq_nil_iff, issueIf_eq_nil, issueIf_eq_nil,
    issueIf_eq_nil]
  exact ⟨⟨not_mem_take_of_nodup hids hentry, Nat.not_lt.mpr hordered⟩, Nat.not_lt.mpr hinside⟩

/-! ## Assembly -/

section Assembly

variable {sha256 : Sha256} {source : RecordingAudioTranscriptionSource}
  {isSafeProviderBaseUrl : JsString → Bool} {config : ProviderConfig} {descriptor : Descriptor}
  {results : List QuestionTranscriptionResult}

/-- The assembled transcript is accepted exactly if the name of the model is not too long. -/
theorem assembledTranscript_accepted (hsource : AcceptedSource source)
    (hmodel : 1 ≤ descriptor.model.length)
    (hresults : List.Forall₂ (ValidResult descriptor) source.questionIntervals results)
    (hinjective : Set.InjOn (deterministicUuid sha256)
      {seed | ∃ result ∈ results, seed = segmentSeed source.attemptId result})
    (createdAt : ℤ) :
    TranscriptV1Schema.accepts (assembledTranscript sha256 source
        Providers.OpenRouterTranscription.provider descriptor.model results (some createdAt)) =
      true ↔ descriptor.model.length ≤ 100 := by
  have hlength : results.length = source.questionIntervals.length := hresults.length_eq.symm
  have hlower := hsource.nonempty
  have hupper := hsource.few
  have hcount : maxProofQuestionCount ≤ 1000 := by decide
  have hlanguage := @isLanguage_transcriptLanguage _ hsource.policy results
    fun result hresult =>
      have ⟨_, _, hvalid⟩ := exists_interval hresults hresult
      isLanguage_of_result hvalid.accepted
  have hsegments : ((results.map (transcriptSegment sha256 source.attemptId)).all
      TranscriptSegmentV1Schema.accepts) = true := by
    rw [List.all_eq_true]
    intro segment hsegment
    obtain ⟨result, hresult, rfl⟩ := List.mem_map.mp hsegment
    obtain ⟨_, _, hvalid⟩ := exists_interval hresults hresult
    exact segment_accepted source.attemptId hvalid.accepted
  have hissues := @transcript_issues_eq_nil source hsource (assembledTranscript sha256 source
    Providers.OpenRouterTranscription.provider descriptor.model results (some createdAt)) rfl
    (segmentIds_nodup hsource hresults hinjective)
    (segments_intervals source.attemptId hresults)
  simp only [TranscriptV1Schema.accepts, hissues, Bool.and_eq_true, decide_eq_true_eq, and_assoc]
  dsimp only [assembledTranscript]
  rw [List.length_map, hlength]
  constructor
  · rintro ⟨-, -, -, -, -, hshort, -⟩
    exact hshort
  · intro hshort
    exact ⟨deterministicUuid_accepted _ _, hsource.attemptId, by decide, by decide, hmodel, hshort,
      hlanguage, hsource.positive, hsource.bounded.trans (by decide),
      hsource.sourceSha256, hlower, by omega,
      hsegments, rfl, rfl⟩

/-- Nothing but the schema of the transcript refuses validated results. -/
theorem assembleTranscript_eq_ok (hsource : AcceptedSource source)
    (hresults : List.Forall₂ (ValidResult descriptor) source.questionIntervals results)
    {createdAt : JsDate} {transcript : Transcript} :
    assembleTranscript sha256 source results createdAt = .ok transcript ↔
      TranscriptV1Schema.accepts (assembledTranscript sha256 source
        Providers.OpenRouterTranscription.provider descriptor.model results createdAt) = true ∧
      transcript = assembledTranscript sha256 source Providers.OpenRouterTranscription.provider
        descriptor.model results createdAt := by
  have hlength : results.length = source.questionIntervals.length := hresults.length_eq.symm
  have hvalid : ∀ result ∈ results,
      result.provider = Providers.OpenRouterTranscription.provider ∧
      result.model = descriptor.model := by
    intro result hresult
    obtain ⟨_, -, hvalid⟩ := exists_interval hresults hresult
    exact ⟨hvalid.provider, hvalid.model⟩
  have hnonempty := hsource.nonempty
  obtain ⟨first, hfirst⟩ : ∃ first, results.head? = some first := by
    cases results with
    | nil => rw [← hlength, List.length_nil] at hnonempty; omega
    | cons first rest => exact ⟨first, rfl⟩
  obtain ⟨hprovider, hmodel⟩ := hvalid first (List.mem_of_mem_head? hfirst)
  have huniform : ¬ ∃ result ∈ results,
      result.provider ≠ first.provider ∨ result.model ≠ first.model := by
    rintro ⟨result, hresult, hother⟩
    obtain ⟨hsameProvider, hsameModel⟩ := hvalid result hresult
    rw [hsameProvider, hsameModel, hprovider, hmodel] at hother
    simp at hother
  rw [assembleTranscript, rejectIf_bind_eq_ok, hfirst]
  dsimp only
  rw [rejectIf_bind_eq_ok, rejectIf_bind_eq_ok, hprovider, hmodel, Bool.not_eq_false]
  rw [hprovider, hmodel] at huniform
  constructor
  · rintro ⟨-, -, haccepts, h⟩
    exact ⟨haccepts, (Except.ok.inj h).symm⟩
  · rintro ⟨haccepts, rfl⟩
    exact ⟨fun hne => hne hlength, huniform, haccepts, rfl⟩

/-- Validated results are assembled to a transcript with exactly one segment for each interval if
and only if the model's name is no longer than a transcript's may be. -/
theorem assembleTranscript_exact_iff
    (hsource : RecordingAudioTranscriptionSourceSchema.accepts source = true)
    (hconfig : ProviderConfigSchema.descriptor isSafeProviderBaseUrl config = some descriptor)
    (hresults : ValidatedResults source descriptor results)
    (hinjective : Set.InjOn (deterministicUuid sha256)
      {seed | ∃ result ∈ results, seed = segmentSeed source.attemptId result})
    (createdAt : ℤ) :
    (∃ transcript, assembleTranscript sha256 source results (some createdAt) = .ok transcript ∧
      ExactTranscript source results transcript) ↔ descriptor.model.length ≤ 100 := by
  have hpromise := AcceptedSource.of_accepts hsource
  have hmodel := (Providers.OpenRouterTranscription.ProviderConfigSchema.model_bounds hconfig).1
  have haccepted := assembledTranscript_accepted hpromise hmodel hresults.forall₂ hinjective
    createdAt
  constructor
  · rintro ⟨transcript, htranscript, -⟩
    exact haccepted.mp ((assembleTranscript_eq_ok hpromise hresults.forall₂).mp htranscript).1
  · intro hshort
    refine ⟨_, (assembleTranscript_eq_ok hpromise hresults.forall₂).mpr
      ⟨haccepted.mpr hshort, rfl⟩, ?_⟩
    exact {
      accepted := haccepted.mpr hshort
      intervals := segments_intervals source.attemptId hresults.forall₂
      texts := by
        dsimp only [assembledTranscript]
        rw [List.map_map]
        rfl
      ids := segmentIds_nodup hpromise hresults.forall₂ hinjective
      language := isTranscriptLanguage_transcriptLanguage _ _ }

end Assembly

/-! ## A source with one question -/

def sampleQuestionInterval : ProofQuestionInterval where
  schemaVersion := js "1"
  intervalVersion := Media.proofQuestionIntervalVersion
  questionId := js "44444444-4444-4444-8444-444444444444"
  ordinal := 0
  startMs := 0
  endMs := 1000
  recordedDurationMs := 1000
  source := Media.proofQuestionIntervalSource

def sampleSourceFinalization : FinalizeRecording where
  manifest := { sampleObjectManifest with questionIntervals := some [sampleQuestionInterval] }
  manifestTagBase64url := js "aaaaaaaaaaaaaaaaaaaaaaaaaaaaaaaaaaaaaaaaaaE"
  manifestDigest := js "cccccccccccccccccccccccccccccccccccccccccccccccccccccccccccccccc"
  wrappedKey := ⟨sampleObjectManifest.wrapping.materialId, js "local", Media.wrappingAlgorithm,
    js "Bw", sampleObjectManifest.wrapping.wrappedKeySha256⟩
  uploadedParts := [⟨1, js "etag"⟩]

def sampleTranscriptionSource : RecordingAudioTranscriptionSource where
  schemaVersion := js "1"
  sourceVersion := js "recording-audio-source-v1"
  attemptId := sampleObjectManifest.attemptId
  recordingObjectId := js "55555555-5555-4555-8555-555555555555"
  headSha := sampleObjectManifest.headSha
  sourceSha256 := sampleSourceFinalization.manifestDigest
  recordingDurationMs := 1000
  recordingCiphertextBytes := 49
  recordingCodec := recordingCodec
  materialId := sampleObjectManifest.wrapping.materialId
  materialKeyId := js "local"
  finalization := sampleSourceFinalization
  proofQuestionIds := [sampleQuestionInterval.questionId]
  questionIntervals := [sampleQuestionInterval]
  languagePolicy := .detect

/-- A configuration with a model of this many letters. -/
def sampleProviderConfig (letters : ℕ) : ProviderConfig :=
  ⟨js "https://openrouter.ai/api/v1", js "0123456789abcdef", List.replicate letters 0x6d,
    .notVerified⟩

def sampleQuestionResult (letters : ℕ) : QuestionTranscriptionResult where
  questionId := sampleQuestionInterval.questionId
  clipSha256 := js "dddddddddddddddddddddddddddddddddddddddddddddddddddddddddddddddd"
  startMs := 0
  endMs := 1000
  provider := Providers.OpenRouterTranscription.provider
  model := List.replicate letters 0x6d
  language := js "en-US"
  text := ⟨.transcript, js "It retries."⟩
  zeroDataRetention := .notVerified

theorem sampleResults_injective (letters : ℕ) :
    Set.InjOn (deterministicUuid Media.sampleSha256)
      {seed | ∃ result ∈ [sampleQuestionResult letters],
        seed = segmentSeed sampleTranscriptionSource.attemptId result} := by
  rintro left ⟨_, hleft, rfl⟩ right ⟨_, hright, rfl⟩ -
  rw [List.mem_singleton.mp hleft, List.mem_singleton.mp hright]

/-- With a model of five letters the one answer becomes the one segment. -/
theorem assembleTranscript_exact_sample :
    ∃ transcript, assembleTranscript Media.sampleSha256 sampleTranscriptionSource
        [sampleQuestionResult 5] (some 0) = .ok transcript ∧
      ExactTranscript sampleTranscriptionSource [sampleQuestionResult 5] transcript :=
  (@assembleTranscript_exact_iff Media.sampleSha256 sampleTranscriptionSource (fun _ => true)
    (sampleProviderConfig 5) ⟨List.replicate 5 0x6d, .notVerified⟩ [sampleQuestionResult 5]
    (by decide +kernel) (by decide +kernel)
    (.cons ⟨sampleQuestionResult 5, (sampleQuestionResult 5).clipSha256, by decide⟩ .nil)
    (sampleResults_injective 5) 0).mpr (by decide)

/-- A model of 101 letters is accepted by the configuration and the result, and no transcript can
carry it. -/
theorem not_every_assembly_exact :
    ¬ ∀ (sha256 : Sha256) (source : RecordingAudioTranscriptionSource)
        (isSafeProviderBaseUrl : JsString → Bool) (config : ProviderConfig)
        (descriptor : Descriptor) (results : List QuestionTranscriptionResult) (createdAt : ℤ),
      RecordingAudioTranscriptionSourceSchema.accepts source = true →
      assertSourceBinding source = .ok () →
      ProviderConfigSchema.descriptor isSafeProviderBaseUrl config = some descriptor →
      ValidatedResults source descriptor results →
      Set.InjOn (deterministicUuid sha256)
        {seed | ∃ result ∈ results, seed = segmentSeed source.attemptId result} →
      ∃ transcript, assembleTranscript sha256 source results (some createdAt) = .ok transcript ∧
        ExactTranscript source results transcript := by
  intro h
  obtain ⟨transcript, htranscript, -⟩ := h Media.sampleSha256 sampleTranscriptionSource
    (fun _ => true) (sampleProviderConfig 101) ⟨List.replicate 101 0x6d, .notVerified⟩
    [sampleQuestionResult 101] 0 (by decide +kernel) (by decide +kernel) (by decide +kernel)
    (.cons ⟨sampleQuestionResult 101, (sampleQuestionResult 101).clipSha256, by decide⟩
      .nil)
    (sampleResults_injective 101)
  have hrefused : assembleTranscript Media.sampleSha256 sampleTranscriptionSource
      [sampleQuestionResult 101] (some 0) = .error .zodError := by decide
  rw [hrefused] at htranscript
  cases htranscript

end Worker

end UnderstandProof
