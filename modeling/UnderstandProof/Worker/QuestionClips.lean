import UnderstandProof.Db.ProofQuestionIntervalAgreement
import UnderstandProof.Providers.QuestionAudio

/-!
# The clips of the questions

The worker cuts one WAV clip for each question out of the decoded sound of a
recording, and the provider checks the clip again against the interval. The two sides
compute the header and the lengths on their own; every clip that is cut passes.
-/

open Foundation Foundation.ByteView

namespace UnderstandProof

namespace Worker

open Media (Bytes Sha256 sha256Hex ProofQuestionInterval validateProofQuestionIntervalsV1)
open Providers (TranscriptionError TranscriptionLanguagePolicy checkQuestionAudio
  QuestionAudioTranscriptionRequest assertPcmWav)

def clipSampleRate : ℕ := 16000
def clipChannels : ℕ := 1
def pcmBytesPerSample : ℕ := 2
def pcmBytesPerMillisecond : ℕ := clipSampleRate * clipChannels * pcmBytesPerSample / 1000
def wavHeaderBytes : ℕ := 44
def maxQuestionAudioBytes : ℕ := 16 * 1024 * 1024
def maxQuestionClipEndClampMs : ℕ := 250

def technicalInputError : TranscriptionError :=
  ⟨.invalidInput, .terminal,
    "Recording transcription input failed its authenticated bounded contract"⟩

def reviewOutputError (message : String) : TranscriptionError :=
  ⟨.invalidOutput, .review, message⟩

/-- The bytes that `writeAscii` stores. -/
def asciiBytes (value : String) : Bytes := value.toList.map fun c => UInt8.ofNat c.toNat

def clampQuestionClipEndByte (requestedEndByte pcmByteLength : ℕ) : ℕ :=
  if requestedEndByte ≤ pcmByteLength then requestedEndByte
  else
    let overflowBytes := requestedEndByte - pcmByteLength
    let overflowMs : ℚ := overflowBytes / pcmBytesPerMillisecond
    if maxQuestionClipEndClampMs < overflowMs then requestedEndByte else pcmByteLength

/-- The writes of `questionWavFromPcm` into its buffer, each with its offset. -/
def wavWrites (byteLength dataBytes : ℕ) (data : Bytes) : List (ℕ × Bytes) :=
  [(0, asciiBytes "RIFF"), (4, littleEndian 4 (byteLength - 8)), (8, asciiBytes "WAVE"),
    (12, asciiBytes "fmt "), (16, littleEndian 4 16), (20, littleEndian 2 1),
    (22, littleEndian 2 clipChannels), (24, littleEndian 4 clipSampleRate),
    (28, littleEndian 4 (clipSampleRate * clipChannels * pcmBytesPerSample)),
    (32, littleEndian 2 (clipChannels * pcmBytesPerSample)),
    (34, littleEndian 2 (pcmBytesPerSample * 8)), (36, asciiBytes "data"),
    (40, littleEndian 4 dataBytes), (44, data)]

def questionWavFromPcm (pcm : Bytes) (interval : ProofQuestionInterval) :
    Except TranscriptionError Bytes := do
  rejectIf (Media.ProofQuestionIntervalV1Schema.accepts interval = false) technicalInputError
  let startByte := interval.startMs * pcmBytesPerMillisecond
  let requestedEndByte := interval.endMs * pcmBytesPerMillisecond
  let alignedPcmBytes := pcm.length - pcm.length % pcmBytesPerSample
  let endByte := clampQuestionClipEndByte requestedEndByte alignedPcmBytes
  let dataBytes : ℤ := endByte - startByte
  rejectIf (startByte < 0 ∨ alignedPcmBytes < endByte ∨ dataBytes ≤ 0 ∨
      (maxQuestionAudioBytes : ℤ) < dataBytes + wavHeaderBytes ∨
      dataBytes % pcmBytesPerSample ≠ 0)
    (reviewOutputError "Stored question interval is not available in decoded audio")
  let byteLength := wavHeaderBytes + dataBytes.toNat
  return putAll (List.replicate byteLength 0)
    (wavWrites byteLength dataBytes.toNat (window pcm startByte (endByte - startByte)))

/-- What a transcription reads of the source of a recording for its requests. -/
structure AudioSource where
  attemptId : JsString
  sourceSha256 : JsString
  languagePolicy : TranscriptionLanguagePolicy

/-- The checks of `RecordingAudioTranscriptionSourceV1Schema` on these fields. -/
def AudioSource.accepts (source : AudioSource) : Bool :=
  isUuid source.attemptId && Media.Sha256Schema.accepts source.sourceSha256 &&
    Providers.TranscriptionLanguagePolicySchema.accepts source.languagePolicy

/-- The request that `transcribe` builds for a clip. -/
def AudioSource.request (source : AudioSource) (sha256 : Sha256)
    (interval : ProofQuestionInterval) (wav : Bytes) : QuestionAudioTranscriptionRequest where
  schemaVersion := js "1"
  requestVersion := js "question-audio-transcription-v1"
  attemptId := source.attemptId
  questionId := interval.questionId
  sourceSha256 := source.sourceSha256
  clipSha256 := sha256Hex sha256 wav
  startMs := interval.startMs
  endMs := interval.endMs
  languagePolicy := source.languagePolicy
  audio := wav

/-! ## The file that is cut -/

/-- The bytes of a clip: the header of 44 bytes and the samples. -/
def wavFile (data : Bytes) : Bytes :=
  (wavWrites (wavHeaderBytes + data.length) data.length data).flatMap Prod.snd

theorem consecutive_wavWrites (byteLength dataBytes : ℕ) (data : Bytes) :
    Consecutive 0 (wavWrites byteLength dataBytes data) := by
  have hriff : (asciiBytes "RIFF").length = 4 := by decide
  have hwave : (asciiBytes "WAVE").length = 4 := by decide
  have hfmt : (asciiBytes "fmt ").length = 4 := by decide
  have hdata : (asciiBytes "data").length = 4 := by decide
  simp only [wavWrites, Consecutive, length_littleEndian, hriff, hwave, hfmt, hdata, and_true]

theorem length_wavFile (data : Bytes) : (wavFile data).length = wavHeaderBytes + data.length := by
  have hriff : (asciiBytes "RIFF").length = 4 := by decide
  have hwave : (asciiBytes "WAVE").length = 4 := by decide
  have hfmt : (asciiBytes "fmt ").length = 4 := by decide
  have hdata : (asciiBytes "data").length = 4 := by decide
  simp only [wavFile, wavWrites, List.flatMap_cons, List.flatMap_nil, List.length_append,
    length_littleEndian, hriff, hwave, hfmt, hdata, wavHeaderBytes, List.length_nil]
  omega

/-- The clip lacks at most the quarter second that the clamp gives away. -/
structure ClipOf (interval : ProofQuestionInterval) (data : Bytes) : Prop where
  nonempty : 0 < data.length
  bounded : data.length + wavHeaderBytes ≤ maxQuestionAudioBytes
  le : data.length ≤ pcmBytesPerMillisecond * (interval.endMs - interval.startMs)
  clamped : pcmBytesPerMillisecond * (interval.endMs - interval.startMs) ≤
    data.length + pcmBytesPerMillisecond * maxQuestionClipEndClampMs

theorem clampQuestionClipEndByte_le {requestedEndByte pcmByteLength : ℕ}
    (h : clampQuestionClipEndByte requestedEndByte pcmByteLength ≤ pcmByteLength) :
    clampQuestionClipEndByte requestedEndByte pcmByteLength ≤ requestedEndByte ∧
      requestedEndByte ≤ clampQuestionClipEndByte requestedEndByte pcmByteLength +
        pcmBytesPerMillisecond * maxQuestionClipEndClampMs := by
  unfold clampQuestionClipEndByte at *
  split at h
  · next hle => simp [hle]
  · next hover =>
    rw [if_neg hover]
    dsimp only at h ⊢
    split at h
    · omega
    · next hclamp =>
      rw [if_neg hclamp]
      refine ⟨by omega, ?_⟩
      have hms : ((requestedEndByte - pcmByteLength : ℕ) : ℚ) ≤
          maxQuestionClipEndClampMs * pcmBytesPerMillisecond :=
        (div_le_iff₀ (by norm_num [pcmBytesPerMillisecond, clipSampleRate, clipChannels,
          pcmBytesPerSample])).mp (not_lt.mp hclamp)
      have hbytes : requestedEndByte - pcmByteLength ≤
          maxQuestionClipEndClampMs * pcmBytesPerMillisecond := by
        exact_mod_cast hms
      rw [Nat.mul_comm] at hbytes
      omega

/-- The end of a clip in the whole samples of the sound. -/
def clipEndByte (pcm : Bytes) (interval : ProofQuestionInterval) : ℕ :=
  clampQuestionClipEndByte (interval.endMs * pcmBytesPerMillisecond)
    (pcm.length - pcm.length % pcmBytesPerSample)

def clipStartByte (interval : ProofQuestionInterval) : ℕ :=
  interval.startMs * pcmBytesPerMillisecond

/-- The samples of a clip. -/
def clipData (pcm : Bytes) (interval : ProofQuestionInterval) : Bytes :=
  window pcm (clipStartByte interval) (clipEndByte pcm interval - clipStartByte interval)

/-- What is cut lies in the sound. -/
structure Cut (pcm : Bytes) (interval : ProofQuestionInterval) : Prop where
  positive : clipStartByte interval < clipEndByte pcm interval
  within : clipEndByte pcm interval ≤ pcm.length - pcm.length % pcmBytesPerSample
  bounded : clipEndByte pcm interval - clipStartByte interval + wavHeaderBytes ≤
    maxQuestionAudioBytes

theorem length_clipData {pcm : Bytes} {interval : ProofQuestionInterval} (h : Cut pcm interval) :
    (clipData pcm interval).length = clipEndByte pcm interval - clipStartByte interval := by
  have hpositive := h.positive
  have hwithin := h.within
  rw [clipData, window, List.length_take, List.length_drop]
  omega

/-- A clip that is cut is the file of its samples. -/
theorem questionWavFromPcm_cut {pcm wav : Bytes} {interval : ProofQuestionInterval}
    (h : questionWavFromPcm pcm interval = .ok wav) :
    Cut pcm interval ∧ wav = wavFile (clipData pcm interval) := by
  unfold questionWavFromPcm at h
  rw [rejectIf_bind_eq_ok] at h
  obtain ⟨-, h⟩ := h
  dsimp only at h
  rw [rejectIf_bind_eq_ok] at h
  obtain ⟨hlimits, h⟩ := h
  simp only [not_or, not_lt, not_le, ne_eq, not_not] at hlimits
  obtain ⟨-, hend, hpositive, hbounded, -⟩ := hlimits
  change clipEndByte pcm interval ≤ _ at hend
  change (0 : ℤ) < (clipEndByte pcm interval : ℤ) - (clipStartByte interval : ℤ) at hpositive
  change (clipEndByte pcm interval : ℤ) - (clipStartByte interval : ℤ) + _ ≤ _ at hbounded
  have hcut : Cut pcm interval := ⟨by omega, hend, by omega⟩
  have hbytes : ((clipEndByte pcm interval : ℤ) - (clipStartByte interval : ℤ)).toNat =
      (clipData pcm interval).length := by
    rw [length_clipData hcut]
    omega
  have hwav : putAll (List.replicate (wavHeaderBytes +
      ((clipEndByte pcm interval : ℤ) - (clipStartByte interval : ℤ)).toNat) 0)
        (wavWrites (wavHeaderBytes +
          ((clipEndByte pcm interval : ℤ) - (clipStartByte interval : ℤ)).toNat)
          ((clipEndByte pcm interval : ℤ) - (clipStartByte interval : ℤ)).toNat
          (clipData pcm interval)) = wav := Except.ok.inj h
  rw [hbytes] at hwav
  refine ⟨hcut, ?_⟩
  rw [← hwav]
  refine putAll_eq (consecutive_wavWrites _ _ _) ?_
  rw [List.length_replicate]
  exact length_wavFile _

theorem questionWavFromPcm_eq_ok {pcm wav : Bytes} {interval : ProofQuestionInterval}
    (h : questionWavFromPcm pcm interval = .ok wav) :
    ∃ data, wav = wavFile data ∧ ClipOf interval data := by
  obtain ⟨hcut, rfl⟩ := questionWavFromPcm_cut h
  refine ⟨clipData pcm interval, rfl, ?_⟩
  have hclamp := clampQuestionClipEndByte_le hcut.within
  have hpositive := hcut.positive
  have hbounded := hcut.bounded
  have hdata := length_clipData hcut
  have hmul : pcmBytesPerMillisecond * (interval.endMs - interval.startMs) =
      interval.endMs * pcmBytesPerMillisecond - clipStartByte interval := by
    rw [clipStartByte, Nat.mul_sub, Nat.mul_comm _ interval.endMs,
      Nat.mul_comm _ interval.startMs]
  change clipEndByte pcm interval ≤ _ ∧ _ ≤ clipEndByte pcm interval + _ at hclamp
  exact {
    nonempty := by omega
    bounded := by omega
    le := by omega
    clamped := by omega }

/-! ## What the provider reads of it -/

section Header

variable (data : Bytes)

theorem asciiText_wavFile :
    Providers.asciiText (wavFile data) 0 4 = js "RIFF" ∧
      Providers.asciiText (wavFile data) 8 4 = js "WAVE" ∧
      Providers.asciiText (wavFile data) 12 4 = js "fmt " ∧
      Providers.asciiText (wavFile data) 36 4 = js "data" :=
  ⟨rfl, rfl, rfl, rfl⟩

theorem formatChunk_wavFile :
    getUint 4 (wavFile data) 16 = 16 ∧ getUint 2 (wavFile data) 20 = 1 ∧
      getUint 2 (wavFile data) 22 = Providers.pcmChannels ∧
      getUint 4 (wavFile data) 24 = Providers.pcmSampleRate ∧
      getUint 4 (wavFile data) 28 = Providers.pcmSampleRate * Providers.pcmChannels *
        (Providers.pcmBitsPerSample / 8) ∧
      getUint 2 (wavFile data) 32 = Providers.pcmChannels * (Providers.pcmBitsPerSample / 8) ∧
      getUint 2 (wavFile data) 34 = Providers.pcmBitsPerSample :=
  ⟨getUint_of_window rfl (by decide), getUint_of_window rfl (by decide),
    getUint_of_window rfl (by decide), getUint_of_window rfl (by decide),
    getUint_of_window rfl (by decide), getUint_of_window rfl (by decide),
    getUint_of_window rfl (by decide)⟩

theorem sizes_wavFile (h : data.length + wavHeaderBytes ≤ maxQuestionAudioBytes) :
    getUint 4 (wavFile data) 4 + 8 = (wavFile data).length ∧
      getUint 4 (wavFile data) 40 = data.length := by
  have hbound : maxQuestionAudioBytes < 256 ^ 4 := by decide
  have hfile : getUint 4 (wavFile data) 4 = wavHeaderBytes + data.length - 8 :=
    getUint_of_window rfl (by omega)
  refine ⟨?_, getUint_of_window rfl (by omega)⟩
  rw [hfile, length_wavFile]
  unfold wavHeaderBytes
  omega

end Header

/-- The header of a clip agrees with its interval. -/
theorem assertPcmWav_wavFile {interval : ProofQuestionInterval} {data : Bytes}
    (hinterval : Media.ProofQuestionIntervalV1Schema.accepts interval = true)
    (h : ClipOf interval data) :
    assertPcmWav (wavFile data) (interval.endMs - interval.startMs) = .ok () := by
  obtain ⟨-, -, -, -, hstart, -, hend, -, -, -, horder, -⟩ :=
    Db.accepts_interval_iff.mp hinterval
  obtain ⟨hriff, hwave, hfmt, hdata⟩ := asciiText_wavFile data
  obtain ⟨hchunk, hformat, hchannels, hrate, hbytes, hblock, hbits⟩ := formatChunk_wavFile data
  obtain ⟨hsize, hdataBytes⟩ := sizes_wavFile data h.bounded
  have hlength := length_wavFile data
  have hmax : Providers.maxClipDurationMs = 480000 := rfl
  have haudio : Providers.maxAudioBytes = maxQuestionAudioBytes := rfl
  have hheader : Providers.standardWavHeaderBytes = wavHeaderBytes := rfl
  have hbounded := h.bounded
  unfold assertPcmWav
  rw [rejectIf_bind_eq_ok]
  refine ⟨?_, ?_⟩
  · simp only [not_or, not_lt, not_le, ne_eq, not_not]
    exact ⟨by omega, by omega, by omega, by omega, hriff, hwave, hfmt, hdata⟩
  · dsimp only
    rw [rejectIf_eq_ok]
    simp only [not_or, not_lt, ne_eq, not_not]
    refine ⟨hsize, hchunk, hformat, hchannels, hrate, hbytes, hblock, hbits, ?_, ?_⟩
    · rw [hdataBytes, hlength, hheader]
      omega
    · have hexpected : ((interval.endMs : ℤ) - interval.startMs) * Providers.pcmSampleRate *
          Providers.pcmChannels * (Providers.pcmBitsPerSample / 8 : ℕ) / 1000 =
            pcmBytesPerMillisecond * (interval.endMs - interval.startMs) := by
        have hunits : (Providers.pcmSampleRate : ℤ) = 16000 ∧ (Providers.pcmChannels : ℤ) = 1 ∧
            ((Providers.pcmBitsPerSample / 8 : ℕ) : ℤ) = 2 ∧
            (pcmBytesPerMillisecond : ℤ) = 32 := by decide
        obtain ⟨hrate, hchannels, hsample, hmillisecond⟩ := hunits
        rw [hrate, hchannels, hsample, hmillisecond]
        omega
      have hunits : pcmBytesPerMillisecond = 32 ∧ maxQuestionClipEndClampMs = 250 ∧
          Providers.pcmSampleRate = 16000 := by decide
      obtain ⟨hmillisecond, hclamp, hrate⟩ := hunits
      have hle := h.le
      have hclamped := h.clamped
      rw [hexpected, hdataBytes]
      rw [hmillisecond] at hle hclamped ⊢
      rw [hclamp] at hclamped
      omega

/-- The request of a clip passes the schema of the provider. -/
theorem request_accepted (sha256 : Sha256) {source : AudioSource}
    {interval : ProofQuestionInterval} {data : Bytes} (hsource : source.accepts = true)
    (hinterval : Media.ProofQuestionIntervalV1Schema.accepts interval = true)
    (h : ClipOf interval data) :
    Providers.QuestionAudioTranscriptionRequestSchema.accepts
      (source.request sha256 interval (wavFile data)) = true := by
  obtain ⟨-, -, hquestion, -, hstart, hpositive, hend, -, -, -, horder, -⟩ :=
    Db.accepts_interval_iff.mp hinterval
  simp only [AudioSource.accepts, Bool.and_eq_true] at hsource
  obtain ⟨⟨hattempt, hsha⟩, hpolicy⟩ := hsource
  have hlength := length_wavFile data
  have hbounded := h.bounded
  refine Providers.QuestionAudioTranscriptionRequestSchema.accepts_iff.mpr
    ⟨rfl, rfl, hattempt, hquestion, hsha, Media.sha256Hex_accepted sha256 _, hstart, hpositive,
      hend, hpolicy, horder, ?_, ?_⟩
  · exact hlength ▸ Nat.le_add_right _ _
  · exact (hlength.trans (Nat.add_comm _ _)).le.trans hbounded

/-- The provider takes every clip that the worker cuts for a stored timeline. -/
theorem questionWavFromPcm_accepted (sha256 : Sha256) {source : AudioSource} {pcm wav : Bytes}
    {intervals accepted : List ProofQuestionInterval} {questionIds : List JsString}
    {recordingDurationMs : ℕ} {interval : ProofQuestionInterval}
    (hsource : source.accepts = true)
    (haccepted : validateProofQuestionIntervalsV1 intervals questionIds recordingDurationMs =
      .ok accepted)
    (hmem : interval ∈ accepted) (hwav : questionWavFromPcm pcm interval = .ok wav) :
    Providers.QuestionAudioTranscriptionRequestSchema.accepts
        (source.request sha256 interval wav) = true ∧
      assertPcmWav wav (interval.endMs - interval.startMs) = .ok () ∧
      checkQuestionAudio sha256 (source.request sha256 interval wav) = .ok () := by
  obtain ⟨rfl, htimeline⟩ := Db.validate_eq_ok_iff.mp haccepted
  have hinterval := htimeline.fields interval hmem
  obtain ⟨data, rfl, hclip⟩ := questionWavFromPcm_eq_ok hwav
  have hheader := assertPcmWav_wavFile hinterval hclip
  have hrequest : Providers.QuestionAudioTranscriptionRequestSchema.accepts
      (source.request sha256 interval (wavFile data)) = true :=
    request_accepted sha256 hsource hinterval hclip
  refine ⟨hrequest, hheader, ?_⟩
  unfold checkQuestionAudio
  rw [rejectIf_bind_eq_ok]
  refine ⟨by simp [hrequest], ?_⟩
  have haudio : (source.request sha256 interval (wavFile data)).audio = wavFile data := rfl
  have hspan : assertPcmWav (wavFile data)
      ((source.request sha256 interval (wavFile data)).endMs -
        (source.request sha256 interval (wavFile data)).startMs) = .ok () := hheader
  rw [haudio, hspan]
  exact rejectIf_of_not (not_not.mpr rfl)

/-! ## The clips of a recording -/

theorem drop_header (data : Bytes) : (wavFile data).drop wavHeaderBytes = data :=
  List.append_nil data

/-- A WAV file whose header says how long it is. -/
structure IsWav (clip : Bytes) : Prop where
  riff : Providers.asciiText clip 0 4 = js "RIFF" ∧ Providers.asciiText clip 8 4 = js "WAVE"
  chunks : Providers.asciiText clip 12 4 = js "fmt " ∧ getUint 4 clip 16 = 16 ∧
    Providers.asciiText clip 36 4 = js "data"
  riffSize : getUint 4 clip 4 + 8 = clip.length
  dataSize : getUint 4 clip 40 + wavHeaderBytes = clip.length

theorem isWav_wavFile {data : Bytes} (h : data.length + wavHeaderBytes ≤ maxQuestionAudioBytes) :
    IsWav (wavFile data) := by
  obtain ⟨hriff, hwave, hfmt, hdata⟩ := asciiText_wavFile data
  obtain ⟨hfile, hbytes⟩ := sizes_wavFile data h
  refine ⟨⟨hriff, hwave⟩, ⟨hfmt, (formatChunk_wavFile data).1, hdata⟩, hfile, ?_⟩
  rw [hbytes, length_wavFile, Nat.add_comm]

/-- The clips cut the sound into pieces, one for each interval. -/
structure ClipPartition (pcm : Bytes) (intervals : List ProofQuestionInterval)
    (clips : List Bytes) : Prop where
  joined : ∀ first ∈ intervals.head?, ∀ last ∈ intervals.getLast?,
    clips.flatMap (List.drop wavHeaderBytes) =
      window pcm (clipStartByte first) (clipEndByte pcm last - clipStartByte first)
  each : List.Forall₂ (fun interval clip =>
    clip.drop wavHeaderBytes = clipData pcm interval) intervals clips
  wavs : ∀ clip ∈ clips, IsWav clip
  clamped : ∀ interval ∈ intervals,
    clipEndByte pcm interval ≠ interval.endMs * pcmBytesPerMillisecond →
      clipEndByte pcm interval = pcm.length ∧
      pcm.length < interval.endMs * pcmBytesPerMillisecond ∧
      interval.endMs * pcmBytesPerMillisecond ≤
        pcm.length + maxQuestionClipEndClampMs * pcmBytesPerMillisecond ∧
      intervals.getLast? = some interval

section Partition

variable {pcm : Bytes} {interval next : ProofQuestionInterval}
  {intervals : List ProofQuestionInterval} {clips : List Bytes}

/-- A clip that is clamped ends with the sound. -/
theorem clipEndByte_of_clamped
    (h : clipEndByte pcm interval ≠ interval.endMs * pcmBytesPerMillisecond) :
    clipEndByte pcm interval = pcm.length - pcm.length % pcmBytesPerSample := by
  unfold clipEndByte clampQuestionClipEndByte at *
  split at h
  · exact absurd rfl h
  · next hover =>
    rw [if_neg hover]
    dsimp only at h ⊢
    split at h
    · exact absurd rfl h
    · next hclamp => rw [if_neg hclamp]

/-- A clip with a clip after it is not clamped. -/
theorem clipEndByte_of_next (hmeet : interval.endMs = next.startMs) (hnext : Cut pcm next) :
    clipEndByte pcm interval = clipStartByte next := by
  have hpositive := hnext.positive
  have hwithin := hnext.within
  have hstart : interval.endMs * pcmBytesPerMillisecond = clipStartByte next := by
    rw [hmeet, clipStartByte]
  rw [clipEndByte, hstart, clampQuestionClipEndByte, if_pos (by omega)]

/-- The samples of clips that meet are those of one clip. -/
theorem flatMap_clipData (hmeet : intervals.IsChain fun a b => a.endMs = b.startMs)
    (hcut : ∀ interval ∈ intervals, Cut pcm interval) {first last : ProofQuestionInterval}
    (hfirst : intervals.head? = some first) (hlast : intervals.getLast? = some last) :
    intervals.flatMap (clipData pcm) =
        window pcm (clipStartByte first) (clipEndByte pcm last - clipStartByte first) ∧
      clipStartByte first ≤ clipEndByte pcm last := by
  induction intervals generalizing first with
  | nil => cases hfirst
  | cons interval intervals ih =>
      cases hfirst
      have hpositive := (hcut interval List.mem_cons_self).positive
      cases intervals with
      | nil =>
          cases hlast
          exact ⟨List.append_nil _, hpositive.le⟩
      | cons next intervals =>
          obtain ⟨hends, hrest⟩ := List.isChain_cons_cons.mp hmeet
          rw [List.getLast?_cons_cons] at hlast
          obtain ⟨hjoined, hle⟩ := ih hrest
            (fun other hother => hcut other (List.mem_cons_of_mem _ hother)) rfl hlast
          have hend := clipEndByte_of_next hends
            (hcut next (List.mem_cons_of_mem _ List.mem_cons_self))
          rw [List.flatMap_cons, hjoined, clipData, hend]
          rw [hend] at hpositive
          exact ⟨window_append pcm hpositive.le hle, hpositive.le.trans hle⟩

/-- Only the last of clips that meet is clamped. -/
theorem getLast?_of_clamped (hmeet : intervals.IsChain fun a b => a.endMs = b.startMs)
    (hcut : ∀ interval ∈ intervals, Cut pcm interval) (hmem : interval ∈ intervals)
    (hclamped : clipEndByte pcm interval ≠ interval.endMs * pcmBytesPerMillisecond) :
    intervals.getLast? = some interval := by
  induction intervals with
  | nil => cases hmem
  | cons first intervals ih =>
      cases intervals with
      | nil =>
          rw [List.mem_singleton.mp hmem]
          rfl
      | cons next intervals =>
          obtain ⟨hends, hrest⟩ := List.isChain_cons_cons.mp hmeet
          rw [List.getLast?_cons_cons]
          rcases List.mem_cons.mp hmem with rfl | hmem
          · refine absurd ?_ hclamped
            rw [clipEndByte_of_next hends
              (hcut next (List.mem_cons_of_mem _ List.mem_cons_self)), clipStartByte, hends]
          · exact ih hrest (fun other hother => hcut other (List.mem_cons_of_mem _ hother)) hmem

end Partition

theorem map_of_forall₂ {α β : Type} {p : α → Prop} {f : α → β} {l : List α} {m : List β}
    (h : List.Forall₂ (fun a b => p a ∧ b = f a) l m) : (∀ a ∈ l, p a) ∧ m = l.map f := by
  induction h with
  | nil => exact ⟨nofun, rfl⟩
  | cons hhead _ ih => exact ⟨List.forall_mem_cons.mpr ⟨hhead.1, ih.1⟩, by rw [hhead.2, ih.2]; rfl⟩

/-- The intervals of a stored timeline meet. -/
theorem isChain_of_timeline {questionIds : List JsString} {recordingDurationMs : ℕ}
    {intervals : List ProofQuestionInterval}
    (h : Db.AcceptedTimeline questionIds recordingDurationMs intervals) :
    intervals.IsChain fun a b => a.endMs = b.startMs := by
  rw [List.isChain_iff_getElem]
  intro i hi
  have hmeet := (h.order (i + 1) hi).contiguous
  rw [List.take_succ_eq_append_getElem (by omega), List.getLast?_append] at hmeet
  exact hmeet _ rfl

/-- The clips of a recording hold its samples from the first start to the last end. -/
theorem clips_partition_recording {pcm : Bytes} (heven : pcm.length % pcmBytesPerSample = 0)
    {intervals accepted : List ProofQuestionInterval} {questionIds : List JsString}
    {recordingDurationMs : ℕ} {clips : List Bytes}
    (haccepted : validateProofQuestionIntervalsV1 intervals questionIds recordingDurationMs =
      .ok accepted)
    (hclips : List.Forall₂ (fun interval clip => questionWavFromPcm pcm interval = .ok clip)
      accepted clips) :
    ClipPartition pcm accepted clips := by
  obtain ⟨rfl, htimeline⟩ := Db.validate_eq_ok_iff.mp haccepted
  have hmeet := isChain_of_timeline htimeline
  obtain ⟨hcut, rfl⟩ := map_of_forall₂ (hclips.imp fun _ _ => questionWavFromPcm_cut)
  have hdata : (accepted.map fun interval => wavFile (clipData pcm interval)).flatMap
      (List.drop wavHeaderBytes) = accepted.flatMap (clipData pcm) := by
    rw [List.flatMap_map]
    exact List.flatMap_congr fun interval _ => drop_header _
  exact {
    joined := by
      intro first hfirst last hlast
      rw [hdata]
      exact (flatMap_clipData hmeet hcut hfirst hlast).1
    each := hclips.imp fun interval clip hclip => by
      rw [(questionWavFromPcm_cut hclip).2, drop_header]
    wavs := by
      intro clip hmem
      obtain ⟨interval, hinterval, rfl⟩ := List.mem_map.mp hmem
      refine isWav_wavFile ?_
      rw [length_clipData (hcut interval hinterval)]
      exact (hcut interval hinterval).bounded
    clamped := by
      intro interval hmem hclamped
      have hlast := getLast?_of_clamped hmeet hcut hmem hclamped
      have hwithin := (hcut interval hmem).within
      have hle := clampQuestionClipEndByte_le hwithin
      change clipEndByte pcm interval ≤ _ ∧ _ ≤ clipEndByte pcm interval + _ at hle
      have hend := clipEndByte_of_clamped hclamped
      rw [heven, Nat.sub_zero] at hend hwithin
      rw [Nat.mul_comm pcmBytesPerMillisecond] at hle
      exact ⟨hend, by omega, by omega, hlast⟩ }

/-! A recording of one millisecond whose decoded sound has one sample. -/

def clipInterval : ProofQuestionInterval where
  schemaVersion := js "1"
  intervalVersion := js "proof-question-interval-v1"
  questionId := js "30000000-0000-4000-8000-000000000001"
  ordinal := 0
  startMs := 0
  endMs := 1
  recordedDurationMs := 1
  source := js "mobile_navigation_v1"

def clipSource : AudioSource where
  attemptId := js "30000000-0000-4000-8000-000000000002"
  sourceSha256 := List.replicate 64 0x61
  languagePolicy := .fixed (js "de-DE")

def clipDigest : Sha256 where
  digest _ := List.replicate 32 7
  length_digest _ := rfl

theorem questionWavFromPcm_accepted_sample :
    Providers.QuestionAudioTranscriptionRequestSchema.accepts
        (clipSource.request clipDigest clipInterval (wavFile [1, 2])) = true ∧
      assertPcmWav (wavFile [1, 2]) ((1 : ℕ) - (0 : ℕ)) = .ok () ∧
      checkQuestionAudio clipDigest
        (clipSource.request clipDigest clipInterval (wavFile [1, 2])) = .ok () :=
  @questionWavFromPcm_accepted clipDigest clipSource [1, 2] (wavFile [1, 2])
    [clipInterval] [clipInterval] [clipInterval.questionId] 1 clipInterval
    (by decide +kernel) (by decide +kernel) (List.mem_singleton.mpr rfl) (by decide +kernel)

theorem clips_partition_recording_sample :
    ClipPartition [1, 2] [clipInterval] [wavFile [1, 2]] :=
  @clips_partition_recording [1, 2] (by decide) [clipInterval] [clipInterval]
    [clipInterval.questionId] 1 [wavFile [1, 2]] (by decide)
    (.cons (by decide +kernel) .nil)

end Worker

end UnderstandProof
