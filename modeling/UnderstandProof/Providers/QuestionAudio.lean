import UnderstandProof.Foundation.ByteView
import UnderstandProof.Media.Crypto
import UnderstandProof.Providers.Errors
import UnderstandProof.Providers.EvaluationInput

/-!
# The audio of a question

The request of a question transcription and what the provider checks of it before it
sends anything: the schema, the header of the WAV file against the interval, and the
digest. The context of the call is checked on its own and is not part of the request.
-/

open Foundation Foundation.ByteView

namespace UnderstandProof

namespace Providers

open Media (Bytes Sha256 sha256Hex)

def maxAudioBytes : ℕ := 16 * 1024 * 1024
def maxClipDurationMs : ℕ := 8 * 60 * 1000
def pcmSampleRate : ℕ := 16000
def pcmChannels : ℕ := 1
def pcmBitsPerSample : ℕ := 16
def standardWavHeaderBytes : ℕ := 44

inductive TranscriptionLanguagePolicy where
  | detect
  | fixed (language : JsString)
  deriving DecidableEq, Repr

/-- `TranscriptionLanguagePolicyV1Schema` -/
def TranscriptionLanguagePolicySchema.accepts : TranscriptionLanguagePolicy → Bool
  | .detect => true
  | .fixed language => isLanguage language

structure QuestionAudioTranscriptionRequest where
  schemaVersion : JsString
  requestVersion : JsString
  attemptId : JsString
  questionId : JsString
  sourceSha256 : JsString
  clipSha256 : JsString
  startMs : ℕ
  endMs : ℕ
  languagePolicy : TranscriptionLanguagePolicy
  audio : Bytes
  deriving DecidableEq, Repr

namespace QuestionAudioTranscriptionRequestSchema

def issues (request : QuestionAudioTranscriptionRequest) : List Issue :=
  issueIf (request.endMs ≤ request.startMs)
    "Question audio interval must have positive duration" [.key "endMs"] ++
  issueIf (request.audio.length < standardWavHeaderBytes ∨ maxAudioBytes < request.audio.length)
    "Question audio exceeds its byte contract" [.key "audio"]

def accepts (request : QuestionAudioTranscriptionRequest) : Bool :=
  request.schemaVersion == js "1" &&
    request.requestVersion == js "question-audio-transcription-v1" &&
    isUuid request.attemptId && isUuid request.questionId &&
    Media.Sha256Schema.accepts request.sourceSha256 &&
    Media.Sha256Schema.accepts request.clipSha256 &&
    request.startMs ≤ maxClipDurationMs - 1 &&
    0 < request.endMs && request.endMs ≤ maxClipDurationMs &&
    TranscriptionLanguagePolicySchema.accepts request.languagePolicy &&
    (issues request).isEmpty

theorem accepts_iff {request : QuestionAudioTranscriptionRequest} :
    accepts request = true ↔
      request.schemaVersion = js "1" ∧
      request.requestVersion = js "question-audio-transcription-v1" ∧
      isUuid request.attemptId = true ∧ isUuid request.questionId = true ∧
      Media.Sha256Schema.accepts request.sourceSha256 = true ∧
      Media.Sha256Schema.accepts request.clipSha256 = true ∧
      request.startMs ≤ maxClipDurationMs - 1 ∧
      0 < request.endMs ∧ request.endMs ≤ maxClipDurationMs ∧
      TranscriptionLanguagePolicySchema.accepts request.languagePolicy = true ∧
      request.startMs < request.endMs ∧
      standardWavHeaderBytes ≤ request.audio.length ∧ request.audio.length ≤ maxAudioBytes := by
  simp only [accepts, issues, Bool.and_eq_true, decide_eq_true_eq, beq_iff_eq, List.isEmpty_iff,
    List.append_eq_nil_iff, issueIf_eq_nil, not_or, not_lt, not_le, and_assoc]

end QuestionAudioTranscriptionRequestSchema

/-- A provider error of the transcription, with its message. -/
structure TranscriptionError where
  code : ProviderErrorCode
  disposition : ProviderErrorDisposition
  message : String
  deriving DecidableEq, Repr

def invalidInputAudioError : TranscriptionError :=
  ⟨.invalidInput, .terminal, "Question audio is not bounded mono 16 kHz PCM WAV"⟩

/-- `ascii(bytes, offset, length)` -/
def asciiText (bytes : Bytes) (offset length : ℕ) : JsString :=
  (window bytes offset length).map fun byte => UInt16.ofNat byte.toNat

def assertPcmWav (bytes : Bytes) (durationMs : ℤ) : Except TranscriptionError Unit := do
  rejectIf (durationMs ≤ 0 ∨ (maxClipDurationMs : ℤ) < durationMs ∨
      bytes.length < standardWavHeaderBytes ∨ maxAudioBytes < bytes.length ∨
      asciiText bytes 0 4 ≠ js "RIFF" ∨ asciiText bytes 8 4 ≠ js "WAVE" ∨
      asciiText bytes 12 4 ≠ js "fmt " ∨ asciiText bytes 36 4 ≠ js "data")
    invalidInputAudioError
  let declaredFileBytes := getUint 4 bytes 4 + 8
  let formatChunkBytes := getUint 4 bytes 16
  let format := getUint 2 bytes 20
  let channels := getUint 2 bytes 22
  let sampleRate := getUint 4 bytes 24
  let byteRate := getUint 4 bytes 28
  let blockAlign := getUint 2 bytes 32
  let bitsPerSample := getUint 2 bytes 34
  let dataBytes := getUint 4 bytes 40
  let expectedDataBytes :=
    durationMs * pcmSampleRate * pcmChannels * (pcmBitsPerSample / 8 : ℕ) / 1000
  rejectIf (declaredFileBytes ≠ bytes.length ∨ formatChunkBytes ≠ 16 ∨ format ≠ 1 ∨
      channels ≠ pcmChannels ∨ sampleRate ≠ pcmSampleRate ∨
      byteRate ≠ pcmSampleRate * pcmChannels * (pcmBitsPerSample / 8) ∨
      blockAlign ≠ pcmChannels * (pcmBitsPerSample / 8) ∨
      bitsPerSample ≠ pcmBitsPerSample ∨
      (dataBytes : ℤ) ≠ bytes.length - standardWavHeaderBytes ∨
      pcmSampleRate / 2 < ((dataBytes : ℤ) - expectedDataBytes).natAbs)
    invalidInputAudioError

/-- What `transcribeQuestion` checks of its request. -/
def checkQuestionAudio (sha256 : Sha256) (request : QuestionAudioTranscriptionRequest) :
    Except TranscriptionError Unit := do
  rejectIf (QuestionAudioTranscriptionRequestSchema.accepts request = false)
    ⟨.invalidInput, .terminal, "Question audio failed its versioned transcription contract"⟩
  assertPcmWav request.audio (request.endMs - request.startMs)
  rejectIf (sha256Hex sha256 request.audio ≠ request.clipSha256)
    ⟨.invalidInput, .terminal, "Question audio digest does not match its request binding"⟩

end Providers

end UnderstandProof
