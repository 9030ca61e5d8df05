import UnderstandProof.Foundation.JsonGrammar
import UnderstandProof.Providers.JudgeResult
import UnderstandProof.Providers.QuestionAudio
import UnderstandProof.Providers.TranscriptionRequest

/-!
# The transcription of a question

What becomes of the response to a transcription request. The detected language is looked up in a
table that is a plain object, so a language under the name of one of the properties that every
object inherits finds a value that is no string.
-/

open Foundation Foundation.JsString

namespace UnderstandProof

namespace Providers

namespace OpenRouterTranscription

open Media (Bytes Sha256 sha256Hex)
open StreamRequest (RequestError RequestTelemetry)

def maxTranscriptBytes : ℕ := 100000

/-! ## The configuration -/

inductive ZeroDataRetention where
  | accountEnforced
  | notVerified
  deriving DecidableEq, Repr

structure ProviderConfig where
  baseUrl : JsString
  apiKey : JsString
  model : JsString
  zeroDataRetention : ZeroDataRetention
  deriving DecidableEq, Repr

/-- The provider of a descriptor is `openrouter`. -/
structure Descriptor where
  model : JsString
  zeroDataRetention : ZeroDataRetention
  deriving DecidableEq, Repr

def provider : JsString := js "openrouter"

/-- No unit of `/[\0\r\n]/u`. -/
def isHeaderSafe (value : JsString) : Bool := value.all fun c => c ≠ 0 && c ≠ 0x0d && c ≠ 0x0a

/-- The descriptor of a configuration that `OpenRouterTranscriptionProviderConfigV1Schema` accepts;
the model is trimmed first. -/
def ProviderConfigSchema.descriptor (isSafeProviderBaseUrl : JsString → Bool)
    (config : ProviderConfig) : Option Descriptor :=
  let model := trim config.model
  if isSafeProviderBaseUrl config.baseUrl ∧ 16 ≤ config.apiKey.length ∧
      config.apiKey.length ≤ 4096 ∧ isHeaderSafe config.apiKey ∧ 1 ≤ model.length ∧
      model.length ≤ 200 ∧ isHeaderSafe model then
    some ⟨model, config.zeroDataRetention⟩
  else none

theorem ProviderConfigSchema.model_bounds {isSafeProviderBaseUrl : JsString → Bool}
    {config : ProviderConfig} {descriptor : Descriptor}
    (h : ProviderConfigSchema.descriptor isSafeProviderBaseUrl config = some descriptor) :
    1 ≤ descriptor.model.length ∧ descriptor.model.length ≤ 200 := by
  obtain ⟨⟨-, -, -, -, hlower, hupper, -⟩, h⟩ := Option.ite_none_right_eq_some.mp h
  cases h
  exact ⟨hlower, hupper⟩

/-! ## What is thrown -/

inductive Thrown where
  | providerError (error : TranscriptionError) (telemetry : Option RequestTelemetry)
  | typeError
  | zodError
  deriving DecidableEq, Repr

def Thrown.isProviderError : Thrown → Bool
  | .providerError _ _ => true
  | _ => false

def thrown (error : RequestError) : Thrown :=
  .providerError ⟨error.code, error.disposition, error.message⟩ (some error.telemetry)

def contradictsPolicyError (transportAttemptCount : ℕ) : RequestError :=
  ⟨.invalidOutput, .review, "Transcription language contradicts the accepted language policy",
    ⟨.invalidOutput, none, transportAttemptCount, none⟩⟩

/-! ## The language -/

/-- `normalize("NFKC")` and `toLocaleLowerCase("en-US")`. -/
structure LanguagePlatform where
  normalizeNfkc : JsString → JsString
  toLocaleLowerCase : JsString → JsString

def languageNames : List (JsString × JsString) :=
  [(js "chinese", js "zh"), (js "czech", js "cs"), (js "danish", js "da"), (js "dutch", js "nl"),
    (js "english", js "en"), (js "finnish", js "fi"), (js "french", js "fr"),
    (js "german", js "de"), (js "italian", js "it"), (js "japanese", js "ja"),
    (js "korean", js "ko"), (js "norwegian", js "no"), (js "polish", js "pl"),
    (js "portuguese", js "pt"), (js "spanish", js "es"), (js "swedish", js "sv"),
    (js "turkish", js "tr"), (js "ukrainian", js "uk")]

/-- The properties of `Object.prototype`; none of them is a string. -/
def inheritedNames : List JsString :=
  [js "constructor", js "__defineGetter__", js "__defineSetter__", js "hasOwnProperty",
    js "__lookupGetter__", js "__lookupSetter__", js "isPrototypeOf", js "propertyIsEnumerable",
    js "toString", js "valueOf", js "__proto__", js "toLocaleString"]

/-- `/^[a-z]{2,3}$/u` -/
def isLanguageCode (value : JsString) : Bool :=
  2 ≤ value.length && value.length ≤ 3 && value.all isLowerLetter

inductive DetectedLanguage where
  | absent
  | code (language : JsString)
  /-- A value that the table inherits. -/
  | inherited (name : JsString)
  deriving DecidableEq, Repr

def normalizedLanguage (platform : LanguagePlatform) (value : JsString) : JsString :=
  platform.toLocaleLowerCase (trim (platform.normalizeNfkc value))

def normalizeDetectedLanguage (platform : LanguagePlatform) (value : JsString) :
    DetectedLanguage :=
  let normalized := normalizedLanguage platform value
  if isLanguageCode normalized then .code normalized
  else match languageNames.lookup normalized with
    | some language => .code language
    | none => if normalized ∈ inheritedNames then .inherited normalized else .absent

/-- `value.split("-")[0] ?? value` -/
def baseLanguage (value : JsString) : JsString := value.takeWhile fun c => c ≠ 0x2d

/-! ## The response and the result -/

/-- A language that is no string counts as absent. -/
structure TranscriptionResponse where
  text : JsString
  language : Option JsString
  deriving DecidableEq, Repr

def OpenRouterTranscriptionResponseSchema.parse : JsonValue → Option TranscriptionResponse
  | .obj fields =>
      match JsonValue.field? (js "text") fields with
      | some (.str text) =>
          some ⟨text, match JsonValue.field? (js "language") fields with
            | some (.str language) => some language
            | _ => none⟩
      | _ => none
  | _ => none

def TranscriptionResponse.detectedLanguage (platform : LanguagePlatform)
    (response : TranscriptionResponse) : DetectedLanguage :=
  match response.language with
  | some language => normalizeDetectedLanguage platform language
  | none => .absent

structure QuestionTranscriptionResult where
  questionId : JsString
  clipSha256 : JsString
  startMs : ℕ
  endMs : ℕ
  provider : JsString
  model : JsString
  language : JsString
  text : UntrustedData
  zeroDataRetention : ZeroDataRetention
  deriving DecidableEq, Repr

/-- `OpenRouterQuestionTranscriptionResultV1Schema` -/
def QuestionTranscriptionResultSchema.accepts (result : QuestionTranscriptionResult) : Bool :=
  isUuid result.questionId && Media.Sha256Schema.accepts result.clipSha256 &&
    result.startMs ≤ maxSafeInteger && 1 ≤ result.endMs && result.endMs ≤ maxSafeInteger &&
    result.provider == provider && 1 ≤ result.model.length && result.model.length ≤ 200 &&
    isLanguage result.language && UntrustedDataSchema.accepts .transcript result.text &&
    result.startMs < result.endMs

/-! ## The call -/

/-- The text is not empty, not too long, and has no NUL. -/
def IsTranscriptText (text : JsString) : Prop :=
  text ≠ [] ∧ utf8Bytes text ≤ maxTranscriptBytes ∧ 0 ∉ text

instance (text : JsString) : Decidable (IsTranscriptText text) :=
  inferInstanceAs (Decidable (_ ∧ _ ∧ _))

/-- The language of the result under the policy. A function or an object has no `split`, and is no
language of the result's schema. -/
def resultLanguage (transportAttemptCount : ℕ) :
    TranscriptionLanguagePolicy → DetectedLanguage → Except Thrown JsString
  | .fixed _, .inherited _ => .error .typeError
  | .detect, .inherited _ => .error .zodError
  | .fixed expected, .code language =>
      if baseLanguage language ≠ baseLanguage expected then
        .error (thrown (contradictsPolicyError transportAttemptCount))
      else .ok expected
  | .fixed expected, .absent => .ok expected
  | .detect, .code language => .ok language
  | .detect, .absent => .ok (js "und")

def questionResult (descriptor : Descriptor) (request : QuestionAudioTranscriptionRequest)
    (language text : JsString) : QuestionTranscriptionResult where
  questionId := request.questionId
  clipSha256 := request.clipSha256
  startMs := request.startMs
  endMs := request.endMs
  provider := provider
  model := descriptor.model
  language := language
  text := ⟨.transcript, text⟩
  zeroDataRetention := descriptor.zeroDataRetention

/-- What `transcribeQuestion` does with the response of the loop. -/
def acceptResponse (platform : LanguagePlatform) (descriptor : Descriptor)
    (request : QuestionAudioTranscriptionRequest) (response : TranscriptionPayload) :
    Except Thrown QuestionTranscriptionResult := do
  match OpenRouterTranscriptionResponseSchema.parse response.payload with
  | none => throw (thrown (invalidOutputError response.transportAttemptCount))
  | some parsed => do
      let text := trim parsed.text
      rejectIf (¬ IsTranscriptText text)
        (thrown (invalidOutputError response.transportAttemptCount))
      let language ← resultLanguage response.transportAttemptCount request.languagePolicy
        (parsed.detectedLanguage platform)
      let result := questionResult descriptor request language text
      rejectIf (QuestionTranscriptionResultSchema.accepts result = false) .zodError
      return result

def withoutTelemetry : Except TranscriptionError Unit → Except Thrown Unit
  | .ok () => .ok ()
  | .error error => .error (.providerError error none)

def deadlineAtMs (context : ProviderContext) : ℚ := ((context.deadlineAt.getD 0 : ℤ) : ℚ)

/-- What `transcribeQuestion` checks before the loop; `now` is the clock. -/
def checkCall (sha256 : Sha256) (now : ℚ) (request : QuestionAudioTranscriptionRequest)
    (context : ProviderContext) : Except Thrown Unit := do
  rejectIf (QuestionAudioTranscriptionRequestSchema.accepts request = false)
    (.providerError ⟨.invalidInput, .terminal,
      "Question audio failed its versioned transcription contract"⟩ none)
  rejectIf (ProviderContextV1Schema.accepts context = false ∨
      context.attemptId ≠ request.attemptId)
    (.providerError ⟨.invalidInput, .terminal,
      "Transcription context is not bound to the requested attempt"⟩ none)
  rejectIf (deadlineAtMs context ≤ now) (thrown (deadlineError none))
  withoutTelemetry (assertPcmWav request.audio (request.endMs - request.startMs))
  rejectIf (sha256Hex sha256 request.audio ≠ request.clipSha256)
    (.providerError ⟨.invalidInput, .terminal,
      "Question audio digest does not match its request binding"⟩ none)

/-- What surrounds a call beside its arguments: the reading of the clock before the loop, the
platform, the digest, the policy, and what the loop meets. -/
structure CallSurroundings where
  now : ℚ
  sha256 : Sha256
  languages : LanguagePlatform
  policy : ResolvedRequestPolicy
  requests : RequestSurroundings AttemptBehaviour

/-- What the loop hands over. -/
def CallSurroundings.response (surroundings : CallSurroundings) (context : ProviderContext) :
    RequestOutcome :=
  (requestTranscriptionWithRetry surroundings.requests
    ⟨deadlineAtMs context, surroundings.policy⟩).2

def transcribeQuestion (surroundings : CallSurroundings) (descriptor : Descriptor)
    (request : QuestionAudioTranscriptionRequest) (context : ProviderContext) :
    Except Thrown QuestionTranscriptionResult := do
  checkCall surroundings.sha256 surroundings.now request context
  match surroundings.response context with
  | .error error => throw (thrown error)
  | .ok response => acceptResponse surroundings.languages descriptor request response

/-! ## Totality -/

/-- A result that answers the request. -/
structure AnswersRequest (languages : LanguagePlatform)
    (request : QuestionAudioTranscriptionRequest) (response : TranscriptionResponse)
    (result : QuestionTranscriptionResult) : Prop where
  accepted : QuestionTranscriptionResultSchema.accepts result = true
  questionId : result.questionId = request.questionId
  clipSha256 : result.clipSha256 = request.clipSha256
  startMs : result.startMs = request.startMs
  endMs : result.endMs = request.endMs
  text : IsTranscriptText result.text.content
  fixed : ∀ language, request.languagePolicy = .fixed language → result.language = language
  detected : request.languagePolicy = .detect →
    (isLanguageCode result.language = true ∧
      response.detectedLanguage languages = .code result.language) ∨
    (result.language = js "und" ∧ response.detectedLanguage languages = .absent)

/-- The call resolves with an answer to the request, or rejects with a `ProviderError`. -/
def Settles (surroundings : CallSurroundings) (request : QuestionAudioTranscriptionRequest)
    (context : ProviderContext) : Except Thrown QuestionTranscriptionResult → Prop
  | .ok result => ∃ payload response, surroundings.response context = .ok payload ∧
      OpenRouterTranscriptionResponseSchema.parse payload.payload = some response ∧
      AnswersRequest surroundings.languages request response result
  | .error thrown => thrown.isProviderError = true

/-- A response with an acceptable text whose language is one of the inherited names. -/
def NamesInherited (languages : LanguagePlatform) (payload : JsonValue) : Prop :=
  ∃ response, OpenRouterTranscriptionResponseSchema.parse payload = some response ∧
    IsTranscriptText (trim response.text) ∧
    ∃ language ∈ response.language, normalizedLanguage languages language ∈ inheritedNames

section Language

variable {platform : LanguagePlatform}

theorem inheritedNames_plain : ∀ name ∈ inheritedNames,
    isLanguageCode name = false ∧ languageNames.lookup name = none := by
  decide

theorem languageNames_codes : ∀ entry ∈ languageNames, isLanguageCode entry.2 = true := by
  decide

theorem normalizeDetectedLanguage_inherited {value name : JsString} :
    normalizeDetectedLanguage platform value = .inherited name ↔
      normalizedLanguage platform value = name ∧ name ∈ inheritedNames := by
  unfold normalizeDetectedLanguage
  dsimp only
  constructor
  · intro h
    split at h
    · cases h
    · split at h
      · cases h
      · split at h
        · next hmem =>
          cases h
          exact ⟨rfl, hmem⟩
        · cases h
  · rintro ⟨rfl, hmem⟩
    obtain ⟨hcode, hlookup⟩ := inheritedNames_plain _ hmem
    rw [if_neg (by simp [hcode]), hlookup]
    exact if_pos hmem

theorem mem_of_lookup {value : JsString} {key : JsString} {entries : List (JsString × JsString)}
    (h : entries.lookup key = some value) : (key, value) ∈ entries := by
  obtain ⟨front, back, rfl, -⟩ := List.lookup_eq_some_iff.mp h
  exact List.mem_append_right front List.mem_cons_self

theorem normalizeDetectedLanguage_code {value language : JsString}
    (h : normalizeDetectedLanguage platform value = .code language) :
    isLanguageCode language = true := by
  unfold normalizeDetectedLanguage at h
  dsimp only at h
  split at h
  · next hcode =>
    cases h
    exact hcode
  · split at h
    · next hlookup =>
      cases h
      exact languageNames_codes _ (mem_of_lookup hlookup)
    · split at h <;> cases h

theorem isLanguage_of_isLanguageCode {value : JsString} (h : isLanguageCode value = true) :
    isLanguage value = true := by
  simp only [isLanguageCode, Bool.and_eq_true, decide_eq_true_eq] at h
  obtain ⟨⟨hlower, hupper⟩, hall⟩ := h
  have htake : value.takeWhile isLowerLetter = value :=
    List.takeWhile_eq_self_iff.mpr (List.all_eq_true.mp hall)
  simp [isLanguage, htake, hlower, hupper]

end Language

theorem length_le_of_isTranscriptText {text : JsString} (h : IsTranscriptText text) :
    text.length ≤ 100000 :=
  (length_le_utf8Bytes text).trans h.2.1

/-- The result of an accepted request is accepted with an acceptable text and any language of the
pattern. -/
theorem questionResult_accepted {descriptor : Descriptor}
    (hdescriptor : 1 ≤ descriptor.model.length ∧ descriptor.model.length ≤ 200)
    {request : QuestionAudioTranscriptionRequest}
    (hrequest : QuestionAudioTranscriptionRequestSchema.accepts request = true)
    {language text : JsString} (hlanguage : isLanguage language = true)
    (htext : IsTranscriptText text) :
    QuestionTranscriptionResultSchema.accepts (questionResult descriptor request language text) =
      true := by
  obtain ⟨-, -, -, hquestion, -, hclip, hstart, hpos, hend, -, hlt, -, -⟩ :=
    QuestionAudioTranscriptionRequestSchema.accepts_iff.mp hrequest
  have hsafe : maxClipDurationMs ≤ maxSafeInteger := by decide
  have hcontent : UntrustedDataSchema.accepts .transcript ⟨.transcript, text⟩ = true := by
    simpa [UntrustedDataSchema.accepts] using length_le_of_isTranscriptText htext
  simp only [QuestionTranscriptionResultSchema.accepts, Bool.and_eq_true, decide_eq_true_eq,
    beq_iff_eq, and_assoc]
  dsimp only [questionResult]
  exact ⟨hquestion, hclip, by omega, hpos, by omega, rfl, hdescriptor.1, hdescriptor.2, hlanguage,
    hcontent, hlt⟩

/-! ## The languages of a result -/

inductive ResultLanguage (count : ℕ) (policy : TranscriptionLanguagePolicy)
    (detected : DetectedLanguage) : Except Thrown JsString → Prop
  | inherited {name} (hdetected : detected = .inherited name) {thrown}
      (hthrown : Thrown.isProviderError thrown = false) :
      ResultLanguage count policy detected (.error thrown)
  | rejected {thrown} (hdetected : ∀ name, detected ≠ .inherited name)
      (hthrown : Thrown.isProviderError thrown = true) :
      ResultLanguage count policy detected (.error thrown)
  | fixed {language} (hpolicy : policy = .fixed language)
      (hdetected : ∀ name, detected ≠ .inherited name) :
      ResultLanguage count policy detected (.ok language)
  | code {language} (hpolicy : policy = .detect) (hdetected : detected = .code language) :
      ResultLanguage count policy detected (.ok language)
  | absent (hpolicy : policy = .detect) (hdetected : detected = .absent) :
      ResultLanguage count policy detected (.ok (js "und"))

theorem resultLanguage_cases (count : ℕ) (policy : TranscriptionLanguagePolicy)
    (detected : DetectedLanguage) :
    ResultLanguage count policy detected (resultLanguage count policy detected) := by
  cases policy with
  | detect =>
      cases detected with
      | absent => exact .absent rfl rfl
      | code language => exact .code rfl rfl
      | inherited name => exact .inherited rfl rfl
  | fixed expected =>
      cases detected with
      | absent => exact .fixed rfl nofun
      | code language =>
          rw [resultLanguage]
          split
          · exact .rejected nofun rfl
          · exact .fixed rfl nofun
      | inherited name => exact .inherited rfl rfl

/-! ## The calls that settle -/

section Calls

variable {surroundings : CallSurroundings} {descriptor : Descriptor}
  {request : QuestionAudioTranscriptionRequest} {context : ProviderContext}

/-- What is thrown before the loop is a `ProviderError`. -/
theorem isProviderError_of_checkCall {sha256 : Sha256} {now : ℚ} {thrown : Thrown}
    (h : checkCall sha256 now request context = .error thrown) :
    thrown.isProviderError = true := by
  unfold checkCall at h
  simp only [bind_eq_error, rejectIf_eq_error, rejectIf_eq_ok] at h
  obtain ⟨-, rfl⟩ | ⟨-, -, ⟨-, rfl⟩ | ⟨-, -, ⟨-, rfl⟩ | ⟨-, -, h | ⟨-, -, -, rfl⟩⟩⟩⟩ := h
  · rfl
  · rfl
  · rfl
  · unfold withoutTelemetry at h
    split at h
    · cases h
    · cases h
      rfl
  · rfl

theorem namesInherited_iff {languages : LanguagePlatform} {payload : JsonValue}
    {response : TranscriptionResponse}
    (hparse : OpenRouterTranscriptionResponseSchema.parse payload = some response)
    (htext : IsTranscriptText (trim response.text)) :
    NamesInherited languages payload ↔
      ∃ name, response.detectedLanguage languages = .inherited name := by
  unfold TranscriptionResponse.detectedLanguage
  constructor
  · rintro ⟨response', hresponse, -, language, hlanguage, hmem⟩
    rw [hparse] at hresponse
    cases hresponse
    rw [Option.mem_def.mp hlanguage]
    exact ⟨_, normalizeDetectedLanguage_inherited.mpr ⟨rfl, hmem⟩⟩
  · rintro ⟨name, hname⟩
    split at hname
    · next language hlanguage =>
      obtain ⟨rfl, hmem⟩ := normalizeDetectedLanguage_inherited.mp hname
      exact ⟨response, hparse, htext, language, hlanguage, hmem⟩
    · cases hname

theorem code_of_detectedLanguage {languages : LanguagePlatform} {response : TranscriptionResponse}
    {language : JsString} (h : response.detectedLanguage languages = .code language) :
    isLanguageCode language = true := by
  unfold TranscriptionResponse.detectedLanguage at h
  split at h
  · exact normalizeDetectedLanguage_code h
  · cases h

/-- What is made of a response answers the request or is a `ProviderError`, unless the response
names an inherited property. -/
theorem acceptResponse_settles_iff (hdescriptor : 1 ≤ descriptor.model.length ∧
      descriptor.model.length ≤ 200)
    (hrequest : QuestionAudioTranscriptionRequestSchema.accepts request = true)
    {payload : TranscriptionPayload} (hpayload : surroundings.response context = .ok payload) :
    Settles surroundings request context
        (acceptResponse surroundings.languages descriptor request payload) ↔
      ¬ NamesInherited surroundings.languages payload.payload := by
  unfold acceptResponse
  cases hparse : OpenRouterTranscriptionResponseSchema.parse payload.payload with
  | none =>
      refine iff_of_true rfl ?_
      rintro ⟨response, hresponse, -⟩
      rw [hparse] at hresponse
      cases hresponse
  | some response =>
      dsimp only
      by_cases htext : IsTranscriptText (trim response.text)
      · have hinherits : NamesInherited surroundings.languages payload.payload ↔
            ∃ name, response.detectedLanguage surroundings.languages = .inherited name :=
          namesInherited_iff hparse htext
        rw [rejectIf_of_not (not_not_intro htext), hinherits, except_ok_bind]
        have hcases := resultLanguage_cases payload.transportAttemptCount request.languagePolicy
          (response.detectedLanguage surroundings.languages)
        generalize resultLanguage payload.transportAttemptCount request.languagePolicy
          (response.detectedLanguage surroundings.languages) = language at hcases ⊢
        have hanswer {language : JsString} (hlanguage : isLanguage language = true)
            (hfixed : ∀ fixed, request.languagePolicy = .fixed fixed → language = fixed)
            (hdetected : request.languagePolicy = .detect →
              (isLanguageCode language = true ∧
                response.detectedLanguage surroundings.languages = .code language) ∨
              (language = js "und" ∧
                response.detectedLanguage surroundings.languages = .absent)) :
            Settles surroundings request context (do
              let result := questionResult descriptor request language (trim response.text)
              rejectIf (QuestionTranscriptionResultSchema.accepts result = false) .zodError
              return result) := by
          have haccepted := questionResult_accepted hdescriptor hrequest hlanguage htext
          dsimp only
          rw [rejectIf_of_not (by simp [haccepted])]
          exact ⟨payload, response, hpayload, hparse, haccepted, rfl, rfl, rfl, rfl, htext, hfixed,
            hdetected⟩
        cases hcases with
        | inherited hdetected hthrown =>
            refine iff_of_false ?_ (not_not_intro ⟨_, hdetected⟩)
            rw [except_error_bind, Settles, hthrown]
            exact Bool.false_ne_true
        | rejected hdetected hthrown =>
            exact iff_of_true hthrown fun ⟨name, hname⟩ => hdetected name hname
        | fixed hpolicy hdetected =>
            obtain ⟨-, -, -, -, -, -, -, -, -, hfixed, -⟩ :=
              QuestionAudioTranscriptionRequestSchema.accepts_iff.mp hrequest
            rw [hpolicy] at hfixed
            refine iff_of_true (hanswer hfixed (fun fixed h => ?_) fun h => ?_)
              fun ⟨name, hname⟩ => hdetected name hname
            · rw [hpolicy] at h
              cases h
              rfl
            · rw [hpolicy] at h
              cases h
        | code hpolicy hdetected =>
            have hcode := code_of_detectedLanguage hdetected
            refine iff_of_true (hanswer (isLanguage_of_isLanguageCode hcode) (fun fixed h => ?_)
              fun _ => .inl ⟨hcode, hdetected⟩) fun ⟨name, hname⟩ => ?_
            · rw [hpolicy] at h
              cases h
            · rw [hdetected] at hname
              cases hname
        | absent hpolicy hdetected =>
            refine iff_of_true (hanswer (by decide) (fun fixed h => ?_)
              fun _ => .inr ⟨rfl, hdetected⟩) fun ⟨name, hname⟩ => ?_
            · rw [hpolicy] at h
              cases h
            · rw [hdetected] at hname
              cases hname
      · rw [rejectIf_of htext]
        refine iff_of_true rfl ?_
        rintro ⟨response', hresponse, htext', -⟩
        rw [hparse] at hresponse
        cases hresponse
        exact htext htext'

/-- A call settles unless it passes its checks and the response that the loop hands over has an
acceptable text and names an inherited property as its language. -/
theorem transcribeQuestion_settles_iff {isSafeProviderBaseUrl : JsString → Bool}
    {config : ProviderConfig}
    (hdescriptor : ProviderConfigSchema.descriptor isSafeProviderBaseUrl config = some descriptor) :
    Settles surroundings request context
        (transcribeQuestion surroundings descriptor request context) ↔
      ¬ (checkCall surroundings.sha256 surroundings.now request context = .ok () ∧
        ∃ payload, surroundings.response context = .ok payload ∧
          NamesInherited surroundings.languages payload.payload) := by
  unfold transcribeQuestion
  cases hcheck : checkCall surroundings.sha256 surroundings.now request context with
  | error thrown =>
      refine iff_of_true (isProviderError_of_checkCall hcheck) ?_
      rintro ⟨hok, -⟩
      cases hok
  | ok checked =>
      have hrequest : QuestionAudioTranscriptionRequestSchema.accepts request = true := by
        have haccepted := (rejectIf_bind_eq_ok.mp hcheck).1
        simpa using haccepted
      rw [except_ok_bind]
      cases hresponse : surroundings.response context with
      | error error =>
          refine iff_of_true rfl ?_
          rintro ⟨-, payload, hpayload, -⟩
          cases hpayload
      | ok payload =>
          have hiff := acceptResponse_settles_iff
            (ProviderConfigSchema.model_bounds hdescriptor) hrequest hresponse
          refine hiff.trans (not_congr ⟨fun h => ⟨rfl, payload, rfl, h⟩, ?_⟩)
          rintro ⟨-, payload', hpayload, h⟩
          cases hpayload
          exact h

end Calls

/-! A clip without samples, whose transcription names the constructor of an object. -/

/-- The digest of the clip. -/
def clipDigest : Sha256 where
  digest _ :=
    [186, 88, 74, 55, 139, 17, 217, 233, 201, 135, 54, 253, 140, 37, 111, 225,
      69, 58, 132, 238, 65, 57, 65, 109, 36, 176, 122, 207, 244, 36, 240, 251]
  length_digest _ := rfl

def emptyClip : Bytes :=
  [82, 73, 70, 70, 36, 0, 0, 0, 87, 65, 86, 69, 102, 109, 116, 32, 16, 0, 0, 0, 1, 0, 1, 0,
    128, 62, 0, 0, 0, 125, 0, 0, 2, 0, 16, 0, 100, 97, 116, 97, 0, 0, 0, 0]

def clipRequest (languagePolicy : TranscriptionLanguagePolicy) :
    QuestionAudioTranscriptionRequest where
  schemaVersion := js "1"
  requestVersion := js "question-audio-transcription-v1"
  attemptId := js "30000000-0000-4000-8000-000000000002"
  questionId := js "30000000-0000-4000-8000-000000000001"
  sourceSha256 := List.replicate 64 0x61
  clipSha256 := sha256Hex clipDigest emptyClip
  startMs := 0
  endMs := 1
  languagePolicy := languagePolicy
  audio := emptyClip

def clipContext : ProviderContext where
  requestId := js "30000000-0000-4000-8000-000000000003"
  attemptId := js "30000000-0000-4000-8000-000000000002"
  deadlineAt := some 1000

def clipConfig : ProviderConfig where
  baseUrl := js "https://openrouter.example/api/v1"
  apiKey := js "0123456789abcdef"
  model := js "model"
  zeroDataRetention := .notVerified

def clipDescriptor : Descriptor := ⟨js "model", .notVerified⟩

theorem clipConfig_descriptor :
    ProviderConfigSchema.descriptor (fun _ => true) clipConfig = some clipDescriptor := by
  decide

theorem clipAttempts_bounds : 1 ≤ 3 ∧ 3 ≤ maxHttpAttempts := by decide

theorem clipTimeout_bounds : 0 < 30000 ∧ 30000 ≤ 120000 := by decide

theorem clipBytes_bounds : 0 < 256 * 1024 ∧ 256 * 1024 ≤ 1024 * 1024 := by decide

/-- A provider that answers with this body. -/
def answering (body : JsString) : CallSurroundings where
  now := 0
  sha256 := clipDigest
  languages := ⟨id, id⟩
  policy := ⟨3, 30000, 256 * 1024, clipAttempts_bounds, clipTimeout_bounds, clipBytes_bounds⟩
  requests :=
    { clock := fun _ => 0
      random := fun _ => some 0
      behaviour := fun _ =>
        ⟨.silent, .response ⟨none, some [body.map fun c => UInt8.ofNat c.toNat]⟩ false⟩
      platform := ⟨fun _ => none, fun _ => none⟩
      jsonParse := JsonGrammar.parse fun _ => none }

def constructorBody : JsString := js "\x7b\"text\":\"Hi\",\"language\":\"constructor\"\x7d"

/-- What a call rejects with. -/
def rejection (outcome : Except Thrown QuestionTranscriptionResult) : Option Thrown :=
  match outcome with
  | .error thrown => some thrown
  | .ok _ => none

theorem transcribeQuestion_settles_sample :
    Settles (answering constructorBody) (clipRequest .detect) clipContext
        (transcribeQuestion (answering constructorBody) clipDescriptor (clipRequest .detect)
          clipContext) ↔
      ¬ (checkCall clipDigest 0 (clipRequest .detect) clipContext = .ok () ∧
        ∃ payload, (answering constructorBody).response clipContext = .ok payload ∧
          NamesInherited ⟨id, id⟩ payload.payload) :=
  transcribeQuestion_settles_iff clipConfig_descriptor

theorem constructorBody_rejections :
    rejection (transcribeQuestion (answering constructorBody) clipDescriptor (clipRequest .detect)
      clipContext) = some .zodError ∧
    rejection (transcribeQuestion (answering constructorBody) clipDescriptor
      (clipRequest (.fixed (js "en"))) clipContext) = some .typeError := by
  decide +kernel

theorem not_settles_of_rejection {surroundings : CallSurroundings}
    {request : QuestionAudioTranscriptionRequest} {context : ProviderContext}
    {outcome : Except Thrown QuestionTranscriptionResult} {thrown : Thrown}
    (h : rejection outcome = some thrown) (hthrown : thrown.isProviderError = false) :
    ¬ Settles surroundings request context outcome := by
  cases outcome with
  | ok result => cases h
  | error error =>
      cases h
      rw [Settles, hthrown]
      exact Bool.false_ne_true

/-- An accepted configuration, request and context do not make every call settle. -/
theorem not_every_transcription_settles :
    ProviderConfigSchema.descriptor (fun _ => true) clipConfig = some clipDescriptor ∧
    ProviderContextV1Schema.accepts clipContext = true ∧
    (QuestionAudioTranscriptionRequestSchema.accepts (clipRequest .detect) = true ∧
      ¬ Settles (answering constructorBody) (clipRequest .detect) clipContext
        (transcribeQuestion (answering constructorBody) clipDescriptor (clipRequest .detect)
          clipContext)) ∧
    QuestionAudioTranscriptionRequestSchema.accepts (clipRequest (.fixed (js "en"))) = true ∧
      ¬ Settles (answering constructorBody) (clipRequest (.fixed (js "en"))) clipContext
        (transcribeQuestion (answering constructorBody) clipDescriptor
          (clipRequest (.fixed (js "en"))) clipContext) :=
  ⟨clipConfig_descriptor, by decide,
    ⟨by decide, not_settles_of_rejection constructorBody_rejections.1 rfl⟩,
    by decide, not_settles_of_rejection constructorBody_rejections.2 rfl⟩

end OpenRouterTranscription

end Providers

end UnderstandProof
