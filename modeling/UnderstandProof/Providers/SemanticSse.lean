import UnderstandProof.Providers.SseResponse

/-!
# The semantic provider's stream reader

The semantic provider has its own copy of the reader of a streamed completion, with
its own schema of a chunk: the reasoning of a delta is not read, and a null usage is
a usage. What the copy does is what the judge's reader does when every chunk is
first written in the judge's form.
-/

open Foundation Foundation.JsString

namespace UnderstandProof

namespace Providers

namespace HetznerSemantic

def maxModelContentBytes : ℕ := 512 * 1024
def maxSseEventBytes : ℕ := 256 * 1024
def maxSseEventCount : ℕ := 20000

/-! ## The schema of a chunk -/

structure StreamDelta where
  content : Option JsString
  deriving DecidableEq, Repr

structure StreamChoice where
  delta : StreamDelta
  finishReason : Option JsString
  deriving DecidableEq, Repr

/-- The usage is absent only when the chunk has no such field. -/
structure OpenAiStreamChunk where
  choices : List StreamChoice
  usage : Option JsonValue

def OpenAiStreamChunkSchema.choice : JsonValue → Option StreamChoice
  | .obj fields => do
      let finishReason ← JsonValue.nullableString (JsonValue.field? (js "finish_reason") fields)
      match JsonValue.field? (js "delta") fields with
      | some (.obj delta) => do
          let content ← JsonValue.nullableString (JsonValue.field? (js "content") delta)
          return ⟨⟨content⟩, finishReason⟩
      | _ => none
  | _ => none

def OpenAiStreamChunkSchema.parse : JsonValue → Option OpenAiStreamChunk
  | .obj fields =>
      match JsonValue.field? (js "choices") fields with
      | some (.arr items) =>
          if items.length ≤ 8 then
            (items.mapM OpenAiStreamChunkSchema.choice).map fun choices =>
              ⟨choices, JsonValue.field? (js "usage") fields⟩
          else none
      | _ => none
  | _ => none

/-! ## Lines and events -/

def acceptContent (state : SseState) :
    Option JsString → Except SafeProtocolErrorKind SseState
  | none => .ok state
  | some text => do
      let deltaBytes := utf8Bytes text
      rejectIf (maxModelContentBytes < state.contentBytes + deltaBytes) .responseTooLarge
      return { state with
        content := state.content ++ text
        contentBytes := state.contentBytes + deltaBytes }

def OpenAiStreamChunk.content (chunk : OpenAiStreamChunk) : Option JsString :=
  chunk.choices.head?.bind fun choice => choice.delta.content

def OpenAiStreamChunk.finishReason (chunk : OpenAiStreamChunk) : Option JsString :=
  chunk.choices.head?.bind fun choice => choice.finishReason

/-- Whether the chunk carries something that counts as progress. -/
def OpenAiStreamChunk.progressed (chunk : OpenAiStreamChunk) : Bool :=
  (chunk.content.any fun text => 0 < text.length) ||
    chunk.finishReason.isSome || chunk.usage.isSome

/-- The finish reason and the usage are accepted as in the judge's reader. -/
def acceptChunk (state : SseState) (chunk : OpenAiStreamChunk) :
    Except SafeProtocolErrorKind SseState := do
  let state ← acceptContent state chunk.content
  let state ← state.acceptFinishReason chunk.finishReason
  let state ← state.acceptUsage chunk.usage
  return { state with progress := state.progress + if chunk.progressed then 1 else 0 }

section Reader

variable (jsonParse : JsString → Option JsonValue)

def parseEvent (data : JsString) : Option OpenAiStreamChunk :=
  (jsonParse (dropBom data)).bind OpenAiStreamChunkSchema.parse

def commitEvent (state : SseState) : Except SafeProtocolErrorKind SseState :=
  if state.eventData = [] then .ok state
  else
    let data := joinLines state.eventData
    have state := { state with eventData := [], eventBytes := 0 }
    if data = js "[DONE]" then .ok { state with doneSeen := true }
    else do
      rejectIf (state.doneSeen = true) .malformedResponse
      let state := { state with eventCount := state.eventCount + 1 }
      rejectIf (maxSseEventCount < state.eventCount) .malformedResponse
      match parseEvent jsonParse data with
      | none => throw .malformedResponse
      | some chunk => acceptChunk state chunk

def acceptLine (state : SseState) (rawLine : JsString) :
    Except SafeProtocolErrorKind SseState :=
  let line := stripReturn rawLine
  if line.length = 0 then commitEvent jsonParse state
  else match dataValue line with
    | none => .ok state
    | some value => do
        let valueBytes := utf8Bytes value
        rejectIf (maxSseEventBytes < state.eventBytes + valueBytes) .responseTooLarge
        return { state with
          eventData := state.eventData ++ [value]
          eventBytes := state.eventBytes + valueBytes }

/-! ## Chunks -/

def acceptText (reader : SseReader) (value : JsString) :
    Except SafeProtocolErrorKind SseReader := do
  let drained := (lineReader (acceptLine jsonParse)).drain reader.state (reader.pending ++ value)
  drained.outcome
  rejectIf (maxSseEventBytes < utf8Bytes drained.rest) .responseTooLarge
  return { reader with pending := drained.rest, state := drained.state }

def readChunk (maximumBytes : ℕ) (reader : SseReader) (value : List UInt8) :
    Except SafeProtocolErrorKind SseReader := do
  let bytesRead := reader.bytesRead + value.length
  rejectIf (maximumBytes < bytesRead) .responseTooLarge
  match reader.decoder.decode value with
  | none => throw .responseStream
  | some decoded =>
      acceptText jsonParse { reader with bytesRead := bytesRead, decoder := decoded.1 } decoded.2

/-- After the last chunk. -/
def finishState (state : SseState) (pending : JsString) :
    Except SafeProtocolErrorKind SseResult := do
  let state ← if pending.length = 0 then .ok state else acceptLine jsonParse state pending
  let state ← commitEvent jsonParse state
  match state.doneSeen, state.finishReason with
  | true, some finishReason =>
      return ⟨if state.content.length = 0 then none else some state.content, finishReason,
        state.usage⟩
  | _, _ => throw .malformedResponse

def finish (reader : SseReader) : Except SafeProtocolErrorKind SseResult :=
  match reader.decoder.flush with
  | none => .error .responseStream
  | some text => do
      let reader ← acceptText jsonParse reader text
      finishState jsonParse reader.state reader.pending

def readSseBody (maximumBytes : ℕ) (chunks : List (List UInt8)) :
    Except SafeProtocolErrorKind SseResult := do
  let reader ← chunks.foldlM (readChunk jsonParse maximumBytes) SseReader.start
  finish jsonParse reader

def readBoundedSseResponse (maximumBytes : ℕ) (response : StreamResponse) :
    Except SafeProtocolErrorKind SseResult := do
  let contentType := response.contentType.map fun value =>
    asciiLower (trim (value.takeWhile (· != 0x3b)))
  rejectIf (contentType ≠ some (js "text/event-stream")) .malformedResponse
  rejectIf (response.declaredLength.any fun length => (maximumBytes : ℚ) < length)
    .responseTooLarge
  match response.body with
  | none => throw .malformedResponse
  | some chunks => readSseBody jsonParse maximumBytes chunks

end Reader

/-! ## Chunks in the judge's form -/

def nullable : Option JsString → JsonValue
  | none => .null
  | some s => .str s

def StreamChoice.toJudge (choice : StreamChoice) : JsonValue :=
  .obj [(js "delta", .obj [(js "content", nullable choice.delta.content)]),
    (js "finish_reason", nullable choice.finishReason)]

/-- A null usage is written as a usage that no schema accepts. -/
def usageToJudge : JsonValue → JsonValue
  | .null => .bool false
  | usage => usage

def OpenAiStreamChunk.toJudge (chunk : OpenAiStreamChunk) : JsonValue :=
  .obj ((js "choices", .arr (chunk.choices.map StreamChoice.toJudge)) ::
    (chunk.usage.map fun usage => (js "usage", usageToJudge usage)).toList)

/-- `JSON.parse`, with every chunk of the semantic schema in the judge's form. -/
def judgeParse (jsonParse : JsString → Option JsonValue) (data : JsString) : Option JsonValue :=
  (jsonParse data).bind fun value =>
    (OpenAiStreamChunkSchema.parse value).map OpenAiStreamChunk.toJudge

/-- The judge's reading of the chunk. -/
def OpenAiStreamChunk.judged (chunk : OpenAiStreamChunk) : Providers.OpenAiStreamChunk :=
  ⟨chunk.choices.map fun choice => ⟨⟨choice.delta.content, none⟩, choice.finishReason⟩,
    chunk.usage.map usageToJudge⟩

theorem nullableString_nullable (s : Option JsString) :
    JsonValue.nullableString (some (nullable s)) = some s := by
  cases s <;> rfl

theorem nullableString_none : JsonValue.nullableString none = some none := rfl

theorem choice_toJudge (choice : StreamChoice) :
    Providers.OpenAiStreamChunkSchema.choice choice.toJudge =
      some ⟨⟨choice.delta.content, none⟩, choice.finishReason⟩ := by
  have hreason : (js "finish_reason" == js "delta") = false := by decide
  have hcontent : (js "reasoning" == js "content") = false := by decide
  simp [StreamChoice.toJudge, Providers.OpenAiStreamChunkSchema.choice, JsonValue.field?,
    List.lookup_cons, List.lookup_nil, hreason, hcontent, nullableString_nullable, nullableString_none]

theorem mapM_choice_toJudge (choices : List StreamChoice) :
    (choices.map StreamChoice.toJudge).mapM Providers.OpenAiStreamChunkSchema.choice =
      some (choices.map fun choice => ⟨⟨choice.delta.content, none⟩, choice.finishReason⟩) := by
  induction choices with
  | nil => rfl
  | cons choice choices ih =>
      rw [List.map_cons, List.mapM_cons, choice_toJudge, ih]
      rfl

theorem usageToJudge_ne_null (usage : JsonValue) : usageToJudge usage ≠ .null := by
  cases usage <;> exact JsonValue.noConfusion

theorem usage_toJudge (chunk : OpenAiStreamChunk) :
    Providers.OpenAiStreamChunkSchema.usage ((js "choices", .arr (chunk.choices.map
      StreamChoice.toJudge)) :: (chunk.usage.map fun usage =>
        (js "usage", usageToJudge usage)).toList) = chunk.usage.map usageToJudge := by
  have hname : (js "usage" == js "choices") = false := by decide
  cases husage : chunk.usage with
  | none => simp [Providers.OpenAiStreamChunkSchema.usage, JsonValue.field?, List.lookup_cons, hname]
  | some usage =>
      have hne := usageToJudge_ne_null usage
      simp only [Providers.OpenAiStreamChunkSchema.usage, JsonValue.field?, List.lookup_cons, hname,
        Option.map_some, Option.toList_some, beq_self_eq_true]
      split
      · next heq => exact absurd (Option.some.inj heq) hne
      · rfl

theorem parse_toJudge {chunk : OpenAiStreamChunk} (h : chunk.choices.length ≤ 8) :
    Providers.OpenAiStreamChunkSchema.parse chunk.toJudge = some chunk.judged := by
  have hchoices : JsonValue.field? (js "choices") ((js "choices", .arr (chunk.choices.map
      StreamChoice.toJudge)) :: (chunk.usage.map fun usage =>
        (js "usage", usageToJudge usage)).toList) =
      some (.arr (chunk.choices.map StreamChoice.toJudge)) := by
    simp [JsonValue.field?]
  rw [OpenAiStreamChunk.toJudge, Providers.OpenAiStreamChunkSchema.parse, hchoices]
  dsimp only
  rw [if_pos (by rwa [List.length_map]), mapM_choice_toJudge, usage_toJudge]
  rfl

theorem mapM_length {α β : Type} {f : α → Option β} {l : List α} {l' : List β}
    (h : l.mapM f = some l') : l'.length = l.length := by
  induction l generalizing l' with
  | nil =>
      cases h
      rfl
  | cons a l ih =>
      rw [List.mapM_cons] at h
      obtain ⟨b, -, h⟩ := Option.bind_eq_some_iff.mp h
      obtain ⟨bs, hbs, h⟩ := Option.bind_eq_some_iff.mp h
      cases h
      rw [List.length_cons, List.length_cons, ih hbs]

theorem choices_length_le {value : JsonValue} {chunk : OpenAiStreamChunk}
    (h : OpenAiStreamChunkSchema.parse value = some chunk) : chunk.choices.length ≤ 8 := by
  cases value with
  | obj fields =>
      rw [OpenAiStreamChunkSchema.parse] at h
      split at h
      · next items _ =>
          obtain ⟨hlength, h⟩ := Option.ite_none_right_eq_some.mp h
          obtain ⟨choices, hchoices, rfl⟩ := Option.map_eq_some_iff.mp h
          rw [mapM_length hchoices]
          exact hlength
      · cases h
  | _ => cases h

/-- The judge's reader sees the chunks of the semantic schema. -/
theorem parseEvent_judgeParse (jsonParse : JsString → Option JsonValue) (data : JsString) :
    Providers.parseEvent (judgeParse jsonParse) data =
      (parseEvent jsonParse data).map OpenAiStreamChunk.judged := by
  rw [Providers.parseEvent, parseEvent, judgeParse]
  cases jsonParse (dropBom data) with
  | none => rfl
  | some value =>
      dsimp only [Option.bind_some]
      cases hchunk : OpenAiStreamChunkSchema.parse value with
      | none => rfl
      | some chunk =>
          rw [Option.map_some, Option.bind_some, Option.map_some]
          exact parse_toJudge (choices_length_le hchunk)

/-! ## The two readers -/

theorem acceptContent_eq (state : SseState) (text : Option JsString) :
    acceptContent state text = state.acceptContent text := by
  cases text <;> rfl

theorem acceptUsage_toJudge (state : SseState) (usage : Option JsonValue) :
    state.acceptUsage (usage.map usageToJudge) = state.acceptUsage usage := by
  rcases usage with - | usage
  · rfl
  · cases usage <;> rfl

theorem content_judged (chunk : OpenAiStreamChunk) : chunk.judged.content = chunk.content := by
  obtain ⟨choices, usage⟩ := chunk
  cases choices <;> rfl

theorem reasoning_judged (chunk : OpenAiStreamChunk) : chunk.judged.reasoning = none := by
  obtain ⟨choices, usage⟩ := chunk
  cases choices <;> rfl

theorem finishReason_judged (chunk : OpenAiStreamChunk) :
    chunk.judged.finishReason = chunk.finishReason := by
  obtain ⟨choices, usage⟩ := chunk
  cases choices <;> rfl

theorem usage_judged (chunk : OpenAiStreamChunk) :
    chunk.judged.usage = chunk.usage.map usageToJudge := rfl

theorem progressed_judged (chunk : OpenAiStreamChunk) :
    chunk.judged.progressed = chunk.progressed := by
  rw [Providers.OpenAiStreamChunk.progressed, OpenAiStreamChunk.progressed, content_judged,
    reasoning_judged, finishReason_judged, usage_judged, Option.any_none, Bool.or_false,
    Option.isSome_map]

theorem acceptChunk_eq (state : SseState) (chunk : OpenAiStreamChunk) :
    acceptChunk state chunk = state.acceptChunk chunk.judged := by
  rw [acceptChunk, SseState.acceptChunk, content_judged, finishReason_judged, usage_judged,
    progressed_judged, acceptContent_eq]
  simp only [acceptUsage_toJudge]

variable (jsonParse : JsString → Option JsonValue)

theorem commitEvent_eq (state : SseState) :
    commitEvent jsonParse state = Providers.commitEvent (judgeParse jsonParse) state := by
  rw [commitEvent, Providers.commitEvent]
  simp only [parseEvent_judgeParse]
  cases parseEvent jsonParse (joinLines state.eventData) with
  | none => rfl
  | some chunk =>
      simp only [Option.map_some, acceptChunk_eq]
      rfl

theorem acceptLine_eq : acceptLine jsonParse = Providers.acceptLine (judgeParse jsonParse) := by
  funext state rawLine
  rw [acceptLine, Providers.acceptLine, commitEvent_eq]
  rfl

theorem readChunk_eq (maximumBytes : ℕ) :
    readChunk jsonParse maximumBytes =
      SseReader.readChunk (judgeParse jsonParse) maximumBytes := by
  funext reader value
  simp only [readChunk, SseReader.readChunk, acceptText, SseReader.acceptText, acceptLine_eq]
  rfl

theorem finish_eq (reader : SseReader) :
    finish jsonParse reader = reader.finish (judgeParse jsonParse) := by
  simp only [finish, SseReader.finish, acceptText, SseReader.acceptText, finishState,
    SseState.finish, acceptLine_eq, commitEvent_eq]
  rfl

/-- The semantic reader does what the judge's reader does with the chunks in the
judge's form. -/
theorem readBoundedSseResponse_eq (maximumBytes : ℕ) (response : StreamResponse) :
    readBoundedSseResponse jsonParse maximumBytes response =
      Providers.readBoundedSseResponse (judgeParse jsonParse) maximumBytes response := by
  rw [readBoundedSseResponse, Providers.readBoundedSseResponse]
  cases response.body with
  | none => rfl
  | some chunks =>
      simp only [readSseBody, Providers.readSseBody, readChunk_eq, finish_eq]

end HetznerSemantic

end Providers

end UnderstandProof
