import UnderstandProof.Foundation.Except
import UnderstandProof.Foundation.JsonValue
import UnderstandProof.Foundation.LineReader
import UnderstandProof.Foundation.Utf8

/-!
# Reading the judge's event stream

The bounded reader of a streamed completion: chunks of bytes are decoded, cut into
lines, the data lines of an event are collected, and every event but the closing
one is a JSON chunk whose first choice carries a piece of the content. `JSON.parse`
is a parameter.
-/

open Foundation Foundation.JsString

namespace UnderstandProof

namespace Providers

def maxModelTextBytes : ℕ := 512 * 1024
def maxSseEventBytes : ℕ := 256 * 1024
def maxSseEventCount : ℕ := 20000

/-- The kind of a `SafeProtocolError`. -/
inductive SafeProtocolErrorKind where
  | malformedResponse
  | responseStream
  | responseTooLarge
  deriving DecidableEq, Repr

structure TokenUsage where
  inputTokens : ℕ
  outputTokens : ℕ
  deriving DecidableEq, Repr

/-! ## The schema of a chunk -/

/-- The first `none` of a field is an absent value or a null. -/
structure StreamDelta where
  content : Option JsString
  reasoning : Option JsString
  deriving DecidableEq, Repr

structure StreamChoice where
  delta : StreamDelta
  finishReason : Option JsString
  deriving DecidableEq, Repr

structure OpenAiStreamChunk where
  choices : List StreamChoice
  usage : Option JsonValue

def OpenAiStreamChunkSchema.choice : JsonValue → Option StreamChoice
  | .obj fields => do
      let finishReason ← JsonValue.nullableString (JsonValue.field? (js "finish_reason") fields)
      match JsonValue.field? (js "delta") fields with
      | some (.obj delta) => do
          let content ← JsonValue.nullableString (JsonValue.field? (js "content") delta)
          let reasoning ← JsonValue.nullableString (JsonValue.field? (js "reasoning") delta)
          return ⟨⟨content, reasoning⟩, finishReason⟩
      | _ => none
  | _ => none

/-- A null usage counts as absent. -/
def OpenAiStreamChunkSchema.usage (fields : List (JsString × JsonValue)) : Option JsonValue :=
  match JsonValue.field? (js "usage") fields with
  | some .null => none
  | usage => usage

def OpenAiStreamChunkSchema.parse : JsonValue → Option OpenAiStreamChunk
  | .obj fields =>
      match JsonValue.field? (js "choices") fields with
      | some (.arr items) =>
          if items.length ≤ 8 then
            (items.mapM OpenAiStreamChunkSchema.choice).map fun choices =>
              ⟨choices, OpenAiStreamChunkSchema.usage fields⟩
          else none
      | _ => none
  | _ => none

def OpenAiUsageSchema.parse : JsonValue → Option TokenUsage
  | .obj fields => do
      let inputTokens ← (JsonValue.field? (js "prompt_tokens") fields).bind
        (JsonValue.boundedNatural 10000000)
      let outputTokens ← (JsonValue.field? (js "completion_tokens") fields).bind
        (JsonValue.boundedNatural 10000000)
      return ⟨inputTokens, outputTokens⟩
  | _ => none

/-! ## Lines and events -/

/-- The variables of the reader besides the decoder and the pending text; `progress`
counts the calls of `registerGenerationProgress`. -/
structure SseState where
  eventData : List JsString
  eventBytes : ℕ
  eventCount : ℕ
  doneSeen : Bool
  content : JsString
  contentBytes : ℕ
  finishReason : Option JsString
  usage : Option TokenUsage
  progress : ℕ
  deriving DecidableEq, Repr

def SseState.start : SseState := ⟨[], 0, 0, false, [], 0, none, none, 0⟩

def SseState.acceptContent (state : SseState) :
    Option JsString → Except SafeProtocolErrorKind SseState
  | none => .ok state
  | some text => do
      let deltaBytes := utf8Bytes text
      rejectIf (maxModelTextBytes < state.contentBytes + deltaBytes) .responseTooLarge
      return { state with
        content := state.content ++ text
        contentBytes := state.contentBytes + deltaBytes }

def SseState.acceptFinishReason (state : SseState) :
    Option JsString → Except SafeProtocolErrorKind SseState
  | none => .ok state
  | some finishReason => do
      rejectIf (state.finishReason ≠ none ∧ state.finishReason ≠ some finishReason)
        .malformedResponse
      return { state with finishReason := some finishReason }

def SseState.acceptUsage (state : SseState) :
    Option JsonValue → Except SafeProtocolErrorKind SseState
  | none => .ok state
  | some usage =>
      match OpenAiUsageSchema.parse usage with
      | none => .error .malformedResponse
      | some usage => .ok { state with usage := some usage }

/-- The content of the first choice. -/
def OpenAiStreamChunk.content (chunk : OpenAiStreamChunk) : Option JsString :=
  chunk.choices.head?.bind fun choice => choice.delta.content

def OpenAiStreamChunk.reasoning (chunk : OpenAiStreamChunk) : Option JsString :=
  chunk.choices.head?.bind fun choice => choice.delta.reasoning

def OpenAiStreamChunk.finishReason (chunk : OpenAiStreamChunk) : Option JsString :=
  chunk.choices.head?.bind fun choice => choice.finishReason

/-- Whether the chunk carries something that counts as progress. -/
def OpenAiStreamChunk.progressed (chunk : OpenAiStreamChunk) : Bool :=
  (chunk.content.any fun text => 0 < text.length) ||
    (chunk.reasoning.any fun text => 0 < text.length) ||
    chunk.finishReason.isSome || chunk.usage.isSome

def SseState.acceptChunk (state : SseState) (chunk : OpenAiStreamChunk) :
    Except SafeProtocolErrorKind SseState := do
  let state ← state.acceptContent chunk.content
  let state ← state.acceptFinishReason chunk.finishReason
  let state ← state.acceptUsage chunk.usage
  return { state with progress := state.progress + if chunk.progressed then 1 else 0 }

section Reader

variable (jsonParse : JsString → Option JsonValue)

/-- The chunk that the data of an event stands for. -/
def parseEvent (data : JsString) : Option OpenAiStreamChunk :=
  (jsonParse (dropBom data)).bind OpenAiStreamChunkSchema.parse

def commitEvent (state : SseState) : Except SafeProtocolErrorKind SseState :=
  if state.eventData = [] then .ok state
  else
    let data := joinLines state.eventData
    have state := { state with eventData := [], eventBytes := 0 }
    if data = js "[DONE]" then .ok { state with doneSeen := true }
    else do
      rejectIf (state.doneSeen = true) .malformedResponse
      let state := { state with eventCount := state.eventCount + 1 }
      rejectIf (maxSseEventCount < state.eventCount) .malformedResponse
      match parseEvent jsonParse data with
      | none => throw .malformedResponse
      | some chunk => state.acceptChunk chunk

/-- The line without a carriage return at its end. -/
def stripReturn (rawLine : JsString) : JsString :=
  if rawLine.getLast? = some 0x0d then rawLine.dropLast else rawLine

/-- The value of a data line; comments and other fields have none. -/
def dataValue (line : JsString) : Option JsString :=
  if line.head? = some 0x3a then none
  else
    let field := line.takeWhile (· != 0x3a)
    if field ≠ js "data" then none
    else
      let value := (line.drop field.length).drop 1
      some (if value.head? = some 0x20 then value.drop 1 else value)

def acceptLine (state : SseState) (rawLine : JsString) :
    Except SafeProtocolErrorKind SseState :=
  let line := stripReturn rawLine
  if line.length = 0 then commitEvent jsonParse state
  else match dataValue line with
    | none => .ok state
    | some value => do
        let valueBytes := utf8Bytes value
        rejectIf (maxSseEventBytes < state.eventBytes + valueBytes) .responseTooLarge
        return { state with
          eventData := state.eventData ++ [value]
          eventBytes := state.eventBytes + valueBytes }

/-! ## Chunks -/

/-- The reader between two chunks. -/
structure SseReader where
  decoder : TextDecoder
  bytesRead : ℕ
  pending : JsString
  state : SseState
  deriving DecidableEq, Repr

def SseReader.start : SseReader := ⟨.new, 0, [], .start⟩

/-- Hands the complete lines to `acceptLine`; what is pending must stay short. -/
def SseReader.acceptText (reader : SseReader) (value : JsString) :
    Except SafeProtocolErrorKind SseReader := do
  let drained := (lineReader (acceptLine jsonParse)).drain reader.state (reader.pending ++ value)
  drained.outcome
  rejectIf (maxSseEventBytes < utf8Bytes drained.rest) .responseTooLarge
  return { reader with pending := drained.rest, state := drained.state }

def SseReader.readChunk (maximumBytes : ℕ) (reader : SseReader) (value : List UInt8) :
    Except SafeProtocolErrorKind SseReader := do
  let bytesRead := reader.bytesRead + value.length
  rejectIf (maximumBytes < bytesRead) .responseTooLarge
  match reader.decoder.decode value with
  | none => throw .responseStream
  | some decoded =>
      SseReader.acceptText jsonParse
        { reader with bytesRead := bytesRead, decoder := decoded.1 } decoded.2

/-- What the reader returns; no content is `undefined`. -/
structure SseResult where
  content : Option JsString
  finishReason : JsString
  usage : Option TokenUsage
  deriving DecidableEq, Repr

/-- After the last chunk. -/
def SseState.finish (state : SseState) (pending : JsString) :
    Except SafeProtocolErrorKind SseResult := do
  let state ← if pending.length = 0 then .ok state else acceptLine jsonParse state pending
  let state ← commitEvent jsonParse state
  match state.doneSeen, state.finishReason with
  | true, some finishReason =>
      return ⟨if state.content.length = 0 then none else some state.content, finishReason,
        state.usage⟩
  | _, _ => throw .malformedResponse

def SseReader.finish (reader : SseReader) : Except SafeProtocolErrorKind SseResult :=
  match reader.decoder.flush with
  | none => .error .responseStream
  | some text => do
      let reader ← reader.acceptText jsonParse text
      reader.state.finish jsonParse reader.pending

/-- Reads a body that arrives in these chunks. -/
def readSseBody (maximumBytes : ℕ) (chunks : List (List UInt8)) :
    Except SafeProtocolErrorKind SseResult := do
  let reader ← chunks.foldlM (SseReader.readChunk jsonParse maximumBytes) SseReader.start
  reader.finish jsonParse

/-- The parts of a response that the reader looks at; `declaredLength` is the
number that the content length stands for, when it is finite. -/
structure StreamResponse where
  contentType : Option JsString
  declaredLength : Option ℚ
  body : Option (List (List UInt8))

/-- `toLowerCase` on the characters of a media type. -/
def asciiLower (value : JsString) : JsString :=
  value.map fun c => if 0x41 ≤ c && c ≤ 0x5a then c + 0x20 else c

def readBoundedSseResponse (maximumBytes : ℕ) (response : StreamResponse) :
    Except SafeProtocolErrorKind SseResult := do
  let contentType := response.contentType.map fun value =>
    asciiLower (trim (value.takeWhile (· != 0x3b)))
  rejectIf (contentType ≠ some (js "text/event-stream")) .malformedResponse
  rejectIf (response.declaredLength.any fun length => (maximumBytes : ℚ) < length)
    .responseTooLarge
  match response.body with
  | none => throw .malformedResponse
  | some chunks => readSseBody jsonParse maximumBytes chunks

end Reader

end Providers

end UnderstandProof
