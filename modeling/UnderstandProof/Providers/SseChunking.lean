import UnderstandProof.Providers.SseEvents

/-!
# The stream reader does not depend on the chunks

What the reader does with a body is a fold over the lines of the decoded text. The
check of the pending text is the only one that sees where a chunk ends: it can fire
on a line that is longer than an event may be and that would have been accepted as
a whole. Without such lines every way of cutting the bytes has the same outcome.
-/

open Foundation Foundation.JsString

namespace UnderstandProof

namespace Providers

variable (jsonParse : JsString → Option JsonValue)

/-- The outcome for a decoded text whose lines are all at hand. -/
def readText (text : JsString) : Except SafeProtocolErrorKind SseResult := do
  let state ← (lines text).dropLast.foldlM (acceptLine jsonParse) SseState.start
  let last := (lines text).getLast?.getD []
  rejectIf (maxSseEventBytes < utf8Bytes last) .responseTooLarge
  state.finish jsonParse last

/-- Every complete line that is longer than an event may be is a data line whose value
alone is too long. -/
def OverlongRejected (text : JsString) : Prop :=
  ∀ line ∈ (lines text).dropLast, maxSseEventBytes < utf8Bytes line →
    ∃ value, dataValue (stripReturn line) = some value ∧ maxSseEventBytes < utf8Bytes value

variable {jsonParse}

theorem readText_of_error {text : JsString} {front back : List JsString}
    {e : SafeProtocolErrorKind} (hlines : lines text = front ++ back) (hne : back ≠ [])
    (h : front.foldlM (acceptLine jsonParse) SseState.start = .error e) :
    readText jsonParse text = .error e := by
  rw [readText, hlines, List.dropLast_append_of_ne_nil hne, List.foldlM_append, h]
  rfl

theorem readText_of_ok {text last : JsString} {front : List JsString} {state : SseState}
    (hlines : lines text = front ++ [last])
    (h : front.foldlM (acceptLine jsonParse) SseState.start = .ok state) :
    readText jsonParse text = (do
      rejectIf (maxSseEventBytes < utf8Bytes last) .responseTooLarge
      state.finish jsonParse last) := by
  rw [readText, hlines, List.dropLast_concat, h, List.getLast?_concat]
  rfl

/-- A data line whose value is too long is rejected in every state. -/
theorem acceptLine_of_overlong {line value : JsString}
    (hvalue : dataValue (stripReturn line) = some value)
    (hlong : maxSseEventBytes < utf8Bytes value) (state : SseState) :
    acceptLine jsonParse state line = .error .responseTooLarge := by
  have hlength : ¬ (stripReturn line).length = 0 := by
    intro hzero
    rw [List.length_eq_zero_iff.mp hzero] at hvalue
    have hnone : dataValue [] = none := by decide
    rw [hnone] at hvalue
    cases hvalue
  simp only [acceptLine, if_neg hlength, hvalue]
  rw [rejectIf_of (by omega), except_error_bind]

/-- The first line of a text that starts with an unfinished line. -/
theorem exists_lines_append {a : JsString} (h : newline ∉ a) (b : JsString) :
    ∃ c more, lines (a ++ b) = (a ++ c) :: more := by
  by_cases hb : newline ∈ b
  · obtain ⟨c, rest, rfl, hc⟩ := List.eq_append_cons_of_mem hb
    refine ⟨c, lines rest, ?_⟩
    rw [← List.append_assoc]
    exact lines_append_newline (by simp [h, hc]) rest
  · exact ⟨b, [], lines_of_not_mem (by simp [h, hb])⟩

/-! ## The reader on a prefix of the body -/

/-- The reader has read these bytes, which decode to this text. -/
structure HasRead (jsonParse : JsString → Option JsonValue) (bytes : List UInt8)
    (text : JsString) (reader : SseReader) : Prop where
  decoded : TextDecoder.new.decode bytes = some (reader.decoder, text)
  bytesRead : reader.bytesRead = bytes.length
  folded : ∃ front, lines text = front ++ [reader.pending] ∧
    front.foldlM (acceptLine jsonParse) SseState.start = .ok reader.state
  pending_le : utf8Bytes reader.pending ≤ maxSseEventBytes

theorem HasRead.start : HasRead jsonParse [] [] SseReader.start := by
  refine ⟨rfl, rfl, ⟨[], lines_of_not_mem (by simp), rfl⟩, Nat.zero_le _⟩

/-- What the drained lines of a chunk are. -/
theorem acceptText_of_lines {reader : SseReader} {value last : JsString}
    {front : List JsString} (hlines : lines (reader.pending ++ value) = front ++ [last]) :
    reader.acceptText jsonParse value = (do
      let state ← front.foldlM (acceptLine jsonParse) reader.state
      rejectIf (maxSseEventBytes < utf8Bytes last) .responseTooLarge
      return { reader with pending := last, state }) := by
  rw [SseReader.acceptText]
  cases hfold : front.foldlM (acceptLine jsonParse) reader.state with
  | ok state =>
      simp only [drain_lineReader_of_ok hlines hfold, except_ok_bind]
  | error e =>
      simp only [drain_lineReader_of_error hlines hfold, except_error_bind]

theorem newline_not_mem_last {text last : JsString} {front : List JsString}
    (h : lines text = front ++ [last]) : newline ∉ last :=
  newline_not_mem_of_mem_lines (h ▸ List.mem_append_right _ (List.mem_singleton_self _))

theorem exists_lines_concat (text : JsString) :
    ∃ front last, lines text = front ++ [last] := by
  obtain h | ⟨front, last, h⟩ := List.eq_nil_or_concat (lines text)
  · exact absurd h (lines_ne_nil text)
  · exact ⟨front, last, by rw [h, List.concat_eq_append]⟩

/-- An unfinished line that has become too long: the text fails for its size, unless
the line is complete and acceptable. -/
theorem readText_of_overlong {text last : JsString} (more : JsString) {front : List JsString}
    {state : SseState} (hlines : lines text = front ++ [last])
    (hfold : front.foldlM (acceptLine jsonParse) SseState.start = .ok state)
    (hlong : maxSseEventBytes < utf8Bytes last) :
    readText jsonParse (text ++ more) = .error .responseTooLarge ∨
      more ≠ [] ∧ ¬ OverlongRejected (text ++ more) := by
  have hwhole := lines_append hlines more
  obtain ⟨c, rest, hfirst⟩ := exists_lines_append (newline_not_mem_last hlines) more
  rw [hfirst] at hwhole
  have hlonger : maxSseEventBytes < utf8Bytes (last ++ c) :=
    hlong.trans_le (utf8Bytes_le_append last c)
  by_cases hrest : rest = []
  · left
    rw [hrest] at hwhole
    rw [readText_of_ok hwhole hfold, rejectIf_of hlonger, except_error_bind]
  · by_cases hrejected : OverlongRejected (text ++ more)
    · left
      have hmem : last ++ c ∈ (lines (text ++ more)).dropLast := by
        rw [hwhole, List.dropLast_append_of_ne_nil (List.cons_ne_nil _ _),
          List.dropLast_cons_of_ne_nil hrest]
        simp
      obtain ⟨value, hvalue, hvalueLong⟩ := hrejected _ hmem hlonger
      rw [List.append_cons] at hwhole
      refine readText_of_error hwhole hrest ?_
      rw [List.foldlM_append, hfold, except_ok_bind, List.foldlM_cons,
        acceptLine_of_overlong hvalue hvalueLong, except_error_bind]
    · right
      refine ⟨?_, hrejected⟩
      rintro rfl
      rw [List.append_nil, lines_of_not_mem (newline_not_mem_last hlines)] at hfirst
      exact hrest (List.cons.inj hfirst).2.symm

/-- One more chunk is read, or the outcome is decided whatever follows. -/
theorem HasRead.readChunk {maximumBytes : ℕ} {bytes chunk : List UInt8} {text more : JsString}
    {reader : SseReader} {decoder : TextDecoder} (h : HasRead jsonParse bytes text reader)
    (hdecode : reader.decoder.decode chunk = some (decoder, more))
    (hle : (bytes ++ chunk).length ≤ maximumBytes) :
    (∃ next, reader.readChunk jsonParse maximumBytes chunk = .ok next ∧
        next.decoder = decoder ∧ HasRead jsonParse (bytes ++ chunk) (text ++ more) next) ∨
      ∃ e, reader.readChunk jsonParse maximumBytes chunk = .error e ∧ ∀ rest,
        readText jsonParse (text ++ more ++ rest) = .error e ∨
          e = .responseTooLarge ∧ rest ≠ [] ∧ ¬ OverlongRejected (text ++ more ++ rest) := by
  obtain ⟨front, hlines, hfold⟩ := h.folded
  obtain ⟨front', last, hlines'⟩ := exists_lines_concat (reader.pending ++ more)
  have hall : lines (text ++ more) = (front ++ front') ++ [last] := by
    rw [lines_append hlines, hlines', List.append_assoc]
  have hbytes : ¬ maximumBytes < reader.bytesRead + chunk.length := by
    rw [h.bytesRead, ← List.length_append]
    exact not_lt.mpr hle
  have hread : reader.readChunk jsonParse maximumBytes chunk = (do
      let state ← front'.foldlM (acceptLine jsonParse) reader.state
      rejectIf (maxSseEventBytes < utf8Bytes last) .responseTooLarge
      return ⟨decoder, reader.bytesRead + chunk.length, last, state⟩) := by
    simp only [SseReader.readChunk, rejectIf_of_not hbytes, except_ok_bind, hdecode]
    exact acceptText_of_lines hlines'
  rw [hread]
  cases hfold' : front'.foldlM (acceptLine jsonParse) reader.state with
  | error e =>
      refine .inr ⟨e, by rw [except_error_bind], fun rest => .inl ?_⟩
      refine readText_of_error (lines_append hall rest) (lines_ne_nil _) ?_
      rw [List.foldlM_append, hfold, except_ok_bind, hfold']
  | ok state =>
      have hboth : (front ++ front').foldlM (acceptLine jsonParse) SseState.start =
          .ok state := by
        rw [List.foldlM_append, hfold, except_ok_bind, hfold']
      rw [except_ok_bind]
      by_cases hlong : maxSseEventBytes < utf8Bytes last
      · refine .inr ⟨_, by rw [rejectIf_of hlong, except_error_bind], fun rest => ?_⟩
        rcases readText_of_overlong rest hall hboth hlong with hread | hread
        · exact .inl hread
        · exact .inr ⟨rfl, hread⟩
      · refine .inl ⟨_, by rw [rejectIf_of_not hlong, except_ok_bind]; rfl, rfl, ?_⟩
        refine ⟨?_, ?_, ⟨_, hall, hboth⟩, not_lt.mp hlong⟩
        · rw [TextDecoder.decode_append, h.decoded, Option.bind_some, hdecode, Option.map_some]
        · rw [List.length_append, h.bytesRead]

theorem decode_nil (decoder : TextDecoder) : decoder.decode [] = some (decoder, []) := by
  obtain ⟨utf8, bomSeen⟩ := decoder
  cases bomSeen <;> rfl

/-- After the last chunk only the pending line is left. -/
theorem HasRead.finish {bytes : List UInt8} {text : JsString} {reader : SseReader}
    (h : HasRead jsonParse bytes text reader) (hflush : reader.decoder.flush = some []) :
    reader.finish jsonParse = readText jsonParse text := by
  obtain ⟨front, hlines, hfold⟩ := h.folded
  have hpending : lines (reader.pending ++ []) = [] ++ [reader.pending] := by
    rw [List.append_nil, lines_of_not_mem (newline_not_mem_last hlines), List.nil_append]
  have hshort := not_lt.mpr h.pending_le
  simp only [SseReader.finish, hflush]
  rw [acceptText_of_lines hpending, readText_of_ok hlines hfold, rejectIf_of_not hshort]
  rfl

/-- However the rest of the body is cut, the outcome is that of the whole text, but
for the size of a line that is complete and acceptable. -/
theorem HasRead.run {maximumBytes : ℕ} {chunks : List (List UInt8)} {bytes : List UInt8}
    {text more : JsString} {reader : SseReader} {decoder : TextDecoder}
    (h : HasRead jsonParse bytes text reader)
    (hdecode : reader.decoder.decode chunks.flatten = some (decoder, more))
    (hflush : decoder.flush = some [])
    (hle : (bytes ++ chunks.flatten).length ≤ maximumBytes) :
    let outcome := chunks.foldlM (SseReader.readChunk jsonParse maximumBytes) reader >>=
      SseReader.finish jsonParse
    outcome = readText jsonParse (text ++ more) ∨
      outcome = .error .responseTooLarge ∧ ¬ OverlongRejected (text ++ more) := by
  induction chunks generalizing bytes text more reader with
  | nil =>
      rw [List.flatten_nil, decode_nil, Option.some.injEq, Prod.mk.injEq] at hdecode
      obtain ⟨rfl, rfl⟩ := hdecode
      rw [List.append_nil]
      exact .inl (h.finish hflush)
  | cons chunk chunks ih =>
      rw [List.flatten_cons] at hdecode hle
      rw [TextDecoder.decode_append] at hdecode
      obtain ⟨⟨next, first⟩, hfirst, hdecode⟩ := Option.bind_eq_some_iff.mp hdecode
      obtain ⟨⟨final, others⟩, hothers, hpair⟩ := Option.map_eq_some_iff.mp hdecode
      rw [Prod.mk.injEq] at hpair
      obtain ⟨rfl, rfl⟩ := hpair
      rw [← List.append_assoc] at hle
      have hchunk : (bytes ++ chunk).length ≤ maximumBytes := by
        rw [List.length_append] at hle
        exact (Nat.le_add_right _ _).trans hle
      rw [List.foldlM_cons]
      rcases h.readChunk hfirst hchunk with ⟨reader', hread, rfl, h'⟩ | ⟨e, hread, hrest⟩
      · rw [hread, except_ok_bind, ← List.append_assoc]
        exact ih h' hothers hle
      · rw [hread, except_error_bind, except_error_bind, ← List.append_assoc]
        rcases hrest others with houtcome | ⟨rfl, -, houtcome⟩
        · exact .inl houtcome.symm
        · exact .inr ⟨rfl, houtcome⟩

/-- The text of a body that is valid UTF-8, without its byte order mark. -/
theorem decode_valid {body : List UInt8} {text : JsString}
    (h : Utf8Decoder.start.feed body = some (.start, text)) :
    ∃ decoder, TextDecoder.new.decode body = some (decoder, dropBom text) ∧
      decoder.flush = some [] := by
  have hneeded : Utf8Decoder.start.needed = 0 := rfl
  by_cases htext : text = []
  · refine ⟨⟨.start, false⟩, ?_, if_pos hneeded⟩
    rw [TextDecoder.decode, TextDecoder.new, h, htext]
    rfl
  · refine ⟨⟨.start, true⟩, ?_, if_pos hneeded⟩
    rw [TextDecoder.decode, TextDecoder.new, h, Option.map_some, TextDecoder.emit,
      if_neg (by simp), if_neg htext]

theorem readSseBody_eq {maximumBytes : ℕ} {body : List UInt8} {text : JsString}
    (h : Utf8Decoder.start.feed body = some (.start, text))
    (hle : body.length ≤ maximumBytes) {chunks : List (List UInt8)}
    (hchunks : chunks.flatten = body) :
    readSseBody jsonParse maximumBytes chunks = readText jsonParse (dropBom text) ∨
      readSseBody jsonParse maximumBytes chunks = .error .responseTooLarge ∧
        ¬ OverlongRejected (dropBom text) := by
  obtain ⟨decoder, hdecode, hflush⟩ := decode_valid h
  subst hchunks
  exact HasRead.start.run hdecode hflush hle

/-- A body in one chunk has the outcome of its text. -/
theorem readSseBody_singleton {maximumBytes : ℕ} {body : List UInt8} {text : JsString}
    (h : Utf8Decoder.start.feed body = some (.start, text))
    (hle : body.length ≤ maximumBytes) :
    readSseBody jsonParse maximumBytes [body] = readText jsonParse (dropBom text) := by
  obtain ⟨decoder, hdecode, hflush⟩ := decode_valid h
  rw [readSseBody, List.foldlM_cons]
  rcases HasRead.start.readChunk hdecode hle with ⟨next, hread, rfl, h⟩ | ⟨e, hread, hrest⟩
  · rw [hread]
    exact h.finish hflush
  · rw [hread]
    rcases hrest [] with houtcome | ⟨-, hne, -⟩
    · rw [List.append_nil] at houtcome
      exact houtcome.symm
    · exact absurd rfl hne

/-- A text that is read reports its events. -/
theorem readText_reports {text : JsString} {result : SseResult}
    (h : readText jsonParse text = .ok result) : result.Reports jsonParse (sseEvents text) := by
  obtain ⟨front, last, hlines⟩ := exists_lines_concat text
  rw [readText, hlines, List.dropLast_concat, List.getLast?_concat, bind_eq_ok] at h
  obtain ⟨state, hfold, h⟩ := h
  obtain ⟨-, h⟩ := rejectIf_bind_eq_ok.mp h
  rw [sseEvents, hlines, List.foldl_append]
  exact (BlocksRead.start.run hfold).finish h

/-! ## The response -/

/-- What is checked before the body decides the outcome, or the body does. -/
theorem readBoundedSseResponse_head (maximumBytes : ℕ) (contentType : Option JsString)
    (declaredLength : Option ℚ) :
    (∃ e, ∀ jsonParse body, readBoundedSseResponse jsonParse maximumBytes
        ⟨contentType, declaredLength, some body⟩ = .error e) ∨
      ∀ jsonParse body, readBoundedSseResponse jsonParse maximumBytes
        ⟨contentType, declaredLength, some body⟩ = readSseBody jsonParse maximumBytes body := by
  by_cases htype : (contentType.map fun value =>
      asciiLower (trim (value.takeWhile (· != 0x3b)))) ≠ some (js "text/event-stream")
  · refine .inl ⟨.malformedResponse, fun jsonParse body => ?_⟩
    simp only [readBoundedSseResponse, rejectIf_of htype, except_error_bind]
  by_cases hlength : declaredLength.any fun length => (maximumBytes : ℚ) < length
  · refine .inl ⟨.responseTooLarge, fun jsonParse body => ?_⟩
    simp only [readBoundedSseResponse, rejectIf_of_not htype, except_ok_bind,
      rejectIf_of hlength, except_error_bind]
  · refine .inr fun jsonParse body => ?_
    simp only [readBoundedSseResponse, rejectIf_of_not htype, except_ok_bind,
      rejectIf_of_not hlength]

/-- Two ways of cutting a body, read in whole or in part. -/
theorem readSseBody_chunking {maximumBytes : ℕ} {body : List UInt8} {text : JsString}
    (hutf8 : Utf8Decoder.start.feed body = some (.start, text))
    (hle : body.length ≤ maximumBytes) {chunks chunks' : List (List UInt8)}
    (hchunks : chunks.flatten = body) (hchunks' : chunks'.flatten = body) :
    readSseBody jsonParse maximumBytes chunks = readSseBody jsonParse maximumBytes chunks' ∨
      ¬ OverlongRejected (dropBom text) ∧
        (readSseBody jsonParse maximumBytes chunks = .error .responseTooLarge ∨
          readSseBody jsonParse maximumBytes chunks' = .error .responseTooLarge) := by
  have heq : readSseBody jsonParse maximumBytes chunks = _ ∨ _ :=
    readSseBody_eq hutf8 hle hchunks
  have heq' : readSseBody jsonParse maximumBytes chunks' = _ ∨ _ :=
    readSseBody_eq hutf8 hle hchunks'
  rcases heq with heq | ⟨heq, hoverlong⟩
  · rcases heq' with heq' | ⟨heq', hoverlong⟩
    · exact .inl (heq.trans heq'.symm)
    · exact .inr ⟨hoverlong, .inr heq'⟩
  · exact .inr ⟨hoverlong, .inl heq⟩

/-- Two ways of cutting a body have the same outcome, unless one of them ends a chunk
within an overlong line that is acceptable, and a result reports the events of the
text. -/
theorem readBoundedSseResponse_chunking (jsonParse : JsString → Option JsonValue)
    (maximumBytes : ℕ) (contentType : Option JsString) (declaredLength : Option ℚ)
    {body : List UInt8} {text : JsString}
    (hutf8 : Utf8Decoder.start.feed body = some (.start, text))
    (hle : body.length ≤ maximumBytes) {chunks chunks' : List (List UInt8)}
    (hchunks : chunks.flatten = body) (hchunks' : chunks'.flatten = body) :
    let read := fun body => readBoundedSseResponse jsonParse maximumBytes
      ⟨contentType, declaredLength, some body⟩
    (read chunks = read chunks' ∨ ¬ OverlongRejected (dropBom text) ∧
        (read chunks = .error .responseTooLarge ∨ read chunks' = .error .responseTooLarge)) ∧
      ∀ result, read chunks = .ok result →
        result.Reports jsonParse (sseEvents (dropBom text)) := by
  intro read
  rcases readBoundedSseResponse_head maximumBytes contentType declaredLength with
    ⟨e, hread⟩ | hread
  · have hread : ∀ body, read body = .error e := fun body => hread jsonParse body
    exact ⟨.inl (by rw [hread, hread]), fun result hok => by rw [hread] at hok; cases hok⟩
  · have hread : ∀ body, read body = readSseBody jsonParse maximumBytes body :=
      fun body => hread jsonParse body
    rw [hread, hread]
    refine ⟨readSseBody_chunking hutf8 hle hchunks hchunks', fun result hok => ?_⟩
    have heq : readSseBody jsonParse maximumBytes chunks = _ ∨ _ :=
      readSseBody_eq hutf8 hle hchunks
    rcases heq with heq | ⟨heq, -⟩
    · exact readText_reports (heq.symm.trans hok)
    · rw [heq] at hok
      cases hok

/-- The chunk that `sampleParse` returns: the content `é` and a finish reason. -/
def sampleChunk : JsonValue :=
  .obj [(js "choices", .arr [.obj [(js "delta", .obj [(js "content", .str [0xe9])]),
    (js "finish_reason", .str (js "stop"))]])]

def sampleData : JsString :=
  js "\x7b\"choices\":[\x7b\"delta\":\x7b\"content\":\"" ++ [0xe9] ++
    js "\"\x7d,\"finish_reason\":\"stop\"\x7d]\x7d"

/-- `JSON.parse` on the data of the sample. -/
def sampleParse (data : JsString) : Option JsonValue :=
  if data = sampleData then some sampleChunk else none

def sampleText : JsString :=
  js "data: " ++ sampleData ++ js "\r\n\r\ndata: [DONE]\n\n"

/-- The bytes of the sample text, cut within the character and within a line ending. -/
def sampleChunks : List (List UInt8) :=
  [(utf8Encode sampleText).take 40, [], ((utf8Encode sampleText).drop 40).take 30,
    (utf8Encode sampleText).drop 70]

theorem readBoundedSseResponse_chunking_sample :
    let read := fun body => readBoundedSseResponse sampleParse (4 * 1024 * 1024)
      ⟨some (js "text/event-stream"), none, some body⟩
    (read sampleChunks = read [utf8Encode sampleText] ∨ ¬ OverlongRejected (dropBom sampleText) ∧
        (read sampleChunks = .error .responseTooLarge ∨
          read [utf8Encode sampleText] = .error .responseTooLarge)) ∧
      ∀ result, read sampleChunks = .ok result →
        result.Reports sampleParse (sseEvents (dropBom sampleText)) :=
  @readBoundedSseResponse_chunking sampleParse (4 * 1024 * 1024) (some (js "text/event-stream"))
    none (utf8Encode sampleText) sampleText (by decide) (by decide)
    sampleChunks [utf8Encode sampleText] (by decide) (by decide)

/-! ## A comment of `n` letters -/

def comment (n : ℕ) : JsString := 0x3a :: List.replicate n 0x61

/-- The bytes of the comment, without a newline. -/
def commentBytes (n : ℕ) : List UInt8 := 0x3a :: List.replicate n 0x61

theorem newline_not_mem_comment (n : ℕ) : newline ∉ comment n := by
  simp [comment, newline, List.mem_replicate]

theorem lt_utf8Bytes_comment (n : ℕ) : n < utf8Bytes (comment n) := by
  refine Nat.lt_of_lt_of_le ?_ (length_le_utf8Bytes _)
  rw [comment, List.length_cons, List.length_replicate]
  exact Nat.lt_succ_self n

theorem feed_replicate (n : ℕ) :
    Utf8Decoder.start.feed (List.replicate n 0x61) = some (.start, List.replicate n 0x61) := by
  induction n with
  | zero => rfl
  | succ n ih =>
      have hpush : Utf8Decoder.start.push 0x61 = some (.start, [0x61]) := by decide
      rw [List.replicate_succ, Utf8Decoder.feed_cons, hpush, Option.bind_some, ih]
      rfl

theorem feed_commentBytes (n : ℕ) :
    Utf8Decoder.start.feed (commentBytes n) = some (.start, comment n) := by
  have hpush : Utf8Decoder.start.push 0x3a = some (.start, [0x3a]) := by decide
  rw [commentBytes, Utf8Decoder.feed_cons, hpush, Option.bind_some, feed_replicate]
  rfl

theorem feed_commentLine (n : ℕ) : Utf8Decoder.start.feed (commentBytes n ++ [0x0a]) =
    some (.start, comment n ++ [newline]) := by
  have hpush : Utf8Decoder.start.feed [0x0a] = some (.start, [newline]) := by decide
  rw [Utf8Decoder.feed_append, feed_commentBytes, Option.bind_some, hpush]
  rfl

theorem stripReturn_comment (n : ℕ) : stripReturn (comment n) = comment n := by
  refine if_neg ?_
  cases n with
  | zero => decide
  | succ n =>
      rw [comment, List.replicate_succ', ← List.cons_append, List.getLast?_concat]
      decide

/-- A comment is skipped when its line is complete. -/
theorem readText_commentLine (n : ℕ) :
    readText jsonParse (comment n ++ [newline]) = .error .malformedResponse := by
  have hlines : lines (comment n ++ [newline]) = [comment n] ++ [[]] := by
    rw [lines_append_newline (newline_not_mem_comment n), lines_of_not_mem List.not_mem_nil]
    rfl
  have haccept : acceptLine jsonParse .start (comment n) = .ok .start := by
    have hlength : ¬ (comment n).length = 0 := by simp [comment]
    have hvalue : dataValue (comment n) = none := if_pos rfl
    simp only [acceptLine, stripReturn_comment, if_neg hlength, hvalue]
  have hfold : [comment n].foldlM (acceptLine jsonParse) SseState.start = .ok SseState.start := by
    rw [List.foldlM_cons, haccept, except_ok_bind]
    rfl
  rw [readText_of_ok hlines hfold]
  rfl

/-- A chunk that ends within a comment is rejected when the comment is too long. -/
theorem readChunk_commentBytes {n maximumBytes : ℕ} (hn : maxSseEventBytes ≤ n)
    (hle : (commentBytes n).length ≤ maximumBytes) :
    SseReader.start.readChunk jsonParse maximumBytes (commentBytes n) =
      .error .responseTooLarge := by
  have hlines : lines (comment n) = [] ++ [comment n] :=
    lines_of_not_mem (newline_not_mem_comment n)
  have hlong := hn.trans_lt (lt_utf8Bytes_comment n)
  obtain ⟨decoder, hdecode, -⟩ := decode_valid (feed_commentBytes n)
  have hbom : dropBom (comment n) = comment n := dropBom_cons (by decide) _
  rw [hbom] at hdecode
  have hstart : HasRead jsonParse [] [] SseReader.start := HasRead.start
  rcases hstart.readChunk hdecode hle with ⟨next, -, -, hread⟩ | ⟨e, hread, hrest⟩
  · obtain ⟨front, hfront, -⟩ := hread.folded
    rw [List.nil_append, hlines] at hfront
    obtain ⟨-, hlast⟩ := List.append_inj' hfront rfl
    have hshort := hread.pending_le
    rw [← (List.cons.inj hlast).1] at hshort
    exact absurd hlong (not_lt.mpr hshort)
  · rw [hread]
    rcases hrest [] with houtcome | ⟨rfl, -⟩
    · rw [List.nil_append, List.append_nil, readText_of_ok hlines rfl,
        rejectIf_of hlong] at houtcome
      cases houtcome
      rfl
    · rfl

/-- A response of the right type whose length is not declared. -/
theorem readBoundedSseResponse_eventStream (jsonParse : JsString → Option JsonValue)
    (maximumBytes : ℕ) (body : List (List UInt8)) :
    readBoundedSseResponse jsonParse maximumBytes
        ⟨some (js "text/event-stream"), none, some body⟩ =
      readSseBody jsonParse maximumBytes body := by
  have htype : asciiLower (trim ((js "text/event-stream").takeWhile (· != 0x3b))) =
      js "text/event-stream" := by decide
  simp only [readBoundedSseResponse, Option.map_some, htype, rejectIf, ne_eq,
    not_true_eq_false, if_false, Option.any_none, Bool.false_eq_true, except_ok_bind]

/-- With any parser, two ways of cutting a comment line have different outcomes. -/
theorem read_commentLine (jsonParse : JsString → Option JsonValue) :
    let body := commentBytes maxSseEventBytes ++ [0x0a]
    let read := fun body => readBoundedSseResponse jsonParse (4 * 1024 * 1024)
      ⟨some (js "text/event-stream"), none, some body⟩
    body.length ≤ 4 * 1024 * 1024 ∧
      read [body] = .error .malformedResponse ∧
      read [commentBytes maxSseEventBytes, [0x0a]] = .error .responseTooLarge := by
  intro body read
  have hbody : body = commentBytes maxSseEventBytes ++ [0x0a] := rfl
  have hread : ∀ body, read body = readSseBody jsonParse (4 * 1024 * 1024) body :=
    readBoundedSseResponse_eventStream jsonParse _
  have hlength : (commentBytes maxSseEventBytes).length = 262145 := by
    rw [commentBytes, List.length_cons, List.length_replicate]
    rfl
  have hbodyLength : body.length ≤ 4 * 1024 * 1024 := by
    rw [hbody, List.length_append, hlength]
    decide
  refine ⟨hbodyLength, ?_, ?_⟩
  · have hbom : dropBom (comment maxSseEventBytes ++ [newline]) =
        comment maxSseEventBytes ++ [newline] := dropBom_cons (by decide) _
    rw [hread, readSseBody_singleton (feed_commentLine _) hbodyLength, hbom,
      readText_commentLine]
  · rw [hread, readSseBody, List.foldlM_cons,
      readChunk_commentBytes (Nat.le_refl _) (hlength.trans_le (by decide))]
    rfl

/-- Two ways of cutting a comment line have different outcomes. -/
theorem readBoundedSseResponse_commentLine :
    let body := commentBytes maxSseEventBytes ++ [0x0a]
    let read := fun body => readBoundedSseResponse sampleParse (4 * 1024 * 1024)
      ⟨some (js "text/event-stream"), none, some body⟩
    (∃ text, Utf8Decoder.start.feed body = some (.start, text)) ∧
      body.length ≤ 4 * 1024 * 1024 ∧
      read [body] = .error .malformedResponse ∧
      read [commentBytes maxSseEventBytes, [0x0a]] = .error .responseTooLarge :=
  ⟨⟨_, feed_commentLine _⟩, read_commentLine sampleParse⟩

end Providers

end UnderstandProof
