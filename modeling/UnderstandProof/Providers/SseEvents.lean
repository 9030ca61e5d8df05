import UnderstandProof.Providers.SseResponse

/-!
# The events of a stream

An event is the data of a block of data lines. What the reader knows after some
lines is what their events say: the content is the content of their chunks in order,
all the finish reasons agree, and nothing but a closing event follows a closing one.
-/

open Foundation Foundation.JsString

namespace UnderstandProof

namespace Providers

/-! ## Blocks of data lines -/

/-- The events of the lines so far, and the data of the event that is still open. -/
structure EventBlocks where
  events : List JsString
  data : List JsString

namespace EventBlocks

def start : EventBlocks := ⟨[], []⟩

def commit (blocks : EventBlocks) : EventBlocks :=
  if blocks.data = [] then blocks
  else ⟨blocks.events ++ [joinLines blocks.data], []⟩

def push (blocks : EventBlocks) (rawLine : JsString) : EventBlocks :=
  let line := stripReturn rawLine
  if line.length = 0 then blocks.commit
  else match dataValue line with
    | none => blocks
    | some value => { blocks with data := blocks.data ++ [value] }

theorem commit_commit (blocks : EventBlocks) : blocks.commit.commit = blocks.commit := by
  by_cases h : blocks.data = []
  · have hcommit : blocks.commit = blocks := if_pos h
    rw [hcommit, hcommit]
  · simp [commit, h]

end EventBlocks

/-- The data of the events of a text, in order. -/
def sseEvents (text : JsString) : List JsString :=
  ((lines text).foldl EventBlocks.push .start).commit.events

/-- The event that closes the stream. -/
def doneEvent : JsString := js "[DONE]"

/-! ## What the events say -/

section Spec

variable (jsonParse : JsString → Option JsonValue)

/-- The events are these chunks, followed by the given number of closing events. -/
structure EventChunks (events : List JsString) (chunks : List OpenAiStreamChunk)
    (closings : ℕ) : Prop where
  exists_data : ∃ data, events = data ++ List.replicate closings doneEvent ∧
    doneEvent ∉ data ∧ data.mapM (parseEvent jsonParse) = some chunks

/-- The contents of the first choices, one after the other. -/
def chunksContent (chunks : List OpenAiStreamChunk) : JsString :=
  (chunks.filterMap OpenAiStreamChunk.content).flatten

/-- All the finish reasons of the chunks are this one, and there is one. -/
def IsFinishReason (chunks : List OpenAiStreamChunk) (reason : JsString) : Prop :=
  reason ∈ chunks.filterMap OpenAiStreamChunk.finishReason ∧
    ∀ other ∈ chunks.filterMap OpenAiStreamChunk.finishReason, other = reason

/-- What a result says about the events of the stream. -/
def SseResult.Reports (result : SseResult) (events : List JsString) : Prop :=
  ∃ chunks closings, EventChunks jsonParse events chunks closings ∧ 0 < closings ∧
    result.content = (if chunksContent chunks = [] then none else some (chunksContent chunks)) ∧
    utf8Bytes (chunksContent chunks) ≤ maxModelTextBytes ∧
    IsFinishReason chunks result.finishReason

/-- What the state of the reader says about the events so far. -/
structure EventsRead (events : List JsString) (state : SseState)
    (chunks : List OpenAiStreamChunk) (closings : ℕ) : Prop where
  parsed : EventChunks jsonParse events chunks closings
  doneSeen : state.doneSeen = true ↔ 0 < closings
  content : state.content = chunksContent chunks
  utf8Bytes_le : utf8Bytes state.content ≤ state.contentBytes
  contentBytes_le : state.contentBytes ≤ maxModelTextBytes
  finishReason : ∀ reason, reason ∈ chunks.filterMap OpenAiStreamChunk.finishReason →
    state.finishReason = some reason
  finished : ∀ reason, state.finishReason = some reason →
    reason ∈ chunks.filterMap OpenAiStreamChunk.finishReason

end Spec

variable {jsonParse : JsString → Option JsonValue}

theorem EventChunks.close {events : List JsString} {chunks : List OpenAiStreamChunk}
    {closings : ℕ} (h : EventChunks jsonParse events chunks closings) :
    EventChunks jsonParse (events ++ [doneEvent]) chunks (closings + 1) := by
  obtain ⟨data, rfl, hdata, hparse⟩ := h.exists_data
  refine ⟨data, ?_, hdata, hparse⟩
  rw [List.replicate_succ', List.append_assoc]

theorem EventChunks.push {events : List JsString} {chunks : List OpenAiStreamChunk}
    {event : JsString} {chunk : OpenAiStreamChunk}
    (h : EventChunks jsonParse events chunks 0) (hevent : event ≠ doneEvent)
    (hparse : parseEvent jsonParse event = some chunk) :
    EventChunks jsonParse (events ++ [event]) (chunks ++ [chunk]) 0 := by
  obtain ⟨data, rfl, hdata, hchunks⟩ := h.exists_data
  refine ⟨data ++ [event], by simp, ?_, ?_⟩
  · simp [hdata, hevent.symm]
  · rw [List.mapM_append, hchunks]
    simp [hparse]

/-! ## One chunk -/

theorem acceptContent_ok {state next : SseState} {text : Option JsString}
    (h : state.acceptContent text = .ok next)
    (hbytes : utf8Bytes state.content ≤ state.contentBytes)
    (hle : state.contentBytes ≤ maxModelTextBytes) :
    next.content = state.content ++ text.getD [] ∧
      utf8Bytes next.content ≤ next.contentBytes ∧ next.contentBytes ≤ maxModelTextBytes ∧
      next.finishReason = state.finishReason ∧ next.doneSeen = state.doneSeen ∧
      next.eventData = state.eventData := by
  cases text with
  | none =>
      cases h
      exact ⟨(List.append_nil _).symm, hbytes, hle, rfl, rfl, rfl⟩
  | some text =>
      rw [SseState.acceptContent, rejectIf_bind_eq_ok] at h
      obtain ⟨hfits, h⟩ := h
      cases h
      refine ⟨rfl, ?_, not_lt.mp hfits, rfl, rfl, rfl⟩
      exact (utf8Bytes_append_le _ _).trans (Nat.add_le_add_right hbytes _)

theorem acceptFinishReason_ok {state next : SseState} {reason : Option JsString}
    (h : state.acceptFinishReason reason = .ok next) :
    (next.finishReason = reason.or state.finishReason ∧
      (∀ old new, state.finishReason = some old → reason = some new → old = new)) ∧
      next.content = state.content ∧ next.contentBytes = state.contentBytes ∧
      next.doneSeen = state.doneSeen ∧ next.eventData = state.eventData := by
  cases reason with
  | none =>
      cases h
      exact ⟨⟨rfl, fun _ _ _ h => by cases h⟩, rfl, rfl, rfl, rfl⟩
  | some reason =>
      rw [SseState.acceptFinishReason, rejectIf_bind_eq_ok] at h
      obtain ⟨hagree, h⟩ := h
      cases h
      refine ⟨⟨rfl, ?_⟩, rfl, rfl, rfl, rfl⟩
      intro old new hold hnew
      by_contra hne
      refine hagree ⟨by simp [hold], ?_⟩
      rw [hold, hnew]
      exact fun heq => hne (Option.some.inj heq)

theorem acceptUsage_ok {state next : SseState} {usage : Option JsonValue}
    (h : state.acceptUsage usage = .ok next) :
    ∃ value, next = { state with usage := value } := by
  cases usage with
  | none =>
      cases h
      exact ⟨state.usage, rfl⟩
  | some usage =>
      simp only [SseState.acceptUsage] at h
      split at h
      · cases h
      · next value _ =>
          cases h
          exact ⟨some value, rfl⟩

theorem chunksContent_append (chunks : List OpenAiStreamChunk) (chunk : OpenAiStreamChunk) :
    chunksContent (chunks ++ [chunk]) = chunksContent chunks ++ chunk.content.getD [] := by
  cases h : chunk.content <;> simp [chunksContent, h]

/-- The state after the chunk of a new event. -/
theorem EventsRead.acceptChunk {events : List JsString} {state next : SseState}
    {chunks : List OpenAiStreamChunk} {event : JsString} {chunk : OpenAiStreamChunk}
    (h : EventsRead jsonParse events state chunks 0) (hevent : event ≠ doneEvent)
    (hparse : parseEvent jsonParse event = some chunk)
    (haccept : state.acceptChunk chunk = .ok next) :
    EventsRead jsonParse (events ++ [event]) next (chunks ++ [chunk]) 0 ∧
      next.eventData = state.eventData := by
  rw [SseState.acceptChunk, bind_eq_ok] at haccept
  obtain ⟨afterContent, hcontent, haccept⟩ := haccept
  rw [bind_eq_ok] at haccept
  obtain ⟨afterReason, hreason, haccept⟩ := haccept
  rw [bind_eq_ok] at haccept
  obtain ⟨afterUsage, husage, haccept⟩ := haccept
  cases haccept
  obtain ⟨hcontent, hbytes, hle, hreason₁, hdone₁, hdata₁⟩ :=
    acceptContent_ok hcontent h.utf8Bytes_le h.contentBytes_le
  obtain ⟨⟨hreason, hagree⟩, hcontent₂, hbytes₂, hdone₂, hdata₂⟩ := acceptFinishReason_ok hreason
  obtain ⟨value, rfl⟩ := acceptUsage_ok husage
  rw [hreason₁] at hreason hagree
  refine ⟨⟨h.parsed.push hevent hparse, ?_, ?_, ?_, ?_, ?_, ?_⟩, ?_⟩
  · simp only [hdone₂, hdone₁]
    exact h.doneSeen
  · simp only [hcontent₂, hcontent, h.content, chunksContent_append]
  · simp only [hcontent₂, hbytes₂]
    exact hbytes
  · simp only [hbytes₂]
    exact hle
  · intro reason hmem
    simp only [hreason]
    rw [List.filterMap_append, List.mem_append] at hmem
    rcases hmem with hmem | hmem
    · have hold := h.finishReason reason hmem
      cases hnew : chunk.finishReason with
      | none => exact hold
      | some new => rw [Option.some_or, hagree reason new hold hnew]
    · have hnew : chunk.finishReason = some reason := by simpa using hmem
      rw [hnew, Option.some_or]
  · intro reason heq
    simp only [hreason] at heq
    rw [List.filterMap_append, List.mem_append]
    rcases Option.or_eq_some_iff.mp heq with hnew | ⟨-, hold⟩
    · exact .inr (by simpa using hnew)
    · exact .inl (h.finished reason hold)
  · simp only [hdata₂, hdata₁]

/-! ## Lines -/

/-- The reader's state after some lines, beside their blocks. -/
structure BlocksRead (jsonParse : JsString → Option JsonValue) (blocks : EventBlocks)
    (state : SseState) : Prop where
  data : state.eventData = blocks.data
  events : ∃ chunks closings, EventsRead jsonParse blocks.events state chunks closings

theorem BlocksRead.start : BlocksRead jsonParse .start .start := by
  refine ⟨rfl, [], 0, ⟨⟨[], rfl, by simp, rfl⟩, by simp [SseState.start], rfl, Nat.zero_le _,
    Nat.zero_le _, by simp, ?_⟩⟩
  intro reason h
  cases h

theorem BlocksRead.commit {blocks : EventBlocks} {state next : SseState}
    (h : BlocksRead jsonParse blocks state) (hcommit : commitEvent jsonParse state = .ok next) :
    BlocksRead jsonParse blocks.commit next := by
  by_cases hempty : blocks.data = []
  · rw [commitEvent, if_pos (h.data.trans hempty)] at hcommit
    cases hcommit
    rwa [EventBlocks.commit, if_pos hempty]
  · rw [commitEvent, if_neg (h.data ▸ hempty)] at hcommit
    rw [EventBlocks.commit, if_neg hempty]
    obtain ⟨chunks, closings, hread⟩ := h.events
    simp only [h.data] at hcommit
    by_cases hdone : joinLines blocks.data = js "[DONE]"
    · rw [if_pos hdone] at hcommit
      cases hcommit
      refine ⟨rfl, chunks, closings + 1, ?_⟩
      rw [hdone]
      exact ⟨hread.parsed.close, by simp, hread.content, hread.utf8Bytes_le,
        hread.contentBytes_le, hread.finishReason, hread.finished⟩
    · rw [if_neg hdone, rejectIf_bind_eq_ok] at hcommit
      obtain ⟨hopen, hcommit⟩ := hcommit
      rw [rejectIf_bind_eq_ok] at hcommit
      obtain ⟨-, hcommit⟩ := hcommit
      have hclosings : closings = 0 := by
        by_contra hne
        exact hopen (hread.doneSeen.mpr (Nat.pos_of_ne_zero hne))
      subst hclosings
      cases hparse : parseEvent jsonParse (joinLines blocks.data) with
      | none =>
          rw [hparse] at hcommit
          cases hcommit
      | some chunk =>
          rw [hparse] at hcommit
          have hbefore : EventsRead jsonParse blocks.events
              { state with eventData := [], eventBytes := 0, eventCount := state.eventCount + 1 }
              chunks 0 :=
            ⟨hread.parsed, hread.doneSeen, hread.content, hread.utf8Bytes_le,
              hread.contentBytes_le, hread.finishReason, hread.finished⟩
          obtain ⟨hafter, hdata⟩ := hbefore.acceptChunk hdone hparse hcommit
          exact ⟨hdata, _, _, hafter⟩

theorem BlocksRead.acceptLine {blocks : EventBlocks} {state next : SseState}
    {rawLine : JsString} (h : BlocksRead jsonParse blocks state)
    (haccept : acceptLine jsonParse state rawLine = .ok next) :
    BlocksRead jsonParse (blocks.push rawLine) next := by
  rw [Providers.acceptLine] at haccept
  rw [EventBlocks.push]
  by_cases hempty : (stripReturn rawLine).length = 0
  · simp only [if_pos hempty] at haccept ⊢
    exact h.commit haccept
  · simp only [if_neg hempty] at haccept ⊢
    cases hvalue : dataValue (stripReturn rawLine) with
    | none =>
        rw [hvalue] at haccept
        cases haccept
        exact h
    | some value =>
        rw [hvalue] at haccept
        obtain ⟨-, haccept⟩ := rejectIf_bind_eq_ok.mp haccept
        cases haccept
        obtain ⟨chunks, closings, hread⟩ := h.events
        refine ⟨by rw [h.data], chunks, closings, ?_⟩
        exact ⟨hread.parsed, hread.doneSeen, hread.content, hread.utf8Bytes_le,
          hread.contentBytes_le, hread.finishReason, hread.finished⟩

theorem BlocksRead.run {texts : List JsString} {blocks : EventBlocks} {state final : SseState}
    (h : BlocksRead jsonParse blocks state)
    (hrun : texts.foldlM (Providers.acceptLine jsonParse) state = .ok final) :
    BlocksRead jsonParse (texts.foldl EventBlocks.push blocks) final := by
  induction texts generalizing blocks state with
  | nil =>
      cases hrun
      exact h
  | cons line texts ih =>
      rw [List.foldlM_cons, bind_eq_ok] at hrun
      obtain ⟨next, haccept, hrun⟩ := hrun
      exact ih (h.acceptLine haccept) hrun

theorem BlocksRead.finish_nil {blocks : EventBlocks} {state : SseState} {result : SseResult}
    (h : BlocksRead jsonParse blocks state) (hfinish : state.finish jsonParse [] = .ok result) :
    result.Reports jsonParse blocks.commit.events := by
  rw [SseState.finish, if_pos List.length_nil, except_ok_bind, bind_eq_ok] at hfinish
  obtain ⟨final, hcommit, hfinish⟩ := hfinish
  obtain ⟨chunks, closings, hread⟩ := (h.commit hcommit).events
  split at hfinish
  · next reason hdone hreason =>
      cases hfinish
      refine ⟨chunks, closings, hread.parsed, hread.doneSeen.mp hdone, ?_, ?_, ?_⟩
      · rw [← hread.content]
        simp only [List.length_eq_zero_iff]
      · rw [← hread.content]
        exact hread.utf8Bytes_le.trans hread.contentBytes_le
      · refine ⟨hread.finished _ hreason, fun other hother => ?_⟩
        have hsame := hread.finishReason other hother
        rw [hreason, Option.some.injEq] at hsame
        exact hsame.symm
  · cases hfinish

/-- A result speaks of all the lines, the last one included. -/
theorem BlocksRead.finish {blocks : EventBlocks} {state : SseState} {last : JsString}
    {result : SseResult} (h : BlocksRead jsonParse blocks state)
    (hfinish : state.finish jsonParse last = .ok result) :
    result.Reports jsonParse (blocks.push last).commit.events := by
  by_cases hempty : last = []
  · subst hempty
    have hpush : blocks.push [] = blocks.commit := rfl
    rw [hpush, EventBlocks.commit_commit]
    exact h.finish_nil hfinish
  · rw [SseState.finish, if_neg (mt List.length_eq_zero_iff.mp hempty), bind_eq_ok] at hfinish
    obtain ⟨afterLast, haccept, hfinish⟩ := hfinish
    exact (h.acceptLine haccept).finish_nil hfinish

end Providers

end UnderstandProof
