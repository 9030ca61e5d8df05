import UnderstandProof.Foundation.Except
import UnderstandProof.Providers.SemanticSse
import UnderstandProof.Providers.SseChunking

/-!
# The two stream readers agree

Two readers whose parsers read the events of a stream alike run in lockstep: after
every chunk they differ at most in their count of progress. The semantic provider's
chunks read like the judge's but for a null usage and for a reasoning that is not a
text, so on every other stream the two copies have the same outcome.
-/

open Foundation Foundation.JsString

namespace UnderstandProof

namespace Providers

/-! ## Parsers that read alike -/

/-- The parts of a chunk that decide the result are the same. -/
structure SameParts (chunk chunk' : OpenAiStreamChunk) : Prop where
  content : chunk.content = chunk'.content
  finishReason : chunk.finishReason = chunk'.finishReason
  usage : chunk.usage = chunk'.usage

/-- Neither parser reads the event, or both read chunks with the same parts. -/
def ReadAlike (parse parse' : JsString → Option JsonValue) (event : JsString) : Prop :=
  Option.Rel SameParts (parseEvent parse event) (parseEvent parse' event)

/-- The states differ at most in the progress, and the open event has this data. -/
structure Abreast (data : List JsString) (state state' : SseState) : Prop where
  eventData : state.eventData = data
  same : ∃ progress, state' = { state with progress }

variable {parse parse' : JsString → Option JsonValue}

theorem acceptContent_lockstep {data : List JsString} {state state' : SseState}
    (h : Abreast data state state') (text : Option JsString) :
    Lockstep (Abreast data) (state.acceptContent text) (state'.acceptContent text) := by
  obtain ⟨hdata, progress, rfl⟩ := h
  cases text with
  | none => exact .ok ⟨hdata, progress, rfl⟩
  | some text => exact .rejectIf_bind (.ok ⟨hdata, progress, rfl⟩)

theorem acceptFinishReason_lockstep {data : List JsString} {state state' : SseState}
    (h : Abreast data state state') (reason : Option JsString) :
    Lockstep (Abreast data) (state.acceptFinishReason reason)
      (state'.acceptFinishReason reason) := by
  obtain ⟨hdata, progress, rfl⟩ := h
  cases reason with
  | none => exact .ok ⟨hdata, progress, rfl⟩
  | some reason => exact .rejectIf_bind (.ok ⟨hdata, progress, rfl⟩)

theorem acceptUsage_lockstep {data : List JsString} {state state' : SseState}
    (h : Abreast data state state') (usage : Option JsonValue) :
    Lockstep (Abreast data) (state.acceptUsage usage) (state'.acceptUsage usage) := by
  obtain ⟨hdata, progress, rfl⟩ := h
  cases usage with
  | none => exact .ok ⟨hdata, progress, rfl⟩
  | some usage =>
      simp only [SseState.acceptUsage]
      cases OpenAiUsageSchema.parse usage with
      | none => exact .error _
      | some value => exact .ok ⟨hdata, progress, rfl⟩

theorem acceptChunk_lockstep {data : List JsString} {state state' : SseState}
    (h : Abreast data state state') {chunk chunk' : OpenAiStreamChunk}
    (hparts : SameParts chunk chunk') :
    Lockstep (Abreast data) (state.acceptChunk chunk) (state'.acceptChunk chunk') := by
  rw [SseState.acceptChunk, SseState.acceptChunk, hparts.content, hparts.finishReason,
    hparts.usage]
  refine (acceptContent_lockstep h _).bind fun first first' hfirst => ?_
  refine (acceptFinishReason_lockstep hfirst _).bind fun second second' hsecond => ?_
  refine (acceptUsage_lockstep hsecond _).bind fun third third' hthird => ?_
  obtain ⟨hdata, progress, rfl⟩ := hthird
  exact .ok ⟨hdata, _, rfl⟩

theorem commitEvent_lockstep {blocks : EventBlocks} {state state' : SseState}
    (h : Abreast blocks.data state state')
    (halike : ∀ event ∈ blocks.commit.events, ReadAlike parse parse' event) :
    Lockstep (Abreast blocks.commit.data) (commitEvent parse state)
      (commitEvent parse' state') := by
  obtain ⟨hdata, progress, rfl⟩ := h
  simp only [commitEvent]
  by_cases hempty : blocks.data = []
  · rw [if_pos (hdata.trans hempty), if_pos (hdata.trans hempty), EventBlocks.commit,
      if_pos hempty]
    exact .ok ⟨hdata, progress, rfl⟩
  · rw [EventBlocks.commit, if_neg hempty] at halike
    rw [hdata, if_neg hempty, if_neg hempty, EventBlocks.commit, if_neg hempty]
    have hevent := halike (joinLines blocks.data) (by simp)
    by_cases hdone : joinLines blocks.data = js "[DONE]"
    · rw [if_pos hdone, if_pos hdone]
      exact .ok ⟨rfl, progress, rfl⟩
    · rw [if_neg hdone, if_neg hdone]
      refine .rejectIf_bind (.rejectIf_bind ?_)
      rw [ReadAlike] at hevent
      cases hread : parseEvent parse (joinLines blocks.data) with
      | none =>
          rw [hread] at hevent
          cases hread' : parseEvent parse' (joinLines blocks.data) with
          | none => exact .error _
          | some chunk' => rw [hread'] at hevent; cases hevent
      | some chunk =>
          rw [hread] at hevent
          cases hread' : parseEvent parse' (joinLines blocks.data) with
          | none => rw [hread'] at hevent; cases hevent
          | some chunk' =>
              rw [hread'] at hevent
              cases hevent with
              | some hparts =>
                  refine acceptChunk_lockstep ?_ hparts
                  exact ⟨rfl, progress, rfl⟩

theorem acceptLine_lockstep {blocks : EventBlocks} {state state' : SseState}
    {line : JsString} (h : Abreast blocks.data state state')
    (halike : ∀ event ∈ (blocks.push line).events, ReadAlike parse parse' event) :
    Lockstep (Abreast (blocks.push line).data) (acceptLine parse state line)
      (acceptLine parse' state' line) := by
  rw [acceptLine, acceptLine]
  rw [EventBlocks.push] at halike ⊢
  by_cases hempty : (stripReturn line).length = 0
  · simp only [if_pos hempty] at halike ⊢
    exact commitEvent_lockstep h halike
  · simp only [if_neg hempty]
    cases dataValue (stripReturn line) with
    | none => exact .ok h
    | some value =>
        obtain ⟨hdata, progress, rfl⟩ := h
        exact .rejectIf_bind (.ok ⟨by rw [hdata], progress, rfl⟩)

/-! ## Lines -/

theorem events_subset_commit (blocks : EventBlocks) :
    blocks.events ⊆ blocks.commit.events := by
  rw [EventBlocks.commit]
  split
  · exact List.Subset.refl _
  · exact List.subset_append_left _ _

theorem events_subset_push (blocks : EventBlocks) (line : JsString) :
    blocks.events ⊆ (blocks.push line).events := by
  simp only [EventBlocks.push]
  split
  · exact events_subset_commit blocks
  · split <;> exact List.Subset.refl _

theorem events_subset_foldl (more : List JsString) (blocks : EventBlocks) :
    blocks.events ⊆ (more.foldl EventBlocks.push blocks).events := by
  induction more generalizing blocks with
  | nil => exact List.Subset.refl _
  | cons line more ih => exact List.Subset.trans (events_subset_push blocks line) (ih _)

/-- The blocks of some lines. -/
def blocksOf (texts : List JsString) : EventBlocks := texts.foldl EventBlocks.push .start

theorem blocksOf_concat (texts : List JsString) (line : JsString) :
    blocksOf (texts ++ [line]) = (blocksOf texts).push line := by
  rw [blocksOf, List.foldl_append]
  rfl

theorem events_blocksOf_subset (front back : List JsString) :
    (blocksOf front).events ⊆ (blocksOf (front ++ back)).events := by
  rw [blocksOf, blocksOf, List.foldl_append]
  exact events_subset_foldl back _

theorem sseEvents_eq (text : JsString) : sseEvents text = (blocksOf (lines text)).commit.events :=
  rfl

/-- Some more lines of a text whose events are read alike. -/
theorem foldlM_acceptLine_lockstep {front more back : List JsString} {state state' : SseState}
    (h : Abreast (blocksOf front).data state state')
    (halike : ∀ event ∈ (blocksOf (front ++ more ++ back)).events, ReadAlike parse parse' event) :
    Lockstep (Abreast (blocksOf (front ++ more)).data) (more.foldlM (acceptLine parse) state)
      (more.foldlM (acceptLine parse') state') := by
  refine Lockstep.foldlM (R := fun texts => Abreast (blocksOf texts).data) front h ?_
  intro before line after state state' hmore habreast
  rw [blocksOf_concat]
  refine acceptLine_lockstep habreast fun event hevent => halike event ?_
  rw [← blocksOf_concat] at hevent
  have hsubset := events_blocksOf_subset (front ++ before ++ [line]) (after ++ back)
  have hwhole : front ++ before ++ [line] ++ (after ++ back) = front ++ more ++ back := by
    rw [hmore]
    simp
  rw [hwhole] at hsubset
  exact hsubset hevent

/-- What is left of a reader whose lines are accepted. -/
theorem commit_finish_lockstep {blocks : EventBlocks} {state state' : SseState}
    (h : Abreast blocks.data state state')
    (halike : ∀ event ∈ blocks.commit.events, ReadAlike parse parse' event) :
    state.finish parse [] = state'.finish parse' [] := by
  rw [SseState.finish, SseState.finish, if_pos List.length_nil, if_pos List.length_nil,
    except_ok_bind, except_ok_bind]
  refine Lockstep.eq ((commitEvent_lockstep h halike).bind fun final final' hfinal => ?_)
  obtain ⟨hdata, progress, rfl⟩ := hfinal
  exact .refl (fun _ => rfl) _

/-- The last line, and then the event that is still open. -/
theorem finish_lockstep {front : List JsString} {last : JsString} {state state' : SseState}
    (h : Abreast (blocksOf front).data state state')
    (halike : ∀ event ∈ (blocksOf (front ++ [last])).commit.events,
      ReadAlike parse parse' event) :
    state.finish parse last = state'.finish parse' last := by
  rw [blocksOf_concat] at halike
  by_cases hempty : last = []
  · subst hempty
    have hpush : (blocksOf front).push [] = (blocksOf front).commit := rfl
    rw [hpush, EventBlocks.commit_commit] at halike
    exact commit_finish_lockstep h halike
  · have hlength := mt List.length_eq_zero_iff.mp hempty
    rw [SseState.finish, SseState.finish, if_neg hlength, if_neg hlength]
    have hline := acceptLine_lockstep h fun event hevent =>
      halike event (events_subset_commit _ hevent)
    refine Lockstep.eq (hline.bind fun next next' hnext => ?_)
    refine (commitEvent_lockstep hnext halike).bind fun final final' hfinal => ?_
    obtain ⟨hdata, progress, rfl⟩ := hfinal
    exact .refl (fun _ => rfl) _

/-! ## Chunks -/

/-- Two readers of the same chunks, whose text so far ends in the pending line. -/
structure ReadersAbreast (chunks : List (List UInt8)) (reader reader' : SseReader) : Prop where
  decoder : reader'.decoder = reader.decoder
  bytesRead : reader'.bytesRead = reader.bytesRead
  pending : reader'.pending = reader.pending
  state : ∃ text front, TextDecoder.new.decode chunks.flatten = some (reader.decoder, text) ∧
    lines text = front ++ [reader.pending] ∧
    Abreast (blocksOf front).data reader.state reader'.state

theorem ReadersAbreast.start : ReadersAbreast [] .start .start :=
  ⟨rfl, rfl, rfl, [], [], rfl, lines_of_not_mem List.not_mem_nil, rfl, 0, rfl⟩

/-- The lines of a text that goes on are the complete ones of its start and more. -/
theorem exists_lines_more {text last : JsString} {front : List JsString}
    (h : lines text = front ++ [last]) (more : JsString) :
    ∃ back, lines (text ++ more) = front ++ back :=
  ⟨_, lines_append h more⟩

theorem ReadersAbreast.readChunk {maximumBytes : ℕ} {front back : List (List UInt8)}
    {chunk : List UInt8} {decoder : TextDecoder} {whole : JsString} {reader reader' : SseReader}
    (h : ReadersAbreast front reader reader')
    (hwhole : TextDecoder.new.decode (front ++ chunk :: back).flatten = some (decoder, whole))
    (halike : ∀ event ∈ sseEvents whole, ReadAlike parse parse' event) :
    Lockstep (ReadersAbreast (front ++ [chunk])) (reader.readChunk parse maximumBytes chunk)
      (reader'.readChunk parse' maximumBytes chunk) := by
  obtain ⟨hdecoder, hbytes, hpending, text, complete, hdecode, hlines, hstate⟩ := h
  rw [List.flatten_append, TextDecoder.decode_append, hdecode, Option.bind_some,
    Option.map_eq_some_iff] at hwhole
  obtain ⟨⟨final, others⟩, hothers, hpair⟩ := hwhole
  rw [Prod.mk.injEq] at hpair
  obtain ⟨rfl, rfl⟩ := hpair
  rw [List.flatten_cons, TextDecoder.decode_append] at hothers
  obtain ⟨⟨next, first⟩, hfirst, hothers⟩ := Option.bind_eq_some_iff.mp hothers
  obtain ⟨⟨final', rest⟩, hrest, hpair⟩ := Option.map_eq_some_iff.mp hothers
  rw [Prod.mk.injEq] at hpair
  obtain ⟨rfl, rfl⟩ := hpair
  obtain ⟨more, last, hmore⟩ := exists_lines_concat (reader.pending ++ first)
  have hall : lines (text ++ first) = (complete ++ more) ++ [last] := by
    rw [lines_append hlines, hmore, List.append_assoc]
  obtain ⟨after, hafter⟩ := exists_lines_more hall rest
  rw [SseReader.readChunk, SseReader.readChunk, hbytes]
  refine .rejectIf_bind ?_
  rw [hdecoder, hfirst]
  dsimp only
  have hread : SseReader.acceptText parse
      ⟨next, reader.bytesRead + chunk.length, reader.pending, reader.state⟩ first = _ :=
    acceptText_of_lines hmore
  have hread' : SseReader.acceptText parse'
      ⟨next, reader.bytesRead + chunk.length, reader'.pending, reader'.state⟩ first = _ :=
    acceptText_of_lines (hpending ▸ hmore)
  rw [hread, hread']
  have hevents : ∀ event ∈ (blocksOf (complete ++ more ++ after)).events,
      ReadAlike parse parse' event := by
    intro event hevent
    refine halike event ?_
    rw [sseEvents_eq, ← List.append_assoc, hafter]
    exact events_subset_commit _ hevent
  refine (foldlM_acceptLine_lockstep hstate hevents).bind fun state state' habreast => .rejectIf_bind (.ok ?_)
  refine ⟨rfl, rfl, rfl, text ++ first, complete ++ more, ?_, hall, habreast⟩
  rw [List.flatten_append, List.flatten_singleton, TextDecoder.decode_append, hdecode,
    Option.bind_some, hfirst, Option.map_some]

/-- On a body whose events are read alike the two readers have the same outcome. -/
theorem readSseBody_congr {maximumBytes : ℕ} {chunks : List (List UInt8)} {text : JsString}
    (hutf8 : Utf8Decoder.start.feed chunks.flatten = some (.start, text))
    (halike : ∀ event ∈ sseEvents (dropBom text), ReadAlike parse parse' event) :
    readSseBody parse maximumBytes chunks = readSseBody parse' maximumBytes chunks := by
  obtain ⟨decoder, hdecode, hflush⟩ := decode_valid hutf8
  refine Lockstep.eq (Lockstep.bind (R := ReadersAbreast chunks) ?_ ?_)
  · refine Lockstep.foldlM (R := ReadersAbreast) [] .start ?_
    intro front chunk back reader reader' hchunks habreast
    rw [hchunks] at hdecode
    exact habreast.readChunk hdecode halike
  · intro reader reader' habreast
    obtain ⟨hdecoder, hbytes, hpending, text', complete, hread, hlines, hstate⟩ := habreast
    rw [hread, Option.some.injEq, Prod.mk.injEq] at hdecode
    obtain ⟨rfl, rfl⟩ := hdecode
    have hrest : lines (reader.pending ++ []) = [] ++ [reader.pending] := by
      rw [List.append_nil, lines_of_not_mem (newline_not_mem_last hlines), List.nil_append]
    rw [SseReader.finish, SseReader.finish, hdecoder, hflush]
    dsimp only
    rw [acceptText_of_lines hrest, acceptText_of_lines (hpending ▸ hrest), List.foldlM_nil,
      List.foldlM_nil]
    rw [hpending]
    by_cases hlong : maxSseEventBytes < utf8Bytes reader.pending
    · simp only [rejectIf_of hlong, except_pure, except_ok_bind, except_error_bind]
      exact .error _
    · simp only [rejectIf_of_not hlong, except_pure, except_ok_bind]
      rw [finish_lockstep hstate (by rwa [← hlines, ← sseEvents_eq])]
      exact .refl (fun _ => rfl) _

theorem readChunk_bytesRead {maximumBytes : ℕ} {reader next : SseReader} {chunk : List UInt8}
    (h : reader.readChunk parse maximumBytes chunk = .ok next) :
    next.bytesRead = reader.bytesRead + chunk.length ∧ next.bytesRead ≤ maximumBytes := by
  obtain ⟨hle, h⟩ := rejectIf_bind_eq_ok.mp h
  cases hdecode : reader.decoder.decode chunk with
  | none => rw [hdecode] at h; cases h
  | some decoded =>
      rw [hdecode] at h
      obtain ⟨_, -, h⟩ := bind_eq_ok.mp h
      obtain ⟨-, h⟩ := rejectIf_bind_eq_ok.mp h
      cases h
      exact ⟨rfl, not_lt.mp hle⟩

theorem bytesRead_of_foldlM {maximumBytes : ℕ} {reader final : SseReader}
    {chunks : List (List UInt8)}
    (h : chunks.foldlM (SseReader.readChunk parse maximumBytes) reader = .ok final) :
    final.bytesRead = reader.bytesRead + chunks.flatten.length := by
  induction chunks generalizing reader with
  | nil =>
      cases h
      rfl
  | cons chunk chunks ih =>
      rw [List.foldlM_cons, bind_eq_ok] at h
      obtain ⟨next, hnext, h⟩ := h
      rw [ih h, (readChunk_bytesRead hnext).1, List.flatten_cons, List.length_append,
        Nat.add_assoc]

/-- A body that is longer than it may be is never read to its end. -/
theorem readSseBody_of_long {maximumBytes : ℕ} {chunks : List (List UInt8)}
    (h : maximumBytes < chunks.flatten.length) :
    ∃ e, readSseBody parse maximumBytes chunks = .error e := by
  cases hread : readSseBody parse maximumBytes chunks with
  | error e => exact ⟨e, rfl⟩
  | ok result =>
      obtain ⟨reader, hfold, -⟩ := bind_eq_ok.mp hread
      have hbytes := bytesRead_of_foldlM hfold
      have hle : reader.bytesRead ≤ maximumBytes :=
        foldlM_keeps (P := fun reader => reader.bytesRead ≤ maximumBytes)
          (fun before chunk after _ hstep => (readChunk_bytesRead hstep).2) (Nat.zero_le _) hfold
      rw [hbytes] at hle
      exact absurd h (not_lt.mpr (by simpa [SseReader.start] using hle))

/-! ## The two schemas -/

namespace HetznerSemantic

/-- The reasoning of a delta is a text, a null or absent. -/
def SharedChoice (choice : JsonValue) : Prop :=
  ∀ fields delta, choice = .obj fields → JsonValue.field? (js "delta") fields = some (.obj delta) →
    JsonValue.nullableString (JsonValue.field? (js "reasoning") delta) ≠ none

/-- The usage is not null and every choice is one of both schemas. -/
def SharedChunk (value : JsonValue) : Prop :=
  ∀ fields, value = .obj fields → JsonValue.field? (js "usage") fields ≠ some .null ∧
    ∀ items, JsonValue.field? (js "choices") fields = some (.arr items) →
      ∀ choice ∈ items, SharedChoice choice

/-- What the event stands for is a chunk of both schemas or none. -/
def SharedEvent (jsonParse : JsString → Option JsonValue) (event : JsString) : Prop :=
  ∀ value, jsonParse (dropBom event) = some value → SharedChunk value

/-- The judge's choice without its reasoning. -/
def dropReasoning (choice : Providers.StreamChoice) : StreamChoice :=
  ⟨⟨choice.delta.content⟩, choice.finishReason⟩

theorem choice_dropReasoning {choice : JsonValue} (h : SharedChoice choice) :
    (Providers.OpenAiStreamChunkSchema.choice choice).map dropReasoning =
      OpenAiStreamChunkSchema.choice choice := by
  cases choice with
  | obj fields =>
      rw [Providers.OpenAiStreamChunkSchema.choice, OpenAiStreamChunkSchema.choice]
      cases JsonValue.nullableString (JsonValue.field? (js "finish_reason") fields) with
      | none => rfl
      | some finishReason =>
          simp only [Option.bind_eq_bind, Option.bind_some]
          cases hdelta : JsonValue.field? (js "delta") fields with
          | none => rfl
          | some value =>
              cases value with
              | obj delta =>
                  have hreasoning := h fields delta rfl hdelta
                  obtain ⟨reasoning, hreasoning⟩ := Option.ne_none_iff_exists'.mp hreasoning
                  dsimp only
                  rw [hreasoning]
                  cases JsonValue.nullableString (JsonValue.field? (js "content") delta) <;> rfl
              | _ => rfl
  | _ => rfl

theorem mapM_choice_dropReasoning {items : List JsonValue}
    (h : ∀ choice ∈ items, SharedChoice choice) :
    (items.mapM Providers.OpenAiStreamChunkSchema.choice).map (List.map dropReasoning) =
      items.mapM OpenAiStreamChunkSchema.choice := by
  induction items with
  | nil => rfl
  | cons item items ih =>
      rw [List.mapM_cons, List.mapM_cons, ← choice_dropReasoning (h item List.mem_cons_self),
        ← ih fun choice hchoice => h choice (List.mem_cons_of_mem _ hchoice)]
      cases Providers.OpenAiStreamChunkSchema.choice item with
      | none => rfl
      | some choice =>
          cases items.mapM Providers.OpenAiStreamChunkSchema.choice <;> rfl

/-- On a value of both schemas the semantic schema reads the judge's chunk without
its reasoning. -/
theorem parse_dropReasoning {value : JsonValue} (h : SharedChunk value) :
    (Providers.OpenAiStreamChunkSchema.parse value).map
        (fun chunk => ⟨chunk.choices.map dropReasoning, chunk.usage⟩) =
      OpenAiStreamChunkSchema.parse value := by
  cases value with
  | obj fields =>
      obtain ⟨husage, hchoices⟩ := h fields rfl
      have hsame : Providers.OpenAiStreamChunkSchema.usage fields =
          JsonValue.field? (js "usage") fields := by
        rw [Providers.OpenAiStreamChunkSchema.usage]
        split
        · next heq => exact absurd heq husage
        · rfl
      rw [Providers.OpenAiStreamChunkSchema.parse, OpenAiStreamChunkSchema.parse]
      cases hitems : JsonValue.field? (js "choices") fields with
      | none => rfl
      | some items =>
          cases items with
          | arr items =>
              dsimp only
              by_cases hlength : items.length ≤ 8
              · rw [if_pos hlength, if_pos hlength, hsame,
                  ← mapM_choice_dropReasoning (hchoices items hitems)]
                cases items.mapM Providers.OpenAiStreamChunkSchema.choice <;> rfl
              · rw [if_neg hlength, if_neg hlength]
                rfl
          | _ => rfl
  | _ => rfl

theorem judge_usage_ne_null {value : JsonValue} {chunk : Providers.OpenAiStreamChunk}
    (h : Providers.OpenAiStreamChunkSchema.parse value = some chunk) :
    chunk.usage ≠ some .null := by
  cases value with
  | obj fields =>
      rw [Providers.OpenAiStreamChunkSchema.parse] at h
      split at h
      · obtain ⟨-, h⟩ := Option.ite_none_right_eq_some.mp h
        obtain ⟨choices, -, rfl⟩ := Option.map_eq_some_iff.mp h
        dsimp only [Providers.OpenAiStreamChunkSchema.usage]
        split
        · exact fun h => by cases h
        · next hne => exact hne
      · cases h
  | _ => cases h

/-- The judge's own chunk and the one that goes through the semantic schema. -/
theorem sameParts_judged {value : JsonValue} {chunk : Providers.OpenAiStreamChunk}
    (h : Providers.OpenAiStreamChunkSchema.parse value = some chunk) :
    SameParts (OpenAiStreamChunk.judged ⟨chunk.choices.map dropReasoning, chunk.usage⟩)
      chunk := by
  have hne := judge_usage_ne_null h
  obtain ⟨choices, usage⟩ := chunk
  refine ⟨by cases choices <;> rfl, by cases choices <;> rfl, ?_⟩
  rcases usage with - | usage
  · rfl
  · cases usage with
    | null => exact absurd rfl hne
    | _ => rfl

theorem readAlike_judgeParse {jsonParse : JsString → Option JsonValue} {event : JsString}
    (h : SharedEvent jsonParse event) : ReadAlike (judgeParse jsonParse) jsonParse event := by
  rw [ReadAlike, parseEvent_judgeParse, parseEvent, Providers.parseEvent]
  cases hparse : jsonParse (dropBom event) with
  | none => exact .none
  | some value =>
      rw [Option.bind_some, Option.bind_some, ← parse_dropReasoning (h value hparse)]
      cases hchunk : Providers.OpenAiStreamChunkSchema.parse value with
      | none => exact .none
      | some chunk => exact .some (sameParts_judged hchunk)

/-! ## The responses -/

/-- The semantic reader has one outcome for all ways of cutting a body but for the
size of an overlong line, never gets through a body that is too long, and has the
judge's outcome when the events are chunks of both schemas. -/
theorem readers_agree (jsonParse : JsString → Option JsonValue) (maximumBytes : ℕ)
    (contentType : Option JsString) (declaredLength : Option ℚ) {body : List UInt8}
    {text : JsString} (hutf8 : Utf8Decoder.start.feed body = some (.start, text))
    {chunks chunks' : List (List UInt8)} (hchunks : chunks.flatten = body)
    (hchunks' : chunks'.flatten = body) :
    let semantic := fun body => readBoundedSseResponse jsonParse maximumBytes
      ⟨contentType, declaredLength, some body⟩
    let judge := fun body => Providers.readBoundedSseResponse jsonParse maximumBytes
      ⟨contentType, declaredLength, some body⟩
    (body.length ≤ maximumBytes → semantic chunks = semantic chunks' ∨
        ¬ OverlongRejected (dropBom text) ∧ (semantic chunks = .error .responseTooLarge ∨
          semantic chunks' = .error .responseTooLarge)) ∧
      (maximumBytes < body.length →
        (∃ e, semantic chunks = .error e) ∧ ∃ e, judge chunks = .error e) ∧
      ((∀ event ∈ sseEvents (dropBom text), SharedEvent jsonParse event) →
        semantic chunks = judge chunks) := by
  intro semantic judge
  have hsemantic : ∀ chunks, semantic chunks = Providers.readBoundedSseResponse
      (judgeParse jsonParse) maximumBytes ⟨contentType, declaredLength, some chunks⟩ :=
    fun chunks => readBoundedSseResponse_eq jsonParse maximumBytes _
  rcases readBoundedSseResponse_head maximumBytes contentType declaredLength with
    ⟨e, hread⟩ | hread
  · have herror : ∀ chunks, semantic chunks = .error e :=
      fun chunks => (hsemantic chunks).trans (hread _ _)
    have herror' : ∀ chunks, judge chunks = .error e := fun chunks => hread _ _
    refine ⟨fun _ => .inl ?_, fun _ => ⟨⟨e, herror _⟩, e, herror' _⟩, fun _ => ?_⟩
    · rw [herror, herror]
    · rw [herror, herror']
  · have hbody : ∀ chunks, semantic chunks =
        Providers.readSseBody (judgeParse jsonParse) maximumBytes chunks :=
      fun chunks => (hsemantic chunks).trans (hread _ _)
    have hbody' : ∀ chunks, judge chunks =
        Providers.readSseBody jsonParse maximumBytes chunks := fun chunks => hread _ _
    rw [hbody, hbody, hbody']
    refine ⟨fun hle => readSseBody_chunking hutf8 hle hchunks hchunks', fun hlong => ?_,
      fun hshared => ?_⟩
    · exact ⟨readSseBody_of_long (hchunks ▸ hlong), readSseBody_of_long (hchunks ▸ hlong)⟩
    · exact readSseBody_congr (hchunks ▸ hutf8) fun event hevent =>
        readAlike_judgeParse (hshared event hevent)

theorem sharedEvent_sampleParse (event : JsString) : SharedEvent sampleParse event := by
  intro value h
  obtain ⟨-, h⟩ := Option.ite_none_right_eq_some.mp h
  cases h
  intro fields hfields
  cases hfields
  refine ⟨nofun, fun items hitems choice hchoice => ?_⟩
  cases hitems
  rw [List.mem_singleton] at hchoice
  subst hchoice
  intro fields delta hfields hdelta
  cases hfields
  cases hdelta
  decide

theorem readers_agree_sample :
    let semantic := fun body => readBoundedSseResponse sampleParse (4 * 1024 * 1024)
      ⟨some (js "text/event-stream"), none, some body⟩
    let judge := fun body => Providers.readBoundedSseResponse sampleParse (4 * 1024 * 1024)
      ⟨some (js "text/event-stream"), none, some body⟩
    (semantic sampleChunks = semantic [utf8Encode sampleText] ∨
        ¬ OverlongRejected (dropBom sampleText) ∧
          (semantic sampleChunks = .error .responseTooLarge ∨
            semantic [utf8Encode sampleText] = .error .responseTooLarge)) ∧
      semantic sampleChunks = judge sampleChunks :=
  have hagree := @readers_agree sampleParse (4 * 1024 * 1024) (some (js "text/event-stream"))
    none (utf8Encode sampleText) sampleText (by decide) sampleChunks
    [utf8Encode sampleText] (by decide) (by decide)
  ⟨hagree.1 (by decide), hagree.2.2 fun event _ => sharedEvent_sampleParse event⟩

/-! ## A null usage -/

/-- The sample chunk with a null usage. -/
def nullUsageChunk : JsonValue :=
  .obj [(js "choices", .arr [.obj [(js "delta", .obj [(js "content", .str [0xe9])]),
    (js "finish_reason", .str (js "stop"))]]), (js "usage", .null)]

def nullUsageData : JsString :=
  js "\x7b\"choices\":[\x7b\"delta\":\x7b\"content\":\"" ++ [0xe9] ++
    js "\"\x7d,\"finish_reason\":\"stop\"\x7d],\"usage\":null\x7d"

/-- `JSON.parse` on the data of the sample. -/
def nullUsageParse (data : JsString) : Option JsonValue :=
  if data = nullUsageData then some nullUsageChunk else none

def nullUsageText : JsString :=
  js "data: " ++ nullUsageData ++ js "\n\ndata: [DONE]\n\n"

/-- Two ways of cutting a comment line have different outcomes for the semantic reader,
and a null usage is malformed for it alone. -/
theorem readers_disagree :
    let read := fun parse body => readBoundedSseResponse parse (4 * 1024 * 1024)
      ⟨some (js "text/event-stream"), none, some body⟩
    let judge := fun parse body => Providers.readBoundedSseResponse parse (4 * 1024 * 1024)
      ⟨some (js "text/event-stream"), none, some body⟩
    (read sampleParse [commentBytes maxSseEventBytes ++ [0x0a]] = .error .malformedResponse ∧
        read sampleParse [commentBytes maxSseEventBytes, [0x0a]] = .error .responseTooLarge) ∧
      read nullUsageParse [utf8Encode nullUsageText] = .error .malformedResponse ∧
        judge nullUsageParse [utf8Encode nullUsageText] =
          .ok ⟨some [0xe9], js "stop", none⟩ := by
  have hutf8 : Utf8Decoder.start.feed (utf8Encode nullUsageText) =
      some (.start, nullUsageText) := by decide +kernel
  have hle : (utf8Encode nullUsageText).length ≤ 4 * 1024 * 1024 := by decide
  refine ⟨?_, ?_, ?_⟩
  · obtain ⟨-, hwhole, hcut⟩ := read_commentLine (judgeParse sampleParse)
    dsimp only
    rw [readBoundedSseResponse_eq, readBoundedSseResponse_eq]
    exact ⟨hwhole, hcut⟩
  · dsimp only
    rw [readBoundedSseResponse_eq, readBoundedSseResponse_eventStream,
      readSseBody_singleton hutf8 hle]
    decide
  · dsimp only
    rw [readBoundedSseResponse_eventStream, readSseBody_singleton hutf8 hle]
    decide

end HetznerSemantic

end Providers

end UnderstandProof
