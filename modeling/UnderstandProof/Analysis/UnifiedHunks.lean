import UnderstandProof.Analysis.PatchHunks

/-!
# Counting the lines of unified hunks

A `UnifiedHunk` is a hunk of a unified diff whose header gives the number of lines
of its two sides. The parsers see every hunk of a patch made of such hunks; they
count its lines exactly when no line of it looks like a file header.
-/

open Foundation Foundation.JsString

namespace UnderstandProof

namespace Analysis

/-! ## Reading the header -/

theorem skip_append (text rest : JsString) : skip text (text ++ rest) = some rest := by
  have hprefix : text.isPrefixOf (text ++ rest) = true :=
    List.isPrefixOf_iff_prefix.mpr (List.prefix_append _ _)
  simp [skip, startsWith, hprefix]

theorem digits_decimal_append (n : ℕ) {rest : JsString} (hrest : Json.Delimited rest) :
    digits (decimal n ++ rest) = some (decimal n, rest) := by
  have hdigit : ∀ c ∈ decimal n, Json.isDigit c = true :=
    fun c hc => Json.isDigit_of_mem_decimal hc
  have htake : rest.takeWhile Json.isDigit = [] ∧ rest.dropWhile Json.isDigit = rest := by
    cases rest with
    | nil => exact ⟨rfl, rfl⟩
    | cons c rest =>
        have hc : Json.isDigit c = false := hrest c rfl
        exact ⟨List.takeWhile_cons_of_neg (by simp [hc]),
          List.dropWhile_cons_of_neg (by simp [hc])⟩
  rw [digits, List.takeWhile_append_of_pos hdigit, List.dropWhile_append_of_pos hdigit,
    htake.1, htake.2, List.append_nil, if_neg (Json.decimal_ne_nil n)]

theorem optionalCount_append (n : ℕ) {rest : JsString} (hrest : Json.Delimited rest) :
    optionalCount (js "," ++ (decimal n ++ rest)) = rest := by
  rw [optionalCount, skip_append, Option.bind_some, digits_decimal_append n hrest]

/-! ## The hunks -/

inductive LineKind where
  | context
  | added
  | removed
  | note
  deriving DecidableEq, Repr

/-- The first character of the line; a note is a line that starts with a backslash. -/
def LineKind.mark : LineKind → UInt16
  | context => 0x20
  | added => 0x2b
  | removed => 0x2d
  | note => 0x5c

/-- A line of a hunk, without its first character. -/
structure BodyLine where
  kind : LineKind
  text : JsString
  newline_not_mem : newline ∉ text
  deriving DecidableEq, Repr

def BodyLine.line (l : BodyLine) : JsString := l.kind.mark :: l.text

structure UnifiedHunk where
  oldStart : ℕ
  oldLines : ℕ
  newStart : ℕ
  newLines : ℕ
  heading : JsString
  body : List BodyLine
  heading_single : ∀ c ∈ heading, isLineTerminator c = false
  oldLines_eq : oldLines = body.countP fun l => l.kind = .context ∨ l.kind = .removed
  newLines_eq : newLines = body.countP fun l => l.kind = .context ∨ l.kind = .added
  deriving Repr

namespace UnifiedHunk

/-- `@@ -a,b +c,d @@`, and what follows it on its line. -/
def header (h : UnifiedHunk) : JsString :=
  js "@@ -" ++ (decimal h.oldStart ++ (js "," ++ (decimal h.oldLines ++
    (js " +" ++ (decimal h.newStart ++ (js "," ++ (decimal h.newLines ++
      (js " @@" ++ h.heading))))))))

def added (h : UnifiedHunk) : ℕ := h.body.countP fun l => l.kind = .added

def removed (h : UnifiedHunk) : ℕ := h.body.countP fun l => l.kind = .removed

/-- The source lines that the hunk adds or removes, in its order. -/
def sourceLines (h : UnifiedHunk) : List JsString :=
  (h.body.filter fun l => l.kind = .added ∨ l.kind = .removed).map fun l => l.text

/-- No line of the hunk looks like a file header. -/
def NoFileHeader (h : UnifiedHunk) : Prop :=
  ∀ l ∈ h.body, startsWith (js "+++") l.line = false ∧ startsWith (js "---") l.line = false

instance (h : UnifiedHunk) : Decidable h.NoFileHeader :=
  inferInstanceAs (Decidable (∀ l ∈ h.body, _))

end UnifiedHunk

/-- The text of a patch. -/
def patchText (hunks : List UnifiedHunk) : JsString :=
  joinLines (SectionReader.joined UnifiedHunk.header (fun h => h.body.map BodyLine.line) hunks)

theorem matchHunkHeader_header (h : UnifiedHunk) :
    matchHunkHeader h.header = some (decimal h.oldStart, decimal h.newStart) := by
  have hcomma : ∀ rest, Json.Delimited (js "," ++ rest) := by
    rintro rest c ⟨⟩
    decide
  have hplus : ∀ rest, Json.Delimited (js " +" ++ rest) := by
    rintro rest c ⟨⟩
    decide
  have hat : ∀ rest, Json.Delimited (js " @@" ++ rest) := by
    rintro rest c ⟨⟩
    decide
  have hheading : h.heading.any isLineTerminator = false := by
    simpa [List.any_eq_false] using h.heading_single
  simp only [matchHunkHeader, UnifiedHunk.header, skip_append,
    digits_decimal_append _ (hcomma _), optionalCount_append _ (hplus _),
    optionalCount_append _ (hat _), Option.bind_eq_bind, Option.bind_some, hheading,
    Bool.false_eq_true, if_false]

theorem matchHunkHeader_line (l : BodyLine) : matchHunkHeader l.line = none := by
  have hmark : startsWith (js "@@ -") l.line = false := by
    cases l with
    | mk kind text _ => cases kind <;> rfl
  simp [matchHunkHeader, skip, hmark]

theorem newline_not_mem_header (h : UnifiedHunk) : newline ∉ h.header := by
  have hdecimal : ∀ n, newline ∉ decimal n := by
    intro n hmem
    have := Json.isDigit_of_mem_decimal hmem
    exact absurd this (by decide)
  have hheading : newline ∉ h.heading := by
    intro hmem
    exact absurd (h.heading_single _ hmem) (by decide)
  have hfixed : newline ∉ js "@@ -" ∧ newline ∉ js "," ∧ newline ∉ js " +" ∧
      newline ∉ js " @@" := by decide
  simp only [UnifiedHunk.header, List.mem_append, not_or]
  exact ⟨hfixed.1, hdecimal _, hfixed.2.1, hdecimal _, hfixed.2.2.1, hdecimal _, hfixed.2.1,
    hdecimal _, hfixed.2.2.2, hheading⟩

theorem newline_not_mem_line (l : BodyLine) : newline ∉ l.line := by
  have hmark : newline ≠ l.kind.mark := by cases l.kind <;> decide
  rw [BodyLine.line, List.mem_cons, not_or]
  exact ⟨hmark, l.newline_not_mem⟩

/-- A reader that opens a section at the hunk headers emits one for each hunk. -/
theorem run_patchText {σ β : Type} {reader : SectionReader JsString σ β}
    {first : UnifiedHunk → σ} (hstart : ∀ h, reader.start h.header = some (first h))
    (hnone : ∀ line, matchHunkHeader line = none → reader.start line = none)
    (hunks : List UnifiedHunk) (out : β) :
    reader.run out (lines (patchText hunks)) = hunks.foldl (fun out h =>
      reader.emit out ((h.body.map BodyLine.line).foldl reader.add (first h))) out := by
  cases hunks with
  | nil =>
      have hempty : reader.start [] = none := hnone [] rfl
      have hlines : lines (patchText []) = [[]] := rfl
      rw [hlines, SectionReader.run, List.foldl_cons, SectionReader.step, hempty]
      rfl
  | cons h hunks =>
      have hlines : lines (patchText (h :: hunks)) = SectionReader.joined
          UnifiedHunk.header (fun h => h.body.map BodyLine.line) (h :: hunks) := by
        refine lines_joinLines ?_ (List.cons_ne_nil _ _)
        intro line hline
        obtain ⟨h, -, hline⟩ := List.mem_flatMap.mp hline
        rcases List.mem_cons.mp hline with rfl | hline
        · exact newline_not_mem_header h
        · obtain ⟨l, -, rfl⟩ := List.mem_map.mp hline
          exact newline_not_mem_line l
      rw [hlines]
      refine SectionReader.run_joined (fun h _ => hstart h) ?_ out
      rintro h - line hline
      obtain ⟨l, -, rfl⟩ := List.mem_map.mp hline
      exact hnone _ (matchHunkHeader_line l)

/-! ## What the parsers return -/

/-- The entry of a hunk. -/
def hunkEntry (h : UnifiedHunk) : PatchHunk where
  content := joinLines (h.header :: h.body.map BodyLine.line)
  byteLength := utf8Bytes (joinLines (h.header :: h.body.map BodyLine.line))
  additions := ((h.body.map BodyLine.line).filter isAddition).length
  deletions := ((h.body.map BodyLine.line).filter isDeletion).length
  header := h.header
  oldStart := number (decimal h.oldStart)
  newStart := number (decimal h.newStart)
  changedLines := ((h.body.map BodyLine.line).filter
    fun line => isAddition line || isDeletion line).map fun line => line.drop 1

theorem foldl_append_singleton {α : Type} (first : List α) (l : List α) :
    l.foldl (fun current a => current ++ [a]) first = first ++ l := by
  rw [List.foldl_append_eq_append, ← List.flatMap_def, List.flatMap_singleton']

theorem pushHunk_hunk (out : List PatchHunk) (h : UnifiedHunk) :
    pushHunk out (h.header :: h.body.map BodyLine.line) = out ++ [hunkEntry h] := by
  simp only [pushHunk, List.headD_cons, matchHunkHeader_header]
  rfl

theorem parsePatchHunks_patchText (hunks : List UnifiedHunk) :
    parsePatchHunks (patchText hunks) = hunks.map hunkEntry := by
  have hrun := @run_patchText _ _ hunkReader (fun h => [h.header])
    (fun h => by simp [hunkReader, matchHunkHeader_header])
    (fun line hline => by simp [hunkReader, hline]) hunks []
  have hemit : (fun out (h : UnifiedHunk) => hunkReader.emit out
      ((h.body.map BodyLine.line).foldl hunkReader.add [h.header])) =
      fun out h => out ++ [hunkEntry h] := by
    funext out h
    have hadd : (h.body.map BodyLine.line).foldl hunkReader.add [h.header] =
        h.header :: h.body.map BodyLine.line := foldl_append_singleton _ _
    rw [hadd]
    exact pushHunk_hunk out h
  rw [parsePatchHunks, hrun, hemit, List.foldl_append_eq_append, List.nil_append,
    ← List.flatMap_def, List.map_eq_flatMap]

/-- The changed lines that `parseAnchors` keeps of a hunk. -/
def anchoredLines (h : UnifiedHunk) : List JsString :=
  ((h.body.map BodyLine.line).filter fun line => isAddition line || isDeletion line).map
    fun line => line.drop 1

theorem foldl_anchorReader_add (path : JsString) (index : ℕ) (body : List JsString)
    (current : OpenAnchor) :
    body.foldl (anchorReader path index).add current = { current with
      changed := current.changed ++
        (body.filter fun line => isAddition line || isDeletion line).map
          fun line => line.drop 1 } := by
  induction body generalizing current with
  | nil => simp
  | cons line body ih =>
      have hadd : (anchorReader path index).add current line =
          if isAddition line || isDeletion line then
            { current with changed := current.changed ++ [line.drop 1] }
          else current := rfl
      rw [List.foldl_cons, ih, hadd]
      by_cases hline : (isAddition line || isDeletion line) = true
      · simp only [List.filter_cons, if_pos hline, List.map_cons, List.append_assoc,
          List.singleton_append]
      · simp only [List.filter_cons, if_neg hline]

/-- The anchors of a patch: one for each hunk of which a changed line is kept. -/
theorem parseAnchors_patchText (hunks : List UnifiedHunk) (path : JsString) (index : ℕ) :
    ((parseAnchors { path, kind := .text, patch := some (patchText hunks) } index).map
      fun anchor => (anchor.hunkHeader, anchor.changedLines)) =
    (hunks.filter fun h => (anchoredLines h).length ≠ 0).map
      fun h => (h.header.take 500, (anchoredLines h).length) := by
  have hrun := @run_patchText _ _ (anchorReader path index)
    (fun h => {
      header := h.header, oldStart := number (decimal h.oldStart)
      newStart := number (decimal h.newStart), changed := [] })
    (fun h => by simp [anchorReader, matchHunkHeader_header])
    (fun line hline => by simp [anchorReader, hline]) hunks []
  change ((anchorReader path index).run [] (lines (patchText hunks))).map _ = _
  rw [hrun]
  have hfold : ∀ out : List DiffAnchor, ((hunks.foldl (fun out h =>
      (anchorReader path index).emit out
        ((h.body.map BodyLine.line).foldl (anchorReader path index).add {
          header := h.header, oldStart := number (decimal h.oldStart)
          newStart := number (decimal h.newStart), changed := [] })) out).map
        fun anchor => (anchor.hunkHeader, anchor.changedLines)) =
      (out.map fun anchor => (anchor.hunkHeader, anchor.changedLines)) ++
        (hunks.filter fun h => (anchoredLines h).length ≠ 0).map
          fun h => (h.header.take 500, (anchoredLines h).length) := by
    clear hrun
    induction hunks with
    | nil => simp
    | cons h hunks ih =>
        intro out
        rw [List.foldl_cons, ih, foldl_anchorReader_add, List.nil_append]
        change (List.map _ (pushAnchor path index out _)) ++ _ = _
        by_cases hempty : (anchoredLines h).length = 0
        · have hlines : (((h.body.map BodyLine.line).filter
              fun line => isAddition line || isDeletion line).map
                fun line => line.drop 1).length = 0 := hempty
          rw [pushAnchor, if_pos hlines, List.filter_cons_of_neg (by simp [hempty])]
        · have hlines : ¬ (((h.body.map BodyLine.line).filter
              fun line => isAddition line || isDeletion line).map
                fun line => line.drop 1).length = 0 := hempty
          rw [pushAnchor, if_neg hlines, List.filter_cons_of_pos (by simp [hempty])]
          simp [anchoredLines]
  simpa using hfold []

/-! ## When the counts are right -/

/-- The entry of a hunk counts its lines and keeps every source line. -/
structure EntryCounts (h : UnifiedHunk) (entry : PatchHunk) : Prop where
  header : entry.header = h.header
  additions : entry.additions = h.added
  deletions : entry.deletions = h.removed
  difference : (entry.additions : ℤ) - entry.deletions = h.newLines - h.oldLines
  changedLines : entry.changedLines = h.sourceLines

/-- The counts that the parsers give for the hunks of a patch. -/
structure CountedExactly (hunks : List UnifiedHunk) : Prop where
  entries : List.Forall₂ EntryCounts hunks (parsePatchHunks (patchText hunks))
  anchors : ∀ path index,
    ((parseAnchors { path, kind := .text, patch := some (patchText hunks) } index).map
      fun anchor => (anchor.hunkHeader, anchor.changedLines)) =
    (hunks.filter fun h => h.added + h.removed ≠ 0).map
      fun h => (h.header.take 500, h.added + h.removed)

theorem isAddition_line (l : BodyLine) :
    isAddition l.line = (decide (l.kind = .added) && !startsWith (js "+++") l.line) := by
  cases l with
  | mk kind text _ => cases kind <;> rfl

theorem isDeletion_line (l : BodyLine) :
    isDeletion l.line = (decide (l.kind = .removed) && !startsWith (js "---") l.line) := by
  cases l with
  | mk kind text _ => cases kind <;> rfl

/-- A test with an exception counts as much as the test when nothing is excepted. -/
theorem countP_and_not_eq_iff {α : Type} (p q : α → Bool) (l : List α) :
    l.countP (fun a => p a && !q a) = l.countP p ↔ ∀ a ∈ l, p a = true → q a = false := by
  have hcount : l.countP (fun a => p a && !q a) = (l.filter p).countP fun a => !q a := by
    rw [List.countP_filter]
    exact List.countP_congr fun a _ => by simp [and_comm]
  rw [hcount, List.countP_eq_length_filter (l := l), List.countP_eq_length]
  simp

theorem additions_eq_iff (h : UnifiedHunk) : (hunkEntry h).additions = h.added ↔
    ∀ l ∈ h.body, l.kind = .added → startsWith (js "+++") l.line = false := by
  have hadditions : (hunkEntry h).additions = h.body.countP fun l =>
      decide (l.kind = .added) && !startsWith (js "+++") l.line := by
    change ((h.body.map BodyLine.line).filter isAddition).length = _
    rw [← List.countP_eq_length_filter, List.countP_map]
    exact List.countP_congr fun l _ => by rw [Function.comp_apply, isAddition_line]
  rw [hadditions, UnifiedHunk.added, countP_and_not_eq_iff]
  simp

theorem deletions_eq_iff (h : UnifiedHunk) : (hunkEntry h).deletions = h.removed ↔
    ∀ l ∈ h.body, l.kind = .removed → startsWith (js "---") l.line = false := by
  have hdeletions : (hunkEntry h).deletions = h.body.countP fun l =>
      decide (l.kind = .removed) && !startsWith (js "---") l.line := by
    change ((h.body.map BodyLine.line).filter isDeletion).length = _
    rw [← List.countP_eq_length_filter, List.countP_map]
    exact List.countP_congr fun l _ => by rw [Function.comp_apply, isDeletion_line]
  rw [hdeletions, UnifiedHunk.removed, countP_and_not_eq_iff]
  simp

theorem noFileHeader_iff (h : UnifiedHunk) : h.NoFileHeader ↔
    (hunkEntry h).additions = h.added ∧ (hunkEntry h).deletions = h.removed := by
  rw [additions_eq_iff, deletions_eq_iff]
  constructor
  · intro hclean
    exact ⟨fun l hl _ => (hclean l hl).1, fun l hl _ => (hclean l hl).2⟩
  · rintro ⟨hadded, hremoved⟩ l hl
    have hplus : l.kind ≠ .added → startsWith (js "+++") l.line = false := by
      cases l with
      | mk kind text _ => cases kind <;> simp [BodyLine.line, LineKind.mark, startsWith] <;> rfl
    have hminus : l.kind ≠ .removed → startsWith (js "---") l.line = false := by
      cases l with
      | mk kind text _ => cases kind <;> simp [BodyLine.line, LineKind.mark, startsWith] <;> rfl
    exact ⟨(em (l.kind = .added)).elim (hadded l hl) hplus,
      (em (l.kind = .removed)).elim (hremoved l hl) hminus⟩

theorem countP_kind_or {k k' : LineKind} (hne : k ≠ k') (body : List BodyLine) :
    (body.countP fun l => l.kind = k ∨ l.kind = k') =
      (body.countP fun l => l.kind = k) + body.countP fun l => l.kind = k' := by
  induction body with
  | nil => rfl
  | cons l body ih =>
      simp only [List.countP_cons, ih, decide_eq_true_eq]
      by_cases hk : l.kind = k
      · have hk' : l.kind ≠ k' := fun h => hne (hk.symm.trans h)
        simp only [hk, hk.symm ▸ hk', if_true, if_false, or_false]
        omega
      · simp only [hk, false_or, if_false]
        omega

/-- The two sides of a hunk differ by the lines it adds and removes. -/
theorem added_sub_removed (h : UnifiedHunk) :
    (h.added : ℤ) - h.removed = h.newLines - h.oldLines := by
  have hold := h.oldLines_eq
  have hnew := h.newLines_eq
  rw [countP_kind_or (by decide)] at hold hnew
  unfold UnifiedHunk.added UnifiedHunk.removed
  omega

theorem anchoredLines_of_noFileHeader {h : UnifiedHunk} (hclean : h.NoFileHeader) :
    anchoredLines h = h.sourceLines := by
  have hfilter : h.body.filter ((fun line => isAddition line || isDeletion line) ∘
      BodyLine.line) = h.body.filter fun l => l.kind = .added ∨ l.kind = .removed := by
    refine List.filter_congr fun l hl => ?_
    rw [Function.comp_apply, isAddition_line, isDeletion_line, (hclean l hl).1,
      (hclean l hl).2]
    simp
  rw [anchoredLines, List.filter_map, hfilter, List.map_map]
  rfl

theorem length_sourceLines (h : UnifiedHunk) : h.sourceLines.length = h.added + h.removed := by
  rw [UnifiedHunk.sourceLines, List.length_map, ← List.countP_eq_length_filter,
    countP_kind_or (by decide)]
  rfl

theorem entryCounts_of_noFileHeader {h : UnifiedHunk} (hclean : h.NoFileHeader) :
    EntryCounts h (hunkEntry h) := by
  obtain ⟨hadditions, hdeletions⟩ := (noFileHeader_iff h).mp hclean
  exact {
    header := rfl
    additions := hadditions
    deletions := hdeletions
    difference := by rw [hadditions, hdeletions, added_sub_removed]
    changedLines := anchoredLines_of_noFileHeader hclean }

/-- The parsers count the lines of the hunks of a patch if and only if none of
those lines looks like a file header. -/
theorem countedExactly_iff_noFileHeader (hunks : List UnifiedHunk) :
    CountedExactly hunks ↔ ∀ h ∈ hunks, h.NoFileHeader := by
  constructor
  · rintro ⟨hentries, -⟩ h hh
    rw [parsePatchHunks_patchText, List.forall₂_map_right_iff, List.forall₂_same] at hentries
    exact (noFileHeader_iff h).mpr ⟨(hentries h hh).additions, (hentries h hh).deletions⟩
  · intro hclean
    refine { entries := ?_, anchors := fun path index => ?_ }
    · rw [parsePatchHunks_patchText, List.forall₂_map_right_iff, List.forall₂_same]
      exact fun h hh => entryCounts_of_noFileHeader (hclean h hh)
    · have hlength : ∀ h ∈ hunks, (anchoredLines h).length = h.added + h.removed :=
        fun h hh => by rw [anchoredLines_of_noFileHeader (hclean h hh), length_sourceLines]
      rw [parseAnchors_patchText]
      have hfilter : (hunks.filter fun h => (anchoredLines h).length ≠ 0) =
          hunks.filter fun h => h.added + h.removed ≠ 0 :=
        List.filter_congr fun h hh => by rw [hlength h hh]
      rw [hfilter]
      exact List.map_congr_left fun h hh => by rw [hlength h (List.mem_of_mem_filter hh)]

/-- A hunk that removes the line `-- old` of a query. -/
def sampleHunk : UnifiedHunk where
  oldStart := 1
  oldLines := 2
  newStart := 1
  newLines := 1
  heading := []
  body := [⟨.context, js "select 1;", by decide⟩, ⟨.removed, js "-- old", by decide⟩]
  heading_single := nofun
  oldLines_eq := by decide
  newLines_eq := by decide

theorem removed_comment_is_lost :
    patchText [sampleHunk] = js "@@ -1,2 +1,1 @@\n select 1;\n--- old" ∧
      (parsePatchHunks (patchText [sampleHunk])).map (fun entry => entry.deletions) = [0] ∧
      sampleHunk.removed = 1 ∧
      parseAnchors { path := js "a.sql", kind := .text, patch := some (patchText [sampleHunk]) } 0
        = [] ∧
      ¬ CountedExactly [sampleHunk] := by
  have hentries : (parsePatchHunks (patchText [sampleHunk])).map
      (fun entry => entry.deletions) = [0] := by decide
  refine ⟨by decide, hentries, by decide, by decide, fun h => ?_⟩
  have hentry := h.entries
  rw [parsePatchHunks_patchText] at hentry hentries
  have hdeletions : (hunkEntry sampleHunk).deletions = sampleHunk.removed :=
    (List.forall₂_cons.mp hentry).1.deletions
  rw [List.map_singleton, List.map_singleton, hdeletions] at hentries
  cases hentries

end Analysis

end UnderstandProof
