import UnderstandProof.Providers.JsonExtraction
import UnderstandProof.Providers.SemanticRequest

/-!
# The JSON value of a semantic model text

The semantic provider is asked for one JSON value, and its text is searched for an object or an
array: as the whole text, within a code fence, and last between anything else, by a scanner with a
stack of the braces and brackets that are open.

The scanner passes over every rendered value, so it cuts each object and array of the text where the
grammar ends it.
-/

open Foundation Foundation.JsString Foundation.JsonGrammar

namespace UnderstandProof

namespace Providers

namespace HetznerSemantic

/-! ## The search -/

def isOpening (c : UInt16) : Bool := c == 0x7b || c == 0x5b

def isClosing (c : UInt16) : Bool := c == 0x7d || c == 0x5d

/-- The unit that a closing one closes. -/
def expectedOpening (character : UInt16) : UInt16 := if character = 0x7d then 0x7b else 0x5b

/-- The text up to the unit that empties the stack, and what is behind it. -/
def scanCandidate : List UInt16 → Bool → Bool → JsString → Option (JsString × JsString)
  | _, _, _, [] => none
  | stack, inString, escaped, character :: rest =>
      let keep := Option.map fun cut : JsString × JsString => (character :: cut.1, cut.2)
      if inString then
        if escaped then keep (scanCandidate stack true false rest)
        else if character = 0x5c then keep (scanCandidate stack true true rest)
        else if character = 0x22 then keep (scanCandidate stack false false rest)
        else keep (scanCandidate stack true false rest)
      else if character = 0x22 then keep (scanCandidate stack true false rest)
      else if isOpening character then keep (scanCandidate (character :: stack) false false rest)
      else if !isClosing character then keep (scanCandidate stack false false rest)
      else match stack with
        | [] => none
        | opening :: outer =>
            if opening ≠ expectedOpening character then none
            else if outer = [] then some ([character], rest)
            else keep (scanCandidate outer false false rest)

/-- The candidate behind an opening unit. -/
def balancedJsonCandidate (opening : UInt16) (rest : JsString) : Option (JsString × JsString) :=
  scanCandidate [opening] false false rest

theorem scanCandidate_append {stack : List UInt16} {inString escaped : Bool} {text : JsString}
    {cut : JsString × JsString} (h : scanCandidate stack inString escaped text = some cut) :
    text = cut.1 ++ cut.2 := by
  induction text generalizing stack inString escaped cut with
  | nil => exact nomatch h
  | cons character rest ih =>
      have hkeep {stack : List UInt16} {inString escaped : Bool}
          (hmap : ((scanCandidate stack inString escaped rest).map
            fun inner => (character :: inner.1, inner.2)) = some cut) :
          character :: rest = cut.1 ++ cut.2 := by
        obtain ⟨inner, hinner, rfl⟩ := Option.map_eq_some_iff.mp hmap
        rw [ih hinner, List.cons_append]
      unfold scanCandidate at h
      dsimp only at h
      split at h
      · split_ifs at h <;> exact hkeep h
      · split at h
        · exact hkeep h
        · split at h
          · exact hkeep h
          · split at h
            · exact hkeep h
            · split at h
              · cases h
              · split_ifs at h
                · cases h
                  rfl
                · exact hkeep h

section Search

variable (round : JsString → Option ℚ)

/-- The embedded values of a text, one behind the other. -/
def collectEmbedded : JsString → List JsonValue
  | [] => []
  | first :: rest =>
      if isOpening first then
        match hcut : balancedJsonCandidate first rest with
        | none => collectEmbedded rest
        | some (inner, behind) =>
            match parse round (first :: inner) with
            | none => collectEmbedded rest
            | some parsed =>
                have : behind.length ≤ rest.length := by
                  rw [scanCandidate_append hcut, List.length_append]
                  exact Nat.le_add_left _ _
                parsed :: collectEmbedded behind
      else collectEmbedded rest
termination_by text => text.length

def tryExtractJsonValue (modelText : JsString) : Option JsonValue :=
  if maxModelContentBytes < utf8Bytes modelText then none
  else
    let trimmed := trim modelText
    match parse round trimmed with
    | some direct => some direct
    | none =>
        match (fencedContent trimmed).bind (parse round) with
        | some parsed => some parsed
        | none => onlyObject (collectEmbedded round trimmed)

def extractSemanticJsonValue (modelText : JsString) : Except StreamRequest.RequestError JsonValue :=
  match tryExtractJsonValue round modelText with
  | some value => .ok value
  | none => .error (invalidOutputError 0 .invalidOutput)

end Search

/-! ## The scanner passes over what is rendered -/

/-- The scanner passes over a text with anything open. -/
def Passed (text : JsString) : Prop :=
  ∀ opening outer rest, scanCandidate (opening :: outer) false false (text ++ rest) =
    (scanCandidate (opening :: outer) false false rest).map fun cut => (text ++ cut.1, cut.2)

theorem Passed.append {a b : JsString} (ha : Passed a) (hb : Passed b) : Passed (a ++ b) := by
  intro opening outer rest
  rw [List.append_assoc, ha opening outer, hb opening outer, Option.map_map]
  simp [Function.comp_def]

theorem Passed.unit {c : UInt16} (hc : isMark c = false) : Passed [c] := by
  intro opening outer rest
  simp only [isMark, Bool.or_eq_false_iff, beq_eq_false_iff_ne] at hc
  have hopening : isOpening c = false := by simp [isOpening, hc]
  have hclosing : isClosing c = false := by simp [isClosing, hc]
  rw [List.singleton_append, scanCandidate]
  simp [hc.1.1.1.1, hopening, hclosing]

theorem Passed.quoted {s body : JsString} (h : StringBody s body) :
    Passed (0x22 :: body ++ [0x22]) := by
  intro opening outer rest
  have hbody := @scan_body (scanCandidate (opening :: outer) true false)
    (scanCandidate (opening :: outer) false false)
    (fun c text hc => by rw [scanCandidate]; simp [hc.1, hc.2])
    (fun letter text => by
      rw [scanCandidate]
      simp only [if_true, if_neg Bool.false_ne_true]
      rw [scanCandidate]
      simp [Option.map_map, Function.comp_def])
    (fun text => by rw [scanCandidate]; simp) _ _ h rest
  rw [show 0x22 :: body ++ [0x22] ++ rest = 0x22 :: (body ++ 0x22 :: rest) from by simp,
    scanCandidate]
  simp [hbody, Option.map_map, Function.comp_def]

/-- What is enclosed by a unit and its counterpart is passed over as a whole. -/
theorem Passed.enclosed {first last : UInt16} (hfirst : isOpening first = true)
    (hlast : isClosing last = true) (hmatch : expectedOpening last = first) {text : JsString}
    (h : Passed text) : Passed (first :: text ++ [last]) := by
  intro opening outer rest
  have hquote : first ≠ 0x22 := by
    rintro rfl
    exact absurd hfirst (by decide)
  have hclosing : last ≠ 0x22 ∧ isOpening last = false := by
    simp only [isClosing, Bool.or_eq_true, beq_iff_eq] at hlast
    obtain rfl | rfl := hlast <;> decide
  rw [show first :: text ++ [last] ++ rest = first :: (text ++ last :: rest) from by simp,
    scanCandidate]
  simp only [if_neg Bool.false_ne_true, if_neg hquote, hfirst, if_true]
  rw [h first (opening :: outer), scanCandidate]
  simp only [if_neg hclosing.1, hclosing.2, hlast, Bool.not_true, hmatch, ne_eq,
    not_true_eq_false, if_false, reduceCtorEq, Option.map_map]
  congr 1
  funext cut
  simp

theorem scanClosed_passed : ScanClosed Passed where
  nil := by
    intro opening outer rest
    simp
  append := Passed.append
  unit := Passed.unit
  quoted := Passed.quoted
  braces := Passed.enclosed rfl rfl rfl
  brackets := Passed.enclosed rfl rfl rfl

/-- The scanner cuts a value where its text ends. -/
theorem balancedJsonCandidate_append {first last : UInt16} (hlast : isClosing last = true)
    (hmatch : expectedOpening last = first) {inner : JsString} (h : Passed inner)
    (rest : JsString) :
    balancedJsonCandidate first (inner ++ last :: rest) = some (inner ++ [last], rest) := by
  have hclosing : last ≠ 0x22 ∧ isOpening last = false := by
    simp only [isClosing, Bool.or_eq_true, beq_iff_eq] at hlast
    obtain rfl | rfl := hlast <;> decide
  rw [balancedJsonCandidate, h first [], scanCandidate]
  simp [hclosing.1, hclosing.2, hlast, hmatch]

section Rendered

variable {round : JsString → Option ℚ}

/-- The text of an object or array is a pair of units around a text that the scanner passes
over. -/
theorem container_shape {value : JsonValue} {text : JsString} (hvalue : isContainer value = true)
    (h : Renders round (.value value) text) :
    ∃ first inner last, text = first :: (inner ++ [last]) ∧ isOpening first = true ∧
      isClosing last = true ∧ expectedOpening last = first ∧ Passed inner := by
  generalize hpart : Part.value value = part at h
  cases h with
  | number _ =>
      injection hpart with hnumber
      rw [hnumber, isContainer_numberValue] at hvalue
      cases hvalue
  | emptyArray hw => exact ⟨_, _, _, rfl, rfl, rfl, rfl, scanClosed_passed.space hw⟩
  | array h => exact ⟨_, _, _, rfl, rfl, rfl, rfl, scanClosed_passed.of_renders h⟩
  | emptyObject hw => exact ⟨_, _, _, rfl, rfl, rfl, rfl, scanClosed_passed.space hw⟩
  | object h => exact ⟨_, _, _, rfl, rfl, rfl, rfl, scanClosed_passed.of_renders h⟩
  | item => cases hpart
  | moreItems => cases hpart
  | member => cases hpart
  | moreMembers => cases hpart
  | _ =>
      injection hpart with hscalar
      rw [hscalar] at hvalue
      cases hvalue

/-! ## The values of a text -/

/-- A rendered object or array. -/
def IsContainerText (round : JsString → Option ℚ) (value : JsonValue) (text : JsString) : Prop :=
  isContainer value = true ∧ Renders round (.value value) text

/-- The objects and arrays that stand in a text, with units around them that open nothing. -/
abbrev ValuesIn (round : JsString → Option ℚ) : List JsonValue → JsString → Prop :=
  Fragments isPlain (IsContainerText round)

theorem not_isPlain_of_isOpening {c : UInt16} (h : isOpening c = true) : isPlain c = false := by
  simp only [isOpening, Bool.or_eq_true, beq_iff_eq] at h
  obtain rfl | rfl := h <;> rfl

theorem isPlain_of_isSpace {c : UInt16} (h : isSpace c = true) : isPlain c = true := by
  simp only [isSpace, Bool.or_eq_true, beq_iff_eq] at h
  obtain ((rfl | rfl) | rfl) | rfl := h <;> rfl

theorem delimited_values : Delimited isPlain isClosing (IsContainerText round) := by
  rintro value text ⟨hvalue, h⟩
  obtain ⟨first, inner, last, rfl, hfirst, hlast, -, -⟩ := container_shape hvalue h
  exact ⟨first, inner, last, rfl, not_isPlain_of_isOpening hfirst, hlast⟩

theorem surrounds_values : Surrounds isPlain isClosing where
  space c hc := by
    constructor
    · simp only [isPlain, Bool.and_eq_true, bne_iff_ne]
      refine ⟨⟨?_, ?_⟩, ?_⟩ <;>
      · rintro rfl
        exact absurd hc (by decide)
    · simp only [isClosing, Bool.or_eq_false_iff, beq_eq_false_iff_ne]
      refine ⟨?_, ?_⟩ <;>
      · rintro rfl
        exact absurd hc (by decide)
  tick := by decide
  label c hc := by
    simp only [isPlain, Bool.and_eq_true, bne_iff_ne]
    refine ⟨⟨?_, ?_⟩, ?_⟩ <;>
    · rintro rfl
      exact absurd hc (by decide)

/-- A text has the only object or array in it as its value, or none. -/
theorem eq_of_parse {values : List JsonValue} {text : JsString} {value : JsonValue}
    (h : ValuesIn round values text) (hne : values ≠ []) (hparse : parse round text = some value) :
    values = [value] := by
  cases h with
  | none hgap => exact absurd rfl hne
  | @piece gap first text values rest hgap h hrest =>
      obtain ⟨hvalue, hrenders⟩ := h
      by_cases hspace : AllSpace gap
      · rw [parse_container_append hvalue hspace hrenders] at hparse
        obtain ⟨hend, hfirst⟩ := Option.ite_none_right_eq_some.mp hparse
        have hplain : ∀ c ∈ rest, isPlain c = true := fun c hc =>
          isPlain_of_isSpace (List.dropWhile_eq_nil_iff.mp hend c hc)
        rw [Fragments.eq_nil delimited_values hrest hplain, Option.some.inj hfirst]
      · obtain ⟨opening, inner, last, rfl, hopening, -, -, -⟩ := container_shape hvalue hrenders
        rw [parse_of_plain hgap hspace (not_isPlain_of_isOpening hopening) (by simp)] at hparse
        cases hparse

theorem collectEmbedded_append {gap : JsString} (hgap : ∀ c ∈ gap, isPlain c = true)
    (text : JsString) : collectEmbedded round (gap ++ text) = collectEmbedded round text := by
  induction gap with
  | nil => rfl
  | cons c gap ih =>
      have hc : ¬ isOpening c = true := fun hopening => by
        have hplain := not_isPlain_of_isOpening hopening
        rw [hgap c List.mem_cons_self] at hplain
        cases hplain
      rw [List.cons_append, collectEmbedded, if_neg hc]
      exact ih fun d hd => hgap d (List.mem_cons_of_mem c hd)

theorem parse_of_container {value : JsonValue} {text : JsString} (hvalue : isContainer value = true)
    (h : Renders round (.value value) text) : parse round text = some value := by
  have hparse := parse_container_append (w := []) hvalue (List.forall_mem_nil _) h []
  rwa [List.nil_append, List.append_nil, if_pos (show skipSpace [] = [] from rfl)] at hparse

theorem collectEmbedded_value {value : JsonValue} {text : JsString}
    (hvalue : isContainer value = true) (h : Renders round (.value value) text)
    (rest : JsString) :
    collectEmbedded round (text ++ rest) = value :: collectEmbedded round rest := by
  have hparse := parse_of_container hvalue h
  obtain ⟨first, inner, last, rfl, hfirst, hlast, hmatch, hinner⟩ := container_shape hvalue h
  have hcut := balancedJsonCandidate_append hlast hmatch hinner rest
  rw [show first :: (inner ++ [last]) ++ rest = first :: (inner ++ last :: rest) from by simp,
    collectEmbedded, if_pos hfirst]
  split
  · next hnone =>
      rw [hcut] at hnone
      cases hnone
  · next hsome =>
      rw [hcut] at hsome
      cases hsome
      rw [hparse]

/-- The search over a text collects its objects and arrays. -/
theorem collectEmbedded_eq {values : List JsonValue} {text : JsString}
    (h : ValuesIn round values text) : collectEmbedded round text = values := by
  induction h with
  | @none gap hgap =>
      have hnil := @collectEmbedded_append round gap hgap []
      rwa [List.append_nil, collectEmbedded] at hnil
  | piece hgap h _ ih => rw [collectEmbedded_append hgap, collectEmbedded_value h.1 h.2, ih]

/-- The only object or array of a text is extracted, and of several none. -/
theorem tryExtractJsonValue_eq {values : List JsonValue} {text : JsString}
    (h : ValuesIn round values text) (hne : values ≠ [])
    (hsize : utf8Bytes text ≤ maxModelContentBytes) :
    tryExtractJsonValue round text = onlyObject values := by
  have htrim := fragments_trim delimited_values surrounds_values h
  rw [tryExtractJsonValue, if_neg (Nat.not_lt.mpr hsize)]
  dsimp only
  cases hdirect : parse round (trim text) with
  | some direct =>
      rw [eq_of_parse htrim hne hdirect]
      rfl
  | none =>
      cases hfence : (fencedContent (trim text)).bind (parse round) with
      | some parsed =>
          obtain ⟨content, hcontent, hparsed⟩ := Option.bind_eq_some_iff.mp hfence
          have hfenced := fragments_fenced delimited_values surrounds_values htrim hcontent
          rw [eq_of_parse hfenced hne hparsed]
          rfl
      | none => rw [collectEmbedded_eq htrim]

/-- A JSON text of an object or array stands behind a gap and before other ones. -/
theorem ValuesIn.cons_text {value : JsonValue} {values : List JsonValue} {gap text rest : JsString}
    (hvalue : isContainer value = true) (hgap : ∀ c ∈ gap, isPlain c = true)
    (h : Text round value text)
    (hrest : ∀ w, (∀ c ∈ w, isPlain c = true) → ValuesIn round values (w ++ rest)) :
    ValuesIn round (value :: values) (gap ++ (text ++ rest)) := by
  obtain ⟨hw, h, hw'⟩ := h
  have hplain := List.forall_mem_append.mpr ⟨hgap, fun c hc => isPlain_of_isSpace (hw c hc)⟩
  have hpiece := Fragments.piece hplain ⟨hvalue, h⟩
    (hrest _ fun c hc => isPlain_of_isSpace (hw' c hc))
  simpa using hpiece

theorem ValuesIn.of_text {value : JsonValue} {before text behind : JsString}
    (hvalue : isContainer value = true) (hbefore : ∀ c ∈ before, isPlain c = true)
    (h : Text round value text) (hbehind : ∀ c ∈ behind, isPlain c = true) :
    ValuesIn round [value] (before ++ (text ++ behind)) :=
  ValuesIn.cons_text hvalue hbefore h fun _ hw =>
    .none (List.forall_mem_append.mpr ⟨hw, hbehind⟩)

end Rendered

/-- Extraction inverts the printing of an object or array within any text that opens nothing and is
not too long, and it throws where two of them stand in such a text. -/
theorem extractSemanticJsonValue_inverts (round : JsString → Option ℚ) :
    (∀ value text before behind, isContainer value = true → Text round value text →
      (∀ c ∈ before, c ≠ 0x7b ∧ c ≠ 0x5b ∧ c ≠ 0x22) →
      (∀ c ∈ behind, c ≠ 0x7b ∧ c ≠ 0x5b ∧ c ≠ 0x22) →
      utf8Bytes (before ++ text ++ behind) ≤ 512 * 1024 →
      extractSemanticJsonValue round (before ++ text ++ behind) = .ok value) ∧
    ∀ first second text text' before between behind,
      isContainer first = true → isContainer second = true →
      Text round first text → Text round second text' →
      (∀ c ∈ before, c ≠ 0x7b ∧ c ≠ 0x5b ∧ c ≠ 0x22) →
      (∀ c ∈ between, c ≠ 0x7b ∧ c ≠ 0x5b ∧ c ≠ 0x22) →
      (∀ c ∈ behind, c ≠ 0x7b ∧ c ≠ 0x5b ∧ c ≠ 0x22) →
      extractSemanticJsonValue round (before ++ text ++ between ++ text' ++ behind) =
        .error (invalidOutputError 0 .invalidOutput) := by
  have hplain {gap : JsString} (hgap : ∀ c ∈ gap, c ≠ 0x7b ∧ c ≠ 0x5b ∧ c ≠ 0x22) :
      ∀ c ∈ gap, isPlain c = true := fun c hc => by
    simp [isPlain, hgap c hc]
  refine ⟨?_, ?_⟩
  · intro value text before behind hvalue h hbefore hbehind hsize
    have hvalues := ValuesIn.of_text hvalue (hplain hbefore) h (hplain hbehind)
    rw [← List.append_assoc] at hvalues
    rw [extractSemanticJsonValue, tryExtractJsonValue_eq hvalues (List.cons_ne_nil _ _) hsize]
    rfl
  · intro first second text text' before between behind hfirst hsecond h h' hbefore hbetween hbehind
    have hvalues : ValuesIn round [first, second]
        (before ++ text ++ between ++ text' ++ behind) := by
      have htwo := ValuesIn.cons_text hfirst (hplain hbefore) h fun w hw => by
        have hone := ValuesIn.of_text hsecond
          (List.forall_mem_append.mpr ⟨hw, hplain hbetween⟩) h' (hplain hbehind)
        rwa [List.append_assoc] at hone
      simpa using htwo
    by_cases hsize : utf8Bytes (before ++ text ++ between ++ text' ++ behind) ≤ maxModelContentBytes
    · rw [extractSemanticJsonValue, tryExtractJsonValue_eq hvalues (List.cons_ne_nil _ _) hsize]
      rfl
    · rw [extractSemanticJsonValue, tryExtractJsonValue, if_pos (Nat.not_le.mp hsize)]

/-- A brace in a string of a fenced array, and an array beside an object. -/
theorem extractSemanticJsonValue_inverts_sample :
    extractSemanticJsonValue (fun _ => none)
        (js "```JSON " ++ js "[ \"\x7b\\\"\" ]" ++ js " ```") = .ok (.arr [.str (js "\x7b\"")]) ∧
    extractSemanticJsonValue (fun _ => none)
        (js "1] " ++ js "[]" ++ js " or " ++ js "\x7b\x7d" ++ js ".") =
      .error (invalidOutputError 0 .invalidOutput) := by
  let round : JsString → Option ℚ := fun _ => none
  have hspace : AllSpace [0x20] := List.forall_mem_singleton.mpr rfl
  have hvalue : StringBody (js "\x7b\"") (js "\x7b\\\"") :=
    .unit (by decide) (.escape (by decide) .nil)
  have hitems := @Renders.item round _ _ [0x20] [0x20] hspace (.string hvalue) hspace
  have hnone : AllSpace [] := List.forall_mem_nil _
  have hfenced := @Text.intro round _ [] _ [] hnone (.array hitems) hnone
  have harray := @Text.intro round _ [] _ [] hnone (@Renders.emptyArray round [] hnone) hnone
  have hobject := @Text.intro round _ [] _ [] hnone (@Renders.emptyObject round [] hnone) hnone
  have hplain {gap : JsString}
      (hgap : (gap.all fun c => decide (c ≠ 0x7b ∧ c ≠ 0x5b ∧ c ≠ 0x22)) = true) :
      ∀ c ∈ gap, c ≠ 0x7b ∧ c ≠ 0x5b ∧ c ≠ 0x22 := List.all_iff_forall_prop.mp hgap
  exact ⟨(extractSemanticJsonValue_inverts round).1 _ _ _ _ rfl hfenced (hplain (by decide))
      (hplain (by decide)) (by decide),
    (extractSemanticJsonValue_inverts round).2 _ _ _ _ _ _ _ rfl rfl harray hobject
      (hplain (by decide)) (hplain (by decide)) (hplain (by decide))⟩

end HetznerSemantic

end Providers

end UnderstandProof
