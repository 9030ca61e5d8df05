import UnderstandProof.Analysis.GenerationContextSchema
import UnderstandProof.Foundation.Fragments
import UnderstandProof.Foundation.JsonGrammar
import UnderstandProof.Providers.SseResponse

/-!
# The JSON object of a model text

The judge is asked for one JSON object, and its text is searched for it: as the whole text, within
a code fence, and last between anything else, by a scanner that counts braces outside strings.

The scanner passes over every rendered value, so it cuts each object of the text where the grammar
ends it, and the object is found where it is the only one.
-/

open Foundation Foundation.JsString Foundation.JsonGrammar

namespace UnderstandProof

namespace Providers

open Analysis (foldCase)

/-! ## The search -/

section Search

variable (round : JsString → Option ℚ)

def parseJsonObject (value : JsString) : Option JsonValue :=
  match parse round value with
  | some (.obj fields) => some (.obj fields)
  | _ => none

/-- The text up to the brace that closes the object whose depth is counted, and what is behind
it. -/
def scanObject : ℕ → Bool → Bool → JsString → Option (JsString × JsString)
  | _, _, _, [] => none
  | depth, inString, escaped, character :: rest =>
      if inString then
        (if escaped then scanObject depth true false rest
          else if character = 0x5c then scanObject depth true true rest
          else if character = 0x22 then scanObject depth false false rest
          else scanObject depth true false rest).map fun cut => (character :: cut.1, cut.2)
      else if character = 0x7d ∧ depth - 1 = 0 then some ([character], rest)
      else
        (if character = 0x22 then scanObject depth true false rest
          else if character = 0x7b then scanObject (depth + 1) false false rest
          else if character = 0x7d then scanObject (depth - 1) false false rest
          else scanObject depth false false rest).map fun cut => (character :: cut.1, cut.2)

/-- The candidate behind an opening brace. -/
def balancedObject (rest : JsString) : Option (JsString × JsString) :=
  scanObject 1 false false rest

theorem scanObject_append {depth : ℕ} {inString escaped : Bool} {text : JsString}
    {cut : JsString × JsString} (h : scanObject depth inString escaped text = some cut) :
    text = cut.1 ++ cut.2 := by
  induction text generalizing depth inString escaped cut with
  | nil => exact nomatch h
  | cons character rest ih =>
      rw [scanObject] at h
      have hkeep {scanned : Option (JsString × JsString)}
          (hscan : ∀ inner, scanned = some inner → rest = inner.1 ++ inner.2)
          (hmap : (scanned.map fun inner => (character :: inner.1, inner.2)) = some cut) :
          character :: rest = cut.1 ++ cut.2 := by
        obtain ⟨inner, hinner, rfl⟩ := Option.map_eq_some_iff.mp hmap
        rw [hscan inner hinner, List.cons_append]
      split at h
      · refine hkeep (fun inner hinner => ?_) h
        split_ifs at hinner <;> exact ih hinner
      · split at h
        · obtain rfl := Option.some.inj h
          rfl
        · refine hkeep (fun inner hinner => ?_) h
          split_ifs at hinner <;> exact ih hinner

/-- The objects of a text, one behind the other. -/
def collectObjects : JsString → List JsonValue
  | [] => []
  | character :: rest =>
      if character = 0x7b then
        match hcut : balancedObject rest with
        | none => collectObjects rest
        | some (inner, behind) =>
            match parseJsonObject round (character :: inner) with
            | none => collectObjects rest
            | some parsed =>
                have : behind.length ≤ rest.length := by
                  rw [scanObject_append hcut, List.length_append]
                  exact Nat.le_add_left _ _
                parsed :: collectObjects behind
      else collectObjects rest
termination_by text => text.length

def fence : JsString := js "```"

/-- The group of ```/^```(?:json)?\s*([\s\S]*?)\s*```$/iu```: the shortest that leaves white space
and the closing fence. -/
def fencedContent (text : JsString) : Option JsString :=
  if fence <+: text then
    let labelled := text.drop 3
    let content :=
      (if (labelled.take 4).map foldCase = js "json" then labelled.drop 4 else labelled).dropWhile
        isWhiteSpace
    if fence <:+ content then
      some ((content.take (content.length - 3)).rdropWhile isWhiteSpace)
    else none
  else none

/-- `objects.length === 1 ? objects[0] : undefined` -/
def onlyObject : List JsonValue → Option JsonValue
  | [object] => some object
  | _ => none

def tryExtractJsonObject (modelText : JsString) : Option JsonValue :=
  if maxModelTextBytes < utf8Bytes modelText then none
  else
    let trimmed := trim modelText
    match parseJsonObject round trimmed with
    | some direct => some direct
    | none =>
        match (fencedContent trimmed).bind (parseJsonObject round) with
        | some parsed => some parsed
        | none => onlyObject (collectObjects round trimmed)

end Search

/-! ## The scanner passes over what is rendered -/

/-- The scanner passes over a text at any depth. -/
def Skipped (text : JsString) : Prop :=
  ∀ depth rest, 0 < depth → scanObject depth false false (text ++ rest) =
    (scanObject depth false false rest).map fun cut => (text ++ cut.1, cut.2)

theorem Skipped.nil : Skipped [] := by
  intro depth rest _
  simp

theorem Skipped.append {a b : JsString} (ha : Skipped a) (hb : Skipped b) : Skipped (a ++ b) := by
  intro depth rest hdepth
  rw [List.append_assoc, ha depth _ hdepth, hb depth rest hdepth, Option.map_map]
  simp [Function.comp_def]

theorem Skipped.unit {c : UInt16} (hc : c ≠ 0x22 ∧ c ≠ 0x7b ∧ c ≠ 0x7d) : Skipped [c] := by
  intro depth rest _
  rw [List.singleton_append, scanObject]
  simp only [if_neg Bool.false_ne_true, hc.1, hc.2.1, hc.2.2, false_and, if_false,
    List.singleton_append]

/-- Within a string, any unit but a quote and a backslash is passed over. -/
theorem scanObject_unit {c : UInt16} (hc : c ≠ 0x22 ∧ c ≠ 0x5c) (depth : ℕ) (text : JsString) :
    scanObject depth true false (c :: text) =
      (scanObject depth true false text).map fun cut => (c :: cut.1, cut.2) := by
  rw [scanObject]
  simp only [if_true, if_neg Bool.false_ne_true, if_neg hc.1, if_neg hc.2]

/-- A backslash and the unit behind it are passed over. -/
theorem scanObject_escape (letter : UInt16) (depth : ℕ) (text : JsString) :
    scanObject depth true false (0x5c :: letter :: text) =
      (scanObject depth true false text).map fun cut => (0x5c :: letter :: cut.1, cut.2) := by
  simp only [scanObject, if_true, if_neg Bool.false_ne_true, Option.map_map]
  rfl

/-- Within a string the scanner comes to the closing quote, whatever is escaped. -/
theorem scanObject_body {s body : JsString} (h : StringBody s body) (depth : ℕ) (rest : JsString) :
    scanObject depth true false (body ++ 0x22 :: rest) =
      (scanObject depth false false rest).map fun cut => (body ++ 0x22 :: cut.1, cut.2) := by
  have hne : (0x22 : UInt16) ≠ 0x5c := by decide
  refine scan_body (fun c text hc => scanObject_unit hc depth text)
    (fun letter text => scanObject_escape letter depth text) (fun text => ?_) h rest
  rw [scanObject]
  simp only [if_true, if_neg Bool.false_ne_true, if_neg hne]

theorem Skipped.quoted {s body : JsString} (h : StringBody s body) :
    Skipped (0x22 :: body ++ [0x22]) := by
  intro depth rest _
  have hne : ¬ ((0x22 : UInt16) = 0x7d ∧ depth - 1 = 0) := fun h' => absurd h'.1 (by decide)
  rw [show 0x22 :: body ++ [0x22] ++ rest = 0x22 :: (body ++ 0x22 :: rest) from by simp, scanObject]
  simp only [if_neg Bool.false_ne_true, if_neg hne, if_true, scanObject_body h, Option.map_map]
  congr 1
  funext cut
  simp

/-- An object within an object is passed over as a whole. -/
theorem Skipped.braces {text : JsString} (h : Skipped text) : Skipped (0x7b :: text ++ [0x7d]) := by
  intro depth rest hdepth
  have hopen : ¬ ((0x7b : UInt16) = 0x7d ∧ depth - 1 = 0) := fun h' => absurd h'.1 (by decide)
  have hclose : depth ≠ 0 := Nat.ne_of_gt hdepth
  have hquote : (0x7b : UInt16) ≠ 0x22 ∧ (0x7d : UInt16) ≠ 0x22 ∧ (0x7d : UInt16) ≠ 0x7b := by
    decide
  rw [show 0x7b :: text ++ [0x7d] ++ rest = 0x7b :: (text ++ 0x7d :: rest) from by simp, scanObject]
  simp only [if_neg Bool.false_ne_true, if_neg hopen, if_neg hquote.1, if_true]
  rw [h (depth + 1) _ (Nat.succ_pos _), scanObject]
  simp only [if_neg Bool.false_ne_true, Nat.add_sub_cancel, true_and, if_neg hclose,
    if_neg hquote.2.1, if_neg hquote.2.2, if_true, Option.map_map]
  congr 1
  funext cut
  simp

theorem scanClosed_skipped : ScanClosed Skipped where
  nil := Skipped.nil
  append := Skipped.append
  unit hc := by
    simp only [isMark, Bool.or_eq_false_iff, beq_eq_false_iff_ne] at hc
    exact Skipped.unit ⟨hc.1.1.1.1, hc.1.2, hc.2⟩
  quoted := Skipped.quoted
  braces := Skipped.braces
  brackets h := (Skipped.unit (by decide)).append (h.append (Skipped.unit (by decide)))

section Rendered

variable {round : JsString → Option ℚ}

/-- The text of an object is braces and a text that the scanner passes over. -/
theorem obj_shape {fields : List (JsString × JsonValue)} {text : JsString}
    (h : Renders round (.value (.obj fields)) text) :
    ∃ inner, text = 0x7b :: (inner ++ [0x7d]) ∧ Skipped inner := by
  generalize hpart : Part.value (.obj fields) = part at h
  cases h with
  | number _ =>
      injection hpart with hvalue
      exact (numberValue_ne_obj _ _ hvalue.symm).elim
  | emptyObject hw => exact ⟨_, rfl, scanClosed_skipped.space hw⟩
  | object h => exact ⟨_, rfl, scanClosed_skipped.of_renders h⟩
  | _ => cases hpart

/-- The scanner cuts an object where its text ends. -/
theorem balancedObject_append {inner : JsString} (h : Skipped inner) (rest : JsString) :
    balancedObject (inner ++ 0x7d :: rest) = some (inner ++ [0x7d], rest) := by
  rw [balancedObject, h 1 _ Nat.one_pos, scanObject]
  rfl

/-! ## The objects of a text -/

/-- A rendered object. -/
def IsObjectText (round : JsString → Option ℚ) (value : JsonValue) (text : JsString) : Prop :=
  ∃ fields, value = .obj fields ∧ Renders round (.value (.obj fields)) text

/-- The objects that stand in a text, with anything but opening braces around them. -/
inductive ObjectsIn (round : JsString → Option ℚ) : List JsonValue → JsString → Prop
  | none {gap} (hgap : 0x7b ∉ gap) : ObjectsIn round [] gap
  | object {gap fields text objects rest} (hgap : 0x7b ∉ gap)
      (h : Renders round (.value (.obj fields)) text) (hrest : ObjectsIn round objects rest) :
      ObjectsIn round (.obj fields :: objects) (gap ++ (text ++ rest))

/-- The objects of a text are its fragments between opening braces. -/
theorem objectsIn_iff {objects : List JsonValue} {text : JsString} :
    ObjectsIn round objects text ↔
      Fragments (fun c => c != 0x7b) (IsObjectText round) objects text := by
  have hgaps {gap : JsString} : (∀ c ∈ gap, (c != 0x7b) = true) ↔ 0x7b ∉ gap := by
    simp only [bne_iff_ne]
    exact ⟨fun hall hmem => hall _ hmem rfl, fun hnot c hc heq => hnot (heq ▸ hc)⟩
  constructor
  · intro h
    induction h with
    | none hgap => exact .none (hgaps.mpr hgap)
    | object hgap h _ ih => exact .piece (hgaps.mpr hgap) ⟨_, rfl, h⟩ ih
  · intro h
    induction h with
    | none hgap => exact .none (hgaps.mp hgap)
    | piece hgap h _ ih =>
        obtain ⟨fields, rfl, h⟩ := h
        exact .object (hgaps.mp hgap) h ih

theorem delimited_objects :
    Delimited (fun c => c != 0x7b) (fun c => c == 0x7d) (IsObjectText round) := by
  rintro value text ⟨fields, rfl, h⟩
  obtain ⟨inner, rfl, _⟩ := obj_shape h
  exact ⟨_, inner, _, rfl, rfl, rfl⟩

theorem ObjectsIn.eq_nil {objects : List JsonValue} {text : JsString}
    (h : ObjectsIn round objects text) (htext : 0x7b ∉ text) : objects = [] := by
  refine Fragments.eq_nil delimited_objects (objectsIn_iff.mp h) fun c hc => ?_
  rw [bne_iff_ne]
  rintro rfl
  exact htext hc

theorem parse_of_parseJsonObject {text : JsString} {value : JsonValue}
    (h : parseJsonObject round text = some value) :
    ∃ fields, value = .obj fields ∧ parse round text = some (.obj fields) := by
  unfold parseJsonObject at h
  split at h
  · next fields hparse => exact ⟨fields, (Option.some.inj h).symm, hparse⟩
  · cases h

theorem head_of_parse_obj {text : JsString} {fields : List (JsString × JsonValue)}
    (h : parse round text = some (.obj fields)) : (skipSpace text).head? = some 0x7b := by
  obtain ⟨⟨value, rest⟩, hread, hvalue⟩ := Option.bind_eq_some_iff.mp h
  obtain ⟨_, hvalue⟩ := Option.ite_none_right_eq_some.mp hvalue
  obtain rfl := Option.some.inj hvalue
  exact parseValue_obj hread

/-- A text with an object as its value has just that object in it. -/
theorem eq_of_parseJsonObject {objects : List JsonValue} {text : JsString} {value : JsonValue}
    (h : ObjectsIn round objects text) (hparse : parseJsonObject round text = some value) :
    objects = [value] := by
  obtain ⟨parsed, rfl, hread⟩ := parse_of_parseJsonObject hparse
  have hhead := head_of_parse_obj hread
  cases h with
  | none hgap =>
      have hmem : 0x7b ∈ skipSpace text := List.mem_of_mem_head? (by rw [hhead]; rfl)
      exact (hgap ((List.dropWhile_suffix _).mem hmem)).elim
  | @object gap fields text objects rest hgap h hrest =>
      by_cases hspace : AllSpace gap
      · rw [parse_object_append hspace h] at hread
        obtain ⟨hend, hvalue⟩ := Option.ite_none_right_eq_some.mp hread
        have hnone : 0x7b ∉ rest := by
          intro hmem
          have hall := List.dropWhile_eq_nil_iff.mp hend 0x7b hmem
          exact absurd hall (by decide)
        rw [hrest.eq_nil hnone, Option.some.inj hvalue]
      · have hne : gap.dropWhile isSpace ≠ [] := fun hnil =>
          hspace fun c hc => List.dropWhile_eq_nil_iff.mp hnil c hc
        have hskip :
            skipSpace (gap ++ (text ++ rest)) = gap.dropWhile isSpace ++ (text ++ rest) := by
          rw [skipSpace, List.dropWhile_append, if_neg (by simpa using hne)]
        rw [hskip, List.head?_append_of_ne_nil _ hne] at hhead
        have hmem : 0x7b ∈ gap.dropWhile isSpace := List.mem_of_mem_head? (by rw [hhead]; rfl)
        exact (hgap ((List.dropWhile_suffix _).mem hmem)).elim

theorem parseJsonObject_of_renders {fields : List (JsString × JsonValue)} {text : JsString}
    (h : Renders round (.value (.obj fields)) text) :
    parseJsonObject round text = some (.obj fields) := by
  have hparse := parse_object_append (w := []) (List.forall_mem_nil _) h []
  rw [List.nil_append, List.append_nil, if_pos (show skipSpace [] = [] from rfl)] at hparse
  rw [parseJsonObject, hparse]

theorem collectObjects_append {gap : JsString} (hgap : 0x7b ∉ gap) (text : JsString) :
    collectObjects round (gap ++ text) = collectObjects round text := by
  induction gap with
  | nil => rfl
  | cons c gap ih =>
      have hc : c ≠ 0x7b := fun hc => hgap (hc ▸ List.mem_cons_self)
      rw [List.cons_append, collectObjects, if_neg hc]
      exact ih fun hmem => hgap (List.mem_cons_of_mem c hmem)

theorem collectObjects_object {fields : List (JsString × JsonValue)} {text : JsString}
    (h : Renders round (.value (.obj fields)) text) (rest : JsString) :
    collectObjects round (text ++ rest) = .obj fields :: collectObjects round rest := by
  have hparse := parseJsonObject_of_renders h
  obtain ⟨inner, rfl, hinner⟩ := obj_shape h
  have hcut := balancedObject_append hinner rest
  rw [show 0x7b :: (inner ++ [0x7d]) ++ rest = 0x7b :: (inner ++ 0x7d :: rest) from by simp,
    collectObjects, if_pos rfl]
  split
  · next hnone =>
      rw [hcut] at hnone
      cases hnone
  · next hsome =>
      rw [hcut] at hsome
      cases hsome
      rw [hparse]

/-- The search over a text collects its objects. -/
theorem collectObjects_eq {objects : List JsonValue} {text : JsString}
    (h : ObjectsIn round objects text) : collectObjects round text = objects := by
  induction h with
  | @none gap hgap =>
      have hnil := @collectObjects_append round gap hgap []
      rwa [List.append_nil, collectObjects] at hnil
  | object hgap h _ ih => rw [collectObjects_append hgap, collectObjects_object h, ih]

/-! ## White space and fences -/

/-- White space, back ticks and the letters of a label stand in gaps, and the first two close
nothing. -/
structure Surrounds (isGap isEnd : UInt16 → Bool) : Prop where
  space : ∀ c, isWhiteSpace c = true → isGap c = true ∧ isEnd c = false
  tick : isGap 0x60 = true ∧ isEnd 0x60 = false
  label : ∀ c, foldCase c ∈ js "json" → isGap c = true

section Cuts

variable {β : Type*} {isGap isEnd : UInt16 → Bool} {Piece : β → JsString → Prop} {bs : List β}
  (hdelimited : Delimited isGap isEnd Piece) (hsurrounds : Surrounds isGap isEnd)

include hdelimited hsurrounds

theorem fragments_trim {text : JsString} (h : Fragments isGap Piece bs text) :
    Fragments isGap Piece bs (trim text) :=
  Fragments.rdropWhile hdelimited (fun c hc => (hsurrounds.space c hc).2)
    (Fragments.dropWhile hdelimited (fun c hc => (hsurrounds.space c hc).1) h)

/-- A fence holds the pieces of the text. -/
theorem fragments_fenced {text content : JsString} (h : Fragments isGap Piece bs text)
    (hfence : fencedContent text = some content) : Fragments isGap Piece bs content := by
  have hticks {c : UInt16} (hc : c ∈ fence) : c = 0x60 := by
    revert hc
    simp [fence, js]
  unfold fencedContent at hfence
  obtain ⟨⟨labelled, rfl⟩, hfence⟩ := Option.ite_none_right_eq_some.mp hfence
  have hdrop : (fence ++ labelled).drop 3 = labelled := rfl
  rw [hdrop] at hfence
  have hlabelled := Fragments.of_append_left hdelimited
    (fun c hc => hticks hc ▸ hsurrounds.tick.1) h
  have hbody : Fragments isGap Piece bs
      (if (labelled.take 4).map foldCase = js "json" then labelled.drop 4 else labelled) := by
    split
    · next hlabel =>
      rw [← List.take_append_drop 4 labelled] at hlabelled
      refine Fragments.of_append_left hdelimited (fun c hc => hsurrounds.label c ?_) hlabelled
      rw [← hlabel]
      exact List.mem_map_of_mem hc
    · exact hlabelled
  obtain ⟨⟨inner, hinner⟩, hcontent⟩ := Option.ite_none_right_eq_some.mp hfence
  have hstripped := Fragments.dropWhile hdelimited
    (fun c hc => (hsurrounds.space c hc).1) hbody
  rw [← hinner] at hstripped hcontent
  have htake : (inner ++ fence).take ((inner ++ fence).length - 3) = inner := by
    rw [List.length_append, show fence.length = 3 from by decide, Nat.add_sub_cancel,
      List.take_left]
  rw [htake] at hcontent
  obtain rfl := Option.some.inj hcontent
  exact Fragments.rdropWhile hdelimited (fun c hc => (hsurrounds.space c hc).2)
    (Fragments.of_append_right hdelimited (fun c hc => hticks hc ▸ hsurrounds.tick.2) hstripped)

end Cuts

theorem surrounds_objects : Surrounds (fun c => c != 0x7b) (fun c => c == 0x7d) where
  space c hc := by
    refine ⟨bne_iff_ne.mpr ?_, beq_eq_false_iff_ne.mpr ?_⟩ <;>
    · rintro rfl
      exact absurd hc (by decide)
  tick := by decide
  label c hc := by
    refine bne_iff_ne.mpr ?_
    rintro rfl
    exact absurd hc (by decide)

/-- The only object of a text is extracted, and of several none. -/
theorem tryExtractJsonObject_eq {objects : List JsonValue} {text : JsString}
    (h : ObjectsIn round objects text) (hsize : utf8Bytes text ≤ maxModelTextBytes) :
    tryExtractJsonObject round text = onlyObject objects := by
  have hpieces := fragments_trim delimited_objects surrounds_objects (objectsIn_iff.mp h)
  have htrim : ObjectsIn round objects (trim text) := objectsIn_iff.mpr hpieces
  rw [tryExtractJsonObject, if_neg (Nat.not_lt.mpr hsize)]
  dsimp only
  cases hdirect : parseJsonObject round (trim text) with
  | some direct =>
      rw [eq_of_parseJsonObject htrim hdirect]
      rfl
  | none =>
      cases hfence : (fencedContent (trim text)).bind (parseJsonObject round) with
      | some parsed =>
          obtain ⟨content, hcontent, hparsed⟩ := Option.bind_eq_some_iff.mp hfence
          have hfenced := fragments_fenced delimited_objects surrounds_objects hpieces hcontent
          rw [eq_of_parseJsonObject (objectsIn_iff.mpr hfenced) hparsed]
          rfl
      | none => rw [collectObjects_eq htrim]

/-- An object between texts without opening braces. -/
theorem ObjectsIn.of_text {fields : List (JsString × JsonValue)} {before text behind : JsString}
    (h : Text round (.obj fields) text) (hbefore : 0x7b ∉ before) (hbehind : 0x7b ∉ behind) :
    ObjectsIn round [.obj fields] (before ++ text ++ behind) := by
  obtain ⟨hw, h, hw'⟩ := h
  rename_i w text w'
  have hspace {w : JsString} (hw : AllSpace w) : 0x7b ∉ w :=
    Fragments.not_mem_of_gap (by decide) hw
  have hgap : 0x7b ∉ before ++ w := by
    rw [List.mem_append, not_or]
    exact ⟨hbefore, hspace hw⟩
  have hrest : 0x7b ∉ w' ++ behind := by
    rw [List.mem_append, not_or]
    exact ⟨hspace hw', hbehind⟩
  have hobjects := ObjectsIn.object hgap h (.none hrest)
  simpa using hobjects

end Rendered

/-- Extraction inverts the printing of an object within any text without opening braces that is not
too long, and finds nothing where objects stand side by side. -/
theorem tryExtractJsonObject_inverts (round : JsString → Option ℚ) :
    (∀ fields text before behind, Text round (.obj fields) text → 0x7b ∉ before → 0x7b ∉ behind →
      utf8Bytes (before ++ text ++ behind) ≤ 512 * 1024 →
      tryExtractJsonObject round (before ++ text ++ behind) = some (.obj fields)) ∧
    ∀ objects text, ObjectsIn round objects text → 2 ≤ objects.length →
      tryExtractJsonObject round text = none := by
  refine ⟨?_, ?_⟩
  · intro fields text before behind h hbefore hbehind hsize
    exact tryExtractJsonObject_eq (ObjectsIn.of_text h hbefore hbehind) hsize
  · intro objects text h hlength
    by_cases hsize : utf8Bytes text ≤ maxModelTextBytes
    · obtain ⟨first, objects, rfl⟩ := List.exists_cons_of_length_pos (by omega : 0 < objects.length)
      obtain ⟨second, objects, rfl⟩ := List.exists_cons_of_length_pos
        (Nat.lt_of_succ_lt_succ hlength : 0 < objects.length)
      exact tryExtractJsonObject_eq h hsize
    · rw [tryExtractJsonObject, if_pos (Nat.not_le.mp hsize)]

/-- A brace in a string of a fenced object, and two objects in a row. -/
theorem tryExtractJsonObject_inverts_sample :
    tryExtractJsonObject (fun _ => none)
        (js "```JSON " ++ js "\x7b\"a\" :\"\x7b\\\"\"\x7d" ++ js " ```") =
      some (.obj [(js "a", .str (js "\x7b\""))]) ∧
    tryExtractJsonObject (fun _ => none) (js "\x7b\x7d, \x7b\x7d") = none := by
  let round : JsString → Option ℚ := fun _ => none
  have hspace : AllSpace [0x20] := List.forall_mem_singleton.mpr rfl
  have hvalue : StringBody (js "\x7b\"") (js "\x7b\\\"") :=
    .unit (by decide) (.escape (by decide) .nil)
  have hkey : StringBody (js "a") (js "a") := .unit (by decide) .nil
  have hnone : AllSpace [] := List.forall_mem_nil _
  have hmembers := @Renders.member round _ _ _ _ [] [0x20] [] [] hnone hkey hspace hnone
    (.string hvalue) hnone
  have htext := @Text.intro round _ [] _ [] hnone (.object hmembers) hnone
  have hempty := @Renders.emptyObject round [] hnone
  have htwo := @ObjectsIn.object round [] _ _ _ _ List.not_mem_nil hempty
    (@ObjectsIn.object round (js ", ") _ _ _ _ (by decide) hempty
      (@ObjectsIn.none round [] List.not_mem_nil))
  exact ⟨(tryExtractJsonObject_inverts round).1 _ _ _ _ htext (by decide) (by decide)
      (by decide),
    (tryExtractJsonObject_inverts round).2 _ _ htwo (by decide)⟩

end Providers

end UnderstandProof
