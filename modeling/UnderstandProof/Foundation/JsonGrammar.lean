import Mathlib.Data.Bool.AllAny
import UnderstandProof.Foundation.JsString
import UnderstandProof.Foundation.JsonValue

/-!
# The grammar of JSON

What it means that a text renders a value, with any white space, any escapes and any order of the
members, and the parser of the language. Of several members with one key the last one counts. How a
number is rounded is left to the platform.

A rendered value is parsed, and what stands behind it is left over.
-/

namespace Foundation

namespace JsonGrammar

/-! ## White space, strings and numbers -/

def isSpace (c : UInt16) : Bool := c == 0x20 || c == 0x09 || c == 0x0a || c == 0x0d

def AllSpace (w : JsString) : Prop := ∀ c ∈ w, isSpace c = true

def skipSpace (text : JsString) : JsString := text.dropWhile isSpace

/-- The unit that a letter behind a backslash stands for. -/
def unescape (letter : UInt16) : Option UInt16 :=
  if letter = 0x22 ∨ letter = 0x5c ∨ letter = 0x2f then some letter
  else if letter = 0x62 then some 0x08
  else if letter = 0x66 then some 0x0c
  else if letter = 0x6e then some 0x0a
  else if letter = 0x72 then some 0x0d
  else if letter = 0x74 then some 0x09
  else none

def hexValue (c : UInt16) : Option ℕ :=
  if 0x30 ≤ c ∧ c ≤ 0x39 then some (c.toNat - 0x30)
  else if 0x61 ≤ c ∧ c ≤ 0x66 then some (c.toNat - 0x57)
  else if 0x41 ≤ c ∧ c ≤ 0x46 then some (c.toNat - 0x37)
  else none

/-- The unit that four hexadecimal digits stand for. -/
def hexCode (first second third fourth : UInt16) : Option UInt16 := do
  let a ← hexValue first
  let b ← hexValue second
  let c ← hexValue third
  let d ← hexValue fourth
  return UInt16.ofNat (4096 * a + 256 * b + 16 * c + d)

/-- A string and its text between the quotes. -/
inductive StringBody : JsString → JsString → Prop
  | nil : StringBody [] []
  | unit {c s text} (hc : 0x20 ≤ c ∧ c ≠ 0x22 ∧ c ≠ 0x5c) (h : StringBody s text) :
      StringBody (c :: s) (c :: text)
  | escape {letter c s text} (hc : unescape letter = some c) (h : StringBody s text) :
      StringBody (c :: s) (0x5c :: letter :: text)
  | unicode {first second third fourth c s text} (hc : hexCode first second third fourth = some c)
      (h : StringBody s text) :
      StringBody (c :: s) (0x5c :: 0x75 :: first :: second :: third :: fourth :: text)

def isDigit (c : UInt16) : Bool := 0x30 ≤ c && c ≤ 0x39

def isNumberChar (c : UInt16) : Bool :=
  isDigit c || c == 0x2d || c == 0x2b || c == 0x2e || c == 0x65 || c == 0x45

/-- The text behind at least one digit. -/
def dropDigits : JsString → Option JsString
  | [] => none
  | c :: rest => if isDigit c then some (rest.dropWhile isDigit) else none

/-- The text behind `0|[1-9][0-9]*`. -/
def dropInteger : JsString → Option JsString
  | [] => none
  | c :: rest => if c = 0x30 then some rest else dropDigits (c :: rest)

/-- The text behind `(\.[0-9]+)?`. -/
def dropFraction : JsString → Option JsString
  | [] => some []
  | c :: rest => if c = 0x2e then dropDigits rest else some (c :: rest)

def dropSign : JsString → JsString
  | [] => []
  | c :: rest => if c = 0x2d ∨ c = 0x2b then rest else c :: rest

/-- The text behind `([eE][+-]?[0-9]+)?`. -/
def dropExponent : JsString → Option JsString
  | [] => some []
  | c :: rest => if c = 0x65 ∨ c = 0x45 then dropDigits (dropSign rest) else some (c :: rest)

/-- `-?(0|[1-9][0-9]*)(\.[0-9]+)?([eE][+-]?[0-9]+)?` -/
def isNumberToken (token : JsString) : Bool :=
  token.all isNumberChar &&
    ((dropInteger (if token.head? = some 0x2d then token.tail else token)).bind fun rest =>
      (dropFraction rest).bind dropExponent) == some []

/-- The number of a token: rounded, or infinite where it is out of range. -/
def numberValue (round : JsString → Option ℚ) (token : JsString) : JsonValue :=
  match round token with
  | some value => .num value
  | none => .infinity (token.head? = some 0x2d)

/-! ## Values -/

/-- `object[key] = value` -/
def setMember (fields : List (JsString × JsonValue)) (member : JsString × JsonValue) :
    List (JsString × JsonValue) :=
  if fields.any fun field => field.1 == member.1 then
    fields.map fun field => if field.1 == member.1 then member else field
  else fields ++ [member]

/-- The object of some members, one assigned after the other. -/
def assign (members : List (JsString × JsonValue)) : List (JsString × JsonValue) :=
  members.foldl setMember []

/-- What a text may render. -/
inductive Part where
  | value (value : JsonValue)
  | items (items : List JsonValue)
  | members (members : List (JsString × JsonValue))

section Grammar

variable (round : JsString → Option ℚ)

/-- A text renders a value, the items of an array or the members of an object; a value stands
without white space around it. -/
inductive Renders : Part → JsString → Prop
  | null : Renders (.value .null) (js "null")
  | true : Renders (.value (.bool true)) (js "true")
  | false : Renders (.value (.bool false)) (js "false")
  | number {token} (h : isNumberToken token = Bool.true) :
      Renders (.value (numberValue round token)) token
  | string {s text} (h : StringBody s text) : Renders (.value (.str s)) (0x22 :: text ++ [0x22])
  | emptyArray {w} (hw : AllSpace w) : Renders (.value (.arr [])) (0x5b :: w ++ [0x5d])
  | array {items text} (h : Renders (.items items) text) :
      Renders (.value (.arr items)) (0x5b :: text ++ [0x5d])
  | emptyObject {w} (hw : AllSpace w) : Renders (.value (.obj [])) (0x7b :: w ++ [0x7d])
  | object {members text} (h : Renders (.members members) text) :
      Renders (.value (.obj (assign members))) (0x7b :: text ++ [0x7d])
  | item {value text w w'} (hw : AllSpace w) (h : Renders (.value value) text)
      (hw' : AllSpace w') : Renders (.items [value]) (w ++ (text ++ w'))
  | moreItems {value text w w' items rest} (hw : AllSpace w) (h : Renders (.value value) text)
      (hw' : AllSpace w') (hrest : Renders (.items items) rest) :
      Renders (.items (value :: items)) (w ++ (text ++ (w' ++ 0x2c :: rest)))
  | member {key value body text w w' w'' after} (hw : AllSpace w) (hkey : StringBody key body)
      (hw' : AllSpace w') (hw'' : AllSpace w'') (h : Renders (.value value) text)
      (hend : AllSpace after) :
      Renders (.members [(key, value)])
        (w ++ 0x22 :: (body ++ 0x22 :: (w' ++ 0x3a :: (w'' ++ (text ++ after)))))
  | moreMembers {key value body text w w' w'' after members rest} (hw : AllSpace w)
      (hkey : StringBody key body) (hw' : AllSpace w') (hw'' : AllSpace w'')
      (h : Renders (.value value) text) (hend : AllSpace after)
      (hrest : Renders (.members members) rest) :
      Renders (.members ((key, value) :: members))
        (w ++ 0x22 :: (body ++ 0x22 :: (w' ++ 0x3a :: (w'' ++ (text ++ (after ++ 0x2c :: rest))))))

/-- A JSON text of a value: a rendering with white space around it. -/
inductive Text (value : JsonValue) : JsString → Prop
  | intro {w text w'} (hw : AllSpace w) (h : Renders round (.value value) text)
      (hw' : AllSpace w') : Text value (w ++ (text ++ w'))

end Grammar

/-! ## The parser -/

/-- The string behind an opening quote, and what is left behind the closing one. -/
def readString : JsString → Option (JsString × JsString)
  | [] => none
  | c :: rest =>
      if c = 0x22 then some ([], rest)
      else if c = 0x5c then
        match rest with
        | [] => none
        | letter :: rest =>
            if letter = 0x75 then
              match rest with
              | first :: second :: third :: fourth :: rest =>
                  (hexCode first second third fourth).bind fun code =>
                    (readString rest).map fun read => (code :: read.1, read.2)
              | _ => none
            else
              (unescape letter).bind fun unit =>
                (readString rest).map fun read => (unit :: read.1, read.2)
      else if c < 0x20 then none
      else (readString rest).map fun read => (c :: read.1, read.2)

/-- The text behind a given unit, after white space. -/
def expect (c : UInt16) (text : JsString) : Option JsString :=
  match skipSpace text with
  | [] => none
  | d :: rest => if d = c then some rest else none

/-- The text behind a comma or the closing unit, and whether it was the comma. -/
def separator (close : UInt16) (text : JsString) : Option (Bool × JsString) :=
  match skipSpace text with
  | [] => none
  | c :: rest =>
      if c = 0x2c then some (true, rest)
      else if c = close then some (false, rest)
      else none

section Parser

variable (round : JsString → Option ℚ)

/-- `null`, `true`, `false` or a number. -/
def parseScalar (text : JsString) : Option (JsonValue × JsString) :=
  let token := text.takeWhile isNumberChar
  if token = [] then
    if (js "null").isPrefixOf text then some (.null, text.drop 4)
    else if (js "true").isPrefixOf text then some (.bool true, text.drop 4)
    else if (js "false").isPrefixOf text then some (.bool false, text.drop 5)
    else none
  else if isNumberToken token then
    some (numberValue round token, text.dropWhile isNumberChar)
  else none

mutual

def parseValue : ℕ → JsString → Option (JsonValue × JsString)
  | 0, _ => none
  | _ + 1, [] => none
  | fuel + 1, c :: rest =>
      if c = 0x22 then (readString rest).map fun read => (.str read.1, read.2)
      else if c = 0x5b then
        match expect 0x5d rest with
        | some rest => some (.arr [], rest)
        | none => (parseItems fuel rest).map fun read => (.arr read.1, read.2)
      else if c = 0x7b then
        match expect 0x7d rest with
        | some rest => some (.obj [], rest)
        | none => (parseMembers fuel rest).map fun read => (.obj (assign read.1), read.2)
      else parseScalar round (c :: rest)

/-- The items up to the closing bracket, and what is left behind it. -/
def parseItems : ℕ → JsString → Option (List JsonValue × JsString)
  | 0, _ => none
  | fuel + 1, text =>
      (parseValue fuel (skipSpace text)).bind fun value =>
        (separator 0x5d value.2).bind fun next =>
          if next.1 then (parseItems fuel next.2).map fun more => (value.1 :: more.1, more.2)
          else some ([value.1], next.2)

/-- The members up to the closing brace, and what is left behind it. -/
def parseMembers : ℕ → JsString → Option (List (JsString × JsonValue) × JsString)
  | 0, _ => none
  | fuel + 1, text =>
      (expect 0x22 text).bind fun quoted =>
        (readString quoted).bind fun key =>
          (expect 0x3a key.2).bind fun valued =>
            (parseValue fuel (skipSpace valued)).bind fun value =>
              (separator 0x7d value.2).bind fun next =>
                if next.1 then
                  (parseMembers fuel next.2).map fun more =>
                    ((key.1, value.1) :: more.1, more.2)
                else some ([(key.1, value.1)], next.2)

end

/-- `JSON.parse`; a text that it throws for has no value. -/
def parse (text : JsString) : Option JsonValue :=
  (parseValue round (2 * text.length + 1) (skipSpace text)).bind fun read =>
    if skipSpace read.2 = [] then some read.1 else none

end Parser

/-! ## Rendered values are parsed -/

theorem skipSpace_append {w : JsString} (hw : AllSpace w) (text : JsString) :
    skipSpace (w ++ text) = skipSpace text := by
  induction w with
  | nil => rfl
  | cons c w ih =>
      rw [List.cons_append, skipSpace, List.dropWhile_cons_of_pos (hw c List.mem_cons_self)]
      exact ih fun d hd => hw d (List.mem_cons_of_mem _ hd)

theorem skipSpace_cons {c : UInt16} (hc : isSpace c = false) (text : JsString) :
    skipSpace (c :: text) = c :: text :=
  List.dropWhile_cons_of_neg (by simp [hc])

theorem expect_append {w : JsString} (hw : AllSpace w) {c : UInt16} (hc : isSpace c = false)
    (rest : JsString) : expect c (w ++ c :: rest) = some rest := by
  rw [expect, skipSpace_append hw, skipSpace_cons hc]
  exact if_pos rfl

theorem expect_of_ne {w : JsString} (hw : AllSpace w) {c d : UInt16} (hd : isSpace d = false)
    (hne : d ≠ c) (rest : JsString) : expect c (w ++ d :: rest) = none := by
  rw [expect, skipSpace_append hw, skipSpace_cons hd]
  exact if_neg hne

theorem separator_comma {w : JsString} (hw : AllSpace w) (close : UInt16) (rest : JsString) :
    separator close (w ++ 0x2c :: rest) = some (true, rest) := by
  rw [separator, skipSpace_append hw, skipSpace_cons rfl]
  exact if_pos rfl

theorem separator_close {w : JsString} (hw : AllSpace w) (close : UInt16)
    (hclose : isSpace close = false) (hcomma : close ≠ 0x2c) (rest : JsString) :
    separator close (w ++ close :: rest) = some (false, rest) := by
  rw [separator, skipSpace_append hw, skipSpace_cons hclose]
  exact (if_neg hcomma).trans (if_pos rfl)

theorem readString_append {s body : JsString} (h : StringBody s body) (rest : JsString) :
    readString (body ++ 0x22 :: rest) = some (s, rest) := by
  induction h with
  | nil =>
      rw [List.nil_append, readString.eq_def]
      rfl
  | @unit c s text hc _ ih =>
      have hlow : ¬ c < 0x20 := UInt16.not_lt.mpr hc.1
      rw [List.cons_append, readString.eq_def]
      simp only [if_neg hc.2.1, if_neg hc.2.2, if_neg hlow, ih, Option.map_some]
  | @escape letter c s text hc _ ih =>
      have hletter : letter ≠ 0x75 := by
        rintro rfl
        rw [show unescape 0x75 = none from by decide] at hc
        cases hc
      have hquote : (0x5c : UInt16) ≠ 0x22 := by decide
      rw [List.cons_append, List.cons_append, readString.eq_def]
      simp only [if_neg hquote, if_neg hletter, hc, Option.bind_some, ih, Option.map_some, if_true]
  | @unicode first second third fourth c s text hc _ ih =>
      have hquote : (0x5c : UInt16) ≠ 0x22 := by decide
      simp only [List.cons_append]
      rw [readString.eq_def]
      simp only [if_neg hquote, hc, Option.bind_some, ih, Option.map_some, if_true]

theorem hexValue_ne {c : UInt16} {value : ℕ} (h : hexValue c = some value) :
    c ≠ 0x22 ∧ c ≠ 0x5c := by
  refine ⟨?_, ?_⟩
  · rintro rfl
    rw [show hexValue 0x22 = none from by decide] at h
    cases h
  · rintro rfl
    rw [show hexValue 0x5c = none from by decide] at h
    cases h

/-- The digits of a code are neither quotes nor backslashes. -/
theorem hexCode_ne {first second third fourth code : UInt16}
    (h : hexCode first second third fourth = some code) :
    ∀ c ∈ [first, second, third, fourth], c ≠ 0x22 ∧ c ≠ 0x5c := by
  obtain ⟨a, ha, h⟩ := Option.bind_eq_some_iff.mp h
  obtain ⟨b, hb, h⟩ := Option.bind_eq_some_iff.mp h
  obtain ⟨c, hc, h⟩ := Option.bind_eq_some_iff.mp h
  obtain ⟨d, hd, _⟩ := Option.bind_eq_some_iff.mp h
  simp only [List.forall_mem_cons]
  exact ⟨hexValue_ne ha, hexValue_ne hb, hexValue_ne hc, hexValue_ne hd, nofun⟩

theorem isNumberChar_of_isSpace {c : UInt16} (h : isSpace c = true) : isNumberChar c = false := by
  simp only [isSpace, Bool.or_eq_true, beq_iff_eq] at h
  obtain ((rfl | rfl) | rfl) | rfl := h <;> decide

/-- No number goes on at the head of a text. -/
def EndsNumber (text : JsString) : Prop := ∀ c ∈ text.head?, isNumberChar c = false

theorem endsNumber_append {w : JsString} (hw : AllSpace w) {text : JsString}
    (htext : EndsNumber text) : EndsNumber (w ++ text) := by
  cases w with
  | nil => exact htext
  | cons c w =>
      intro d hd
      obtain rfl : c = d := by simpa using hd
      exact isNumberChar_of_isSpace (hw c List.mem_cons_self)

theorem endsNumber_cons {c : UInt16} (hc : isNumberChar c = false) (text : JsString) :
    EndsNumber (c :: text) := by
  intro d hd
  obtain rfl : c = d := by simpa using hd
  exact hc

/-- A number starts with a unit of numbers, and has no others. -/
theorem isNumberToken_shape {token : JsString} (h : isNumberToken token = true) :
    token ≠ [] ∧ ∀ c ∈ token, isNumberChar c = true := by
  obtain ⟨hall, hshape⟩ := Bool.and_eq_true_iff.mp h
  refine ⟨?_, List.all_eq_true.mp hall⟩
  rintro rfl
  exact absurd hshape (by decide)

section Parsed

variable {round : JsString → Option ℚ}

theorem parseScalar_token {token : JsString} (h : isNumberToken token = true) {rest : JsString}
    (hrest : EndsNumber rest) :
    parseScalar round (token ++ rest) = some (numberValue round token, rest) := by
  obtain ⟨hne, hall⟩ := isNumberToken_shape h
  have hend : rest.takeWhile isNumberChar = [] ∧ rest.dropWhile isNumberChar = rest := by
    cases rest with
    | nil => exact ⟨rfl, rfl⟩
    | cons c rest =>
        have hc : isNumberChar c = false := hrest c rfl
        exact ⟨List.takeWhile_cons_of_neg (by simp [hc]), List.dropWhile_cons_of_neg (by simp [hc])⟩
  have htake : (token ++ rest).takeWhile isNumberChar = token := by
    rw [List.takeWhile_append_of_pos hall, hend.1, List.append_nil]
  have hdrop : (token ++ rest).dropWhile isNumberChar = rest := by
    rw [List.dropWhile_append_of_pos hall, hend.2]
  simp only [parseScalar, htake, hdrop, if_neg hne, if_pos h]

theorem parseScalar_null (rest : JsString) :
    parseScalar round (js "null" ++ rest) = some (.null, rest) := by
  rw [show js "null" = [0x6e, 0x75, 0x6c, 0x6c] from by decide]
  simp [parseScalar, show js "null" = [0x6e, 0x75, 0x6c, 0x6c] from by decide,
    show isNumberChar 0x6e = false from by decide]

theorem parseScalar_true (rest : JsString) :
    parseScalar round (js "true" ++ rest) = some (.bool true, rest) := by
  rw [show js "true" = [0x74, 0x72, 0x75, 0x65] from by decide]
  simp [parseScalar, show js "true" = [0x74, 0x72, 0x75, 0x65] from by decide,
    show js "null" = [0x6e, 0x75, 0x6c, 0x6c] from by decide,
    show isNumberChar 0x74 = false from by decide]

theorem parseScalar_false (rest : JsString) :
    parseScalar round (js "false" ++ rest) = some (.bool false, rest) := by
  rw [show js "false" = [0x66, 0x61, 0x6c, 0x73, 0x65] from by decide]
  simp [parseScalar, show js "false" = [0x66, 0x61, 0x6c, 0x73, 0x65] from by decide,
    show js "true" = [0x74, 0x72, 0x75, 0x65] from by decide,
    show js "null" = [0x6e, 0x75, 0x6c, 0x6c] from by decide,
    show isNumberChar 0x66 = false from by decide]

/-- The heads of values: no white space and no closing unit. -/
def startsValue (c : UInt16) : Bool :=
  isNumberChar c || c == 0x22 || c == 0x5b || c == 0x7b || c == 0x6e || c == 0x74 || c == 0x66

theorem startsValue_ne {c : UInt16} (h : startsValue c = true) :
    isSpace c = false ∧ c ≠ 0x5d ∧ c ≠ 0x7d := by
  refine ⟨?_, ?_, ?_⟩
  · cases hspace : isSpace c with
    | false => rfl
    | true =>
        simp only [isSpace, Bool.or_eq_true, beq_iff_eq] at hspace
        obtain ((rfl | rfl) | rfl) | rfl := hspace <;> exact absurd h (by decide)
  · rintro rfl
    exact absurd h (by decide)
  · rintro rfl
    exact absurd h (by decide)

theorem startsValue_of_renders {value : JsonValue} {text : JsString}
    (h : Renders round (.value value) text) :
    ∃ c rest, text = c :: rest ∧ startsValue c = true := by
  cases h with
  | null => exact ⟨0x6e, [0x75, 0x6c, 0x6c], by decide, by decide⟩
  | true => exact ⟨0x74, [0x72, 0x75, 0x65], by decide, by decide⟩
  | false => exact ⟨0x66, [0x61, 0x6c, 0x73, 0x65], by decide, by decide⟩
  | number h =>
      obtain ⟨hne, hall⟩ := isNumberToken_shape h
      obtain ⟨c, rest, rfl⟩ := List.exists_cons_of_ne_nil hne
      exact ⟨c, rest, rfl, by simp [startsValue, hall c List.mem_cons_self]⟩
  | string _ => exact ⟨_, _, List.cons_append, by decide⟩
  | emptyArray _ => exact ⟨_, _, List.cons_append, by decide⟩
  | array _ => exact ⟨_, _, List.cons_append, by decide⟩
  | emptyObject _ => exact ⟨_, _, List.cons_append, by decide⟩
  | object _ => exact ⟨_, _, List.cons_append, by decide⟩

/-- White space before a value is skipped, and the value is no closing unit. -/
theorem skipSpace_renders {value : JsonValue} {text : JsString}
    (h : Renders round (.value value) text) {w : JsString} (hw : AllSpace w) (rest : JsString) :
    skipSpace (w ++ (text ++ rest)) = text ++ rest := by
  obtain ⟨c, tail, rfl, hc⟩ := startsValue_of_renders h
  rw [skipSpace_append hw]
  exact skipSpace_cons (startsValue_ne hc).1 _

/-- The parser reads a part back: a value with anything behind it that no number goes on with, items
and members with their closing unit behind them. -/
def Parses (round : JsString → Option ℚ) : Part → JsString → Prop
  | .value value, text => ∀ fuel rest, 2 * text.length ≤ fuel →
      EndsNumber rest ∨ text.head? = some 0x7b →
      parseValue round fuel (text ++ rest) = some (value, rest)
  | .items items, text => ∀ fuel rest, 2 * text.length + 1 ≤ fuel →
      parseItems round fuel (text ++ 0x5d :: rest) = some (items, rest)
  | .members members, text => ∀ fuel rest, 2 * text.length + 1 ≤ fuel →
      parseMembers round fuel (text ++ 0x7d :: rest) = some (members, rest)

theorem parseValue_scalar (fuel : ℕ) {c : UInt16} (hc : c ≠ 0x22 ∧ c ≠ 0x5b ∧ c ≠ 0x7b)
    (rest : JsString) :
    parseValue round (fuel + 1) (c :: rest) = parseScalar round (c :: rest) := by
  simp only [parseValue, if_neg hc.1, if_neg hc.2.1, if_neg hc.2.2]

theorem parses_scalar {value : JsonValue} {text : JsString} (c : UInt16) (tail : JsString)
    (htext : text = c :: tail) (hc : c ≠ 0x22 ∧ c ≠ 0x5b ∧ c ≠ 0x7b)
    (h : ∀ rest, EndsNumber rest → parseScalar round (text ++ rest) = some (value, rest)) :
    Parses round (.value value) text := by
  subst htext
  intro fuel rest hfuel hrest
  have hends : EndsNumber rest := hrest.resolve_right fun hhead =>
    hc.2.2 (Option.some.inj hhead)
  obtain ⟨fuel, rfl⟩ : ∃ n, fuel = n + 1 := ⟨fuel - 1, by simp at hfuel; omega⟩
  rw [List.cons_append, parseValue_scalar fuel hc]
  exact h rest hends

theorem parses_token {token : JsString} (h : isNumberToken token = true) :
    Parses round (.value (numberValue round token)) token := by
  obtain ⟨hne, hall⟩ := isNumberToken_shape h
  obtain ⟨c, tail, rfl⟩ := List.exists_cons_of_ne_nil hne
  have hc : isNumberChar c = true := hall c List.mem_cons_self
  refine parses_scalar c tail rfl ⟨?_, ?_, ?_⟩ fun rest hrest => parseScalar_token h hrest
  · rintro rfl
    exact absurd hc (by decide)
  · rintro rfl
    exact absurd hc (by decide)
  · rintro rfl
    exact absurd hc (by decide)

theorem parses_string {s text : JsString} (h : StringBody s text) :
    Parses round (.value (.str s)) (0x22 :: text ++ [0x22]) := by
  intro fuel rest hfuel _
  obtain ⟨fuel, rfl⟩ : ∃ n, fuel = n + 1 := ⟨fuel - 1, by simp at hfuel; omega⟩
  rw [show 0x22 :: text ++ [0x22] ++ rest = 0x22 :: (text ++ 0x22 :: rest) from by simp]
  simp only [parseValue, readString_append h, Option.map_some, if_true]

/-- An array is read whatever stands behind it. -/
theorem parseValue_emptyArray {w : JsString} (hw : AllSpace w) (fuel : ℕ) (rest : JsString) :
    parseValue round (fuel + 1) (0x5b :: w ++ [0x5d] ++ rest) = some (.arr [], rest) := by
  rw [show 0x5b :: w ++ [0x5d] ++ rest = 0x5b :: (w ++ 0x5d :: rest) from by simp, parseValue,
    if_neg (by decide), if_pos rfl, expect_append hw (by decide)]

theorem parses_emptyArray {w : JsString} (hw : AllSpace w) :
    Parses round (.value (.arr [])) (0x5b :: w ++ [0x5d]) := by
  intro fuel rest hfuel _
  obtain ⟨fuel, rfl⟩ : ∃ n, fuel = n + 1 := ⟨fuel - 1, by simp at hfuel; omega⟩
  exact parseValue_emptyArray hw fuel rest

theorem parses_emptyObject {w : JsString} (hw : AllSpace w) :
    Parses round (.value (.obj [])) (0x7b :: w ++ [0x7d]) := by
  intro fuel rest hfuel _
  obtain ⟨fuel, rfl⟩ : ∃ n, fuel = n + 1 := ⟨fuel - 1, by simp at hfuel; omega⟩
  rw [show 0x7b :: w ++ [0x7d] ++ rest = 0x7b :: (w ++ 0x7d :: rest) from by simp, parseValue,
    if_neg (by decide), if_neg (by decide), if_pos rfl, expect_append hw (by decide)]

/-- Items start with white space and the head of a value. -/
theorem expect_of_items {items : List JsonValue} {text : JsString}
    (h : Renders round (.items items) text) (rest : JsString) :
    expect 0x5d (text ++ rest) = none := by
  have hstart {value w text'} (hw : AllSpace w) (hvalue : Renders round (.value value) text')
      (rest : JsString) : expect 0x5d (w ++ (text' ++ rest)) = none := by
    obtain ⟨c, tail, rfl, hc⟩ := startsValue_of_renders hvalue
    obtain ⟨hspace, hne, _⟩ := startsValue_ne hc
    exact expect_of_ne hw hspace hne (tail ++ rest)
  cases h with
  | item hw hvalue hw' =>
      simp only [List.append_assoc]
      exact hstart hw hvalue _
  | moreItems hw hvalue hw' hrest =>
      simp only [List.append_assoc]
      exact hstart hw hvalue _

/-- Members start with white space and the quote of a key. -/
theorem expect_of_members {members : List (JsString × JsonValue)} {text : JsString}
    (h : Renders round (.members members) text) (rest : JsString) :
    expect 0x7d (text ++ rest) = none := by
  cases h with
  | member hw _ _ _ _ _ =>
      rw [List.append_assoc]
      exact expect_of_ne hw (by decide) (by decide) _
  | moreMembers hw _ _ _ _ _ _ =>
      rw [List.append_assoc]
      exact expect_of_ne hw (by decide) (by decide) _

theorem parseValue_array {items : List JsonValue} {text : JsString}
    (h : Renders round (.items items) text) (ih : Parses round (.items items) text) {fuel : ℕ}
    (hfuel : 2 * text.length + 1 ≤ fuel) (rest : JsString) :
    parseValue round (fuel + 1) (0x5b :: text ++ [0x5d] ++ rest) = some (.arr items, rest) := by
  rw [show 0x5b :: text ++ [0x5d] ++ rest = 0x5b :: (text ++ 0x5d :: rest) from by simp, parseValue,
    if_neg (by decide), if_pos rfl, expect_of_items h, ih fuel rest hfuel]
  rfl

theorem parses_array {items : List JsonValue} {text : JsString}
    (h : Renders round (.items items) text) (ih : Parses round (.items items) text) :
    Parses round (.value (.arr items)) (0x5b :: text ++ [0x5d]) := by
  intro fuel rest hfuel _
  simp only [List.cons_append, List.length_cons, List.length_append, List.length_nil] at hfuel
  obtain ⟨fuel, rfl⟩ : ∃ n, fuel = n + 1 := ⟨fuel - 1, by omega⟩
  exact parseValue_array h ih (by omega) rest

theorem parses_object {members : List (JsString × JsonValue)} {text : JsString}
    (h : Renders round (.members members) text) (ih : Parses round (.members members) text) :
    Parses round (.value (.obj (assign members))) (0x7b :: text ++ [0x7d]) := by
  intro fuel rest hfuel _
  simp only [List.cons_append, List.length_cons, List.length_append, List.length_nil] at hfuel
  obtain ⟨fuel, rfl⟩ : ∃ n, fuel = n + 1 := ⟨fuel - 1, by omega⟩
  rw [show 0x7b :: text ++ [0x7d] ++ rest = 0x7b :: (text ++ 0x7d :: rest) from by simp, parseValue,
    if_neg (by decide), if_neg (by decide), if_pos rfl, expect_of_members h,
    ih fuel rest (by omega)]
  rfl

/-- A value between white space is read up to the unit that ends it. -/
theorem parseValue_spaced {value : JsonValue} {text : JsString}
    (h : Renders round (.value value) text) (ih : Parses round (.value value) text)
    {w w' : JsString} (hw : AllSpace w) (hw' : AllSpace w') (fuel : ℕ)
    (hfuel : 2 * text.length ≤ fuel) {c : UInt16} (hc : isNumberChar c = false) (rest : JsString) :
    parseValue round fuel (skipSpace (w ++ (text ++ (w' ++ c :: rest)))) =
      some (value, w' ++ c :: rest) := by
  rw [skipSpace_renders h hw]
  exact ih fuel _ hfuel (.inl (endsNumber_append hw' (endsNumber_cons hc rest)))

theorem parses_item {value : JsonValue} {text w w' : JsString} (hw : AllSpace w)
    (h : Renders round (.value value) text) (hw' : AllSpace w')
    (ih : Parses round (.value value) text) :
    Parses round (.items [value]) (w ++ (text ++ w')) := by
  intro fuel rest hfuel
  simp only [List.length_append] at hfuel
  obtain ⟨fuel, rfl⟩ : ∃ n, fuel = n + 1 := ⟨fuel - 1, by omega⟩
  have hread := parseValue_spaced h ih hw hw' fuel (by omega) (c := 0x5d) (by decide) rest
  simp only [List.append_assoc, parseItems, hread, Option.bind_some,
    separator_close hw' 0x5d (by decide) (by decide) rest, if_neg Bool.false_ne_true]

theorem parses_moreItems {value : JsonValue} {items : List JsonValue} {text w w' more : JsString}
    (hw : AllSpace w) (h : Renders round (.value value) text) (hw' : AllSpace w')
    (ih : Parses round (.value value) text) (ihmore : Parses round (.items items) more) :
    Parses round (.items (value :: items)) (w ++ (text ++ (w' ++ 0x2c :: more))) := by
  intro fuel rest hfuel
  simp only [List.length_append, List.length_cons] at hfuel
  obtain ⟨fuel, rfl⟩ : ∃ n, fuel = n + 1 := ⟨fuel - 1, by omega⟩
  have hread := parseValue_spaced h ih hw hw' fuel (by omega) (c := 0x2c) (by decide)
    (more ++ 0x5d :: rest)
  simp only [List.append_assoc, List.cons_append, parseItems, hread, Option.bind_some,
    separator_comma hw', if_true, ihmore fuel rest (by omega), Option.map_some]

theorem parses_member {key body : JsString} {value : JsonValue} {text w w' w'' after : JsString}
    (hw : AllSpace w) (hkey : StringBody key body) (hw' : AllSpace w') (hw'' : AllSpace w'')
    (h : Renders round (.value value) text) (hend : AllSpace after)
    (ih : Parses round (.value value) text) :
    Parses round (.members [(key, value)])
      (w ++ 0x22 :: (body ++ 0x22 :: (w' ++ 0x3a :: (w'' ++ (text ++ after))))) := by
  intro fuel rest hfuel
  simp only [List.length_append, List.length_cons] at hfuel
  obtain ⟨fuel, rfl⟩ : ∃ n, fuel = n + 1 := ⟨fuel - 1, by omega⟩
  have hread := parseValue_spaced h ih hw'' hend fuel (by omega) (c := 0x7d) (by decide) rest
  simp only [List.append_assoc, List.cons_append, parseMembers,
    expect_append hw (c := 0x22) (by decide), readString_append hkey,
    expect_append hw' (c := 0x3a) (by decide), hread, Option.bind_some,
    separator_close hend 0x7d (by decide) (by decide) rest, if_neg Bool.false_ne_true]

theorem parses_moreMembers {key body : JsString} {value : JsonValue}
    {members : List (JsString × JsonValue)} {text w w' w'' after more : JsString}
    (hw : AllSpace w) (hkey : StringBody key body) (hw' : AllSpace w') (hw'' : AllSpace w'')
    (h : Renders round (.value value) text) (hend : AllSpace after)
    (ih : Parses round (.value value) text) (ihmore : Parses round (.members members) more) :
    Parses round (.members ((key, value) :: members))
      (w ++ 0x22 ::
        (body ++ 0x22 :: (w' ++ 0x3a :: (w'' ++ (text ++ (after ++ 0x2c :: more)))))) := by
  intro fuel rest hfuel
  simp only [List.length_append, List.length_cons] at hfuel
  obtain ⟨fuel, rfl⟩ : ∃ n, fuel = n + 1 := ⟨fuel - 1, by omega⟩
  have hread := parseValue_spaced h ih hw'' hend fuel (by omega) (c := 0x2c) (by decide)
    (more ++ 0x7d :: rest)
  simp only [List.append_assoc, List.cons_append, parseMembers,
    expect_append hw (c := 0x22) (by decide), readString_append hkey,
    expect_append hw' (c := 0x3a) (by decide), hread, Option.bind_some, separator_comma hend,
    if_true, ihmore fuel rest (by omega), Option.map_some]

/-- What a text renders is what the parser reads. -/
theorem parses_of_renders {part : Part} {text : JsString} (h : Renders round part text) :
    Parses round part text := by
  induction h with
  | null =>
      exact parses_scalar 0x6e [0x75, 0x6c, 0x6c] (by decide) (by decide) fun rest _ =>
        parseScalar_null rest
  | true =>
      exact parses_scalar 0x74 [0x72, 0x75, 0x65] (by decide) (by decide) fun rest _ =>
        parseScalar_true rest
  | false =>
      exact parses_scalar 0x66 [0x61, 0x6c, 0x73, 0x65] (by decide) (by decide) fun rest _ =>
        parseScalar_false rest
  | number h => exact parses_token h
  | string h => exact parses_string h
  | emptyArray hw => exact parses_emptyArray hw
  | array h ih => exact parses_array h ih
  | emptyObject hw => exact parses_emptyObject hw
  | object h ih => exact parses_object h ih
  | item hw h hw' ih => exact parses_item hw h hw' ih
  | moreItems hw h hw' _ ih ihmore => exact parses_moreItems hw h hw' ih ihmore
  | member hw hkey hw' hw'' h hend ih => exact parses_member hw hkey hw' hw'' h hend ih
  | moreMembers hw hkey hw' hw'' h hend _ ih ihmore =>
      exact parses_moreMembers hw hkey hw' hw'' h hend ih ihmore

/-! ## Objects -/

theorem numberValue_ne_obj (token : JsString) (fields : List (JsString × JsonValue)) :
    numberValue round token ≠ .obj fields := by
  rw [numberValue]
  split <;> exact nofun

theorem head_of_renders_obj {fields : List (JsString × JsonValue)} {text : JsString}
    (h : Renders round (.value (.obj fields)) text) : text.head? = some 0x7b := by
  generalize hpart : Part.value (.obj fields) = part at h
  cases h with
  | number _ =>
      injection hpart with hvalue
      exact (numberValue_ne_obj _ _ hvalue.symm).elim
  | emptyObject _ => rfl
  | object _ => rfl
  | _ => cases hpart

/-- White space, a rendered object and something else: the text has a value only where the rest is
white space, and that value is the object. -/
theorem parse_object_append {fields : List (JsString × JsonValue)} {text w : JsString}
    (hw : AllSpace w) (h : Renders round (.value (.obj fields)) text) (rest : JsString) :
    parse round (w ++ (text ++ rest)) =
      if skipSpace rest = [] then some (.obj fields) else none := by
  have hhead : text.head? = some 0x7b := head_of_renders_obj h
  rw [parse, skipSpace_renders h hw,
    parses_of_renders h _ rest (by simp only [List.length_append]; omega) (.inr hhead),
    Option.bind_some]

theorem parseScalar_obj {text rest : JsString} {fields : List (JsString × JsonValue)} :
    parseScalar round text ≠ some (.obj fields, rest) := by
  intro h
  by_cases htoken : text.takeWhile isNumberChar = []
  · simp only [parseScalar, if_pos htoken] at h
    split_ifs at h <;> cases h
  · simp only [parseScalar, if_neg htoken] at h
    split_ifs at h
    exact numberValue_ne_obj _ _ (congrArg Prod.fst (Option.some.inj h))

/-- Only a text with an opening brace at its head has an object as its value. -/
theorem parseValue_obj {fuel : ℕ} {text rest : JsString} {fields : List (JsString × JsonValue)}
    (h : parseValue round fuel text = some (.obj fields, rest)) : text.head? = some 0x7b := by
  cases fuel with
  | zero => exact nomatch h
  | succ fuel =>
      cases text with
      | nil => exact nomatch h
      | cons c text =>
          by_cases hbrace : c = 0x7b
          · rw [hbrace]
            rfl
          by_cases hquote : c = 0x22
          · rw [parseValue, if_pos hquote] at h
            obtain ⟨read, _, hread⟩ := Option.map_eq_some_iff.mp h
            cases hread
          by_cases hbracket : c = 0x5b
          · rw [parseValue, if_neg hquote, if_pos hbracket] at h
            split at h
            · cases h
            · obtain ⟨read, _, hread⟩ := Option.map_eq_some_iff.mp h
              cases hread
          rw [parseValue_scalar fuel ⟨hquote, hbracket, hbrace⟩] at h
          exact (parseScalar_obj h).elim

/-! ## Objects and arrays -/

def isContainer : JsonValue → Bool
  | .obj _ => true
  | .arr _ => true
  | _ => false

theorem isContainer_numberValue (token : JsString) :
    isContainer (numberValue round token) = false := by
  rw [numberValue]
  split <;> rfl

/-- A rendered object or array is read whatever stands behind it. -/
theorem parseValue_container {value : JsonValue} {text : JsString}
    (hvalue : isContainer value = true) (h : Renders round (.value value) text) {fuel : ℕ}
    (hfuel : 2 * text.length ≤ fuel) (rest : JsString) :
    parseValue round fuel (text ++ rest) = some (value, rest) := by
  generalize hpart : Part.value value = part at h
  cases h with
  | number _ =>
      injection hpart with hnumber
      rw [hnumber, isContainer_numberValue] at hvalue
      cases hvalue
  | emptyArray hw =>
      injection hpart with hnil
      obtain ⟨fuel, rfl⟩ : ∃ n, fuel = n + 1 := ⟨fuel - 1, by simp at hfuel; omega⟩
      rw [hnil]
      exact parseValue_emptyArray hw fuel rest
  | array h =>
      injection hpart with hitems
      simp only [List.cons_append, List.length_cons, List.length_append, List.length_nil] at hfuel
      obtain ⟨fuel, rfl⟩ : ∃ n, fuel = n + 1 := ⟨fuel - 1, by omega⟩
      rw [hitems]
      exact parseValue_array h (parses_of_renders h) (by omega) rest
  | emptyObject hw =>
      injection hpart with hnil
      rw [hnil]
      exact parses_emptyObject hw fuel rest hfuel (.inr rfl)
  | object h =>
      injection hpart with hobject
      rw [hobject]
      exact parses_of_renders (.object h) fuel rest hfuel (.inr rfl)
  | item => cases hpart
  | moreItems => cases hpart
  | member => cases hpart
  | moreMembers => cases hpart
  | _ =>
      injection hpart with hscalar
      rw [hscalar] at hvalue
      cases hvalue

/-- White space, a rendered object or array and something else: the text has a value only where
the rest is white space. -/
theorem parse_container_append {value : JsonValue} {text w : JsString}
    (hvalue : isContainer value = true) (hw : AllSpace w) (h : Renders round (.value value) text)
    (rest : JsString) :
    parse round (w ++ (text ++ rest)) = if skipSpace rest = [] then some value else none := by
  rw [parse, skipSpace_renders h hw,
    parseValue_container hvalue h (by simp only [List.length_append]; omega) rest,
    Option.bind_some]

/-- No string, object or array is opened. -/
def isPlain (c : UInt16) : Bool := c != 0x22 && c != 0x5b && c != 0x7b

theorem isPlain_of_isNumberChar {c : UInt16} (h : isNumberChar c = true) : isPlain c = true := by
  simp only [isPlain, Bool.and_eq_true, bne_iff_ne]
  refine ⟨⟨?_, ?_⟩, ?_⟩ <;>
  · rintro rfl
    exact absurd h (by decide)

/-- What is read of a scalar opens nothing. -/
theorem parseScalar_plain {text : JsString} {read : JsonValue × JsString}
    (h : parseScalar round text = some read) :
    ∃ token, text = token ++ read.2 ∧ ∀ c ∈ token, isPlain c = true := by
  have hword (word : String) (n : ℕ) (hn : n = (js word).length)
      (hword : (js word).isPrefixOf text = true) (hplain : ∀ c ∈ js word, isPlain c = true) :
      ∃ token, text = token ++ text.drop n ∧ ∀ c ∈ token, isPlain c = true := by
    obtain ⟨rest, rfl⟩ := List.isPrefixOf_iff_prefix.mp hword
    exact ⟨js word, by rw [hn, List.drop_left], hplain⟩
  unfold parseScalar at h
  dsimp only at h
  split_ifs at h with htoken hnull htrue hfalse hnumber
  · cases h
    exact hword "null" 4 (by decide) hnull (List.all_iff_forall_prop.mp (by decide))
  · cases h
    exact hword "true" 4 (by decide) htrue (List.all_iff_forall_prop.mp (by decide))
  · cases h
    exact hword "false" 5 (by decide) hfalse (List.all_iff_forall_prop.mp (by decide))
  · cases h
    exact ⟨_, List.takeWhile_append_dropWhile.symm,
      fun c hc => isPlain_of_isNumberChar (List.mem_takeWhile_imp hc)⟩

/-- A text that opens a string, an object or an array behind something else than white space has no
value. -/
theorem parse_of_plain {gap text : JsString} (hgap : ∀ c ∈ gap, isPlain c = true)
    (hspace : ¬ AllSpace gap) {opening : UInt16} (hopening : isPlain opening = false)
    (hmem : opening ∈ text) : parse round (gap ++ text) = none := by
  have hne : gap.dropWhile isSpace ≠ [] := fun hnil =>
    hspace fun c hc => List.dropWhile_eq_nil_iff.mp hnil c hc
  have hskip : skipSpace (gap ++ text) = gap.dropWhile isSpace ++ text := by
    rw [skipSpace, List.dropWhile_append, if_neg (by simpa using hne)]
  obtain ⟨first, behind, hfirst⟩ := List.exists_cons_of_ne_nil hne
  have hplain : isPlain first = true := by
    have hfirstmem : first ∈ gap.dropWhile isSpace := by
      rw [hfirst]
      exact List.mem_cons_self
    exact hgap first ((List.dropWhile_suffix _).mem hfirstmem)
  simp only [isPlain, Bool.and_eq_true, bne_iff_ne] at hplain
  rw [parse, hskip, hfirst, List.cons_append,
    parseValue_scalar _ ⟨hplain.1.1, hplain.1.2, hplain.2⟩]
  cases hread : parseScalar round (first :: (behind ++ text)) with
  | none => rfl
  | some read =>
      obtain ⟨token, htoken, hall⟩ := parseScalar_plain hread
      have hrest : opening ∈ read.2 := by
        have hin : opening ∈ token ++ read.2 := by
          rw [← htoken]
          exact List.mem_cons_of_mem _ (List.mem_append_right _ hmem)
        rcases List.mem_append.mp hin with hin | hin
        · rw [hall opening hin] at hopening
          cases hopening
        · exact hin
      have hleft : skipSpace read.2 ≠ [] := by
        intro hnil
        have hblank := List.dropWhile_eq_nil_iff.mp hnil opening hrest
        simp only [isSpace, Bool.or_eq_true, beq_iff_eq] at hblank
        obtain ((rfl | rfl) | rfl) | rfl := hblank <;> exact absurd hopening (by decide)
      rw [Option.bind_some, if_neg hleft]

end Parsed

/-! ## Scanners

A scanner goes over a text without parsing it: it passes over strings as a whole and keeps account
of what is opened and closed outside of them. -/

/-- A unit that opens or closes something. -/
def isMark (c : UInt16) : Bool := c == 0x22 || c == 0x5b || c == 0x5d || c == 0x7b || c == 0x7d

/-- What holds of a text that is put together from units without meaning, strings, braces and
brackets. -/
structure ScanClosed (P : JsString → Prop) : Prop where
  nil : P []
  append {a b : JsString} : P a → P b → P (a ++ b)
  unit {c : UInt16} : isMark c = false → P [c]
  quoted {s body : JsString} : StringBody s body → P (0x22 :: body ++ [0x22])
  braces {text : JsString} : P text → P (0x7b :: text ++ [0x7d])
  brackets {text : JsString} : P text → P (0x5b :: text ++ [0x5d])

namespace ScanClosed

variable {P : JsString → Prop} (h : ScanClosed P)

include h

theorem cons {c : UInt16} (hc : isMark c = false) {text : JsString} (htext : P text) :
    P (c :: text) :=
  h.append (h.unit hc) htext

theorem plain {text : JsString} (htext : ∀ c ∈ text, isMark c = false) : P text := by
  induction text with
  | nil => exact h.nil
  | cons c text ih =>
      exact h.cons (htext c List.mem_cons_self) (ih fun d hd => htext d (List.mem_cons_of_mem _ hd))

theorem space {w : JsString} (hw : AllSpace w) : P w := by
  refine h.plain fun c hc => ?_
  have hspace := hw c hc
  simp only [isSpace, Bool.or_eq_true, beq_iff_eq] at hspace
  obtain ((rfl | rfl) | rfl) | rfl := hspace <;> decide

/-- It holds of whatever a text renders. -/
theorem of_renders {round : JsString → Option ℚ} {part : Part} {text : JsString}
    (hrenders : Renders round part text) : P text := by
  induction hrenders with
  | null => exact h.plain (List.all_iff_forall_prop.mp (by decide))
  | true => exact h.plain (List.all_iff_forall_prop.mp (by decide))
  | false => exact h.plain (List.all_iff_forall_prop.mp (by decide))
  | number htoken =>
      refine h.plain fun c hc => ?_
      have hnumber := (isNumberToken_shape htoken).2 c hc
      cases hmark : isMark c with
      | false => rfl
      | true =>
          simp only [isMark, Bool.or_eq_true, beq_iff_eq] at hmark
          obtain (((rfl | rfl) | rfl) | rfl) | rfl := hmark <;> exact absurd hnumber (by decide)
  | string hbody => exact h.quoted hbody
  | emptyArray hw => exact h.brackets (h.space hw)
  | array _ ih => exact h.brackets ih
  | emptyObject hw => exact h.braces (h.space hw)
  | object _ ih => exact h.braces ih
  | item hw _ hw' ih => exact h.append (h.space hw) (h.append ih (h.space hw'))
  | moreItems hw _ hw' _ ih ihmore =>
      have hmore := h.append (h.space hw') (h.cons (c := 0x2c) (by decide) ihmore)
      exact h.append (h.space hw) (h.append ih hmore)
  | member hw hkey hw' hw'' _ hend ih =>
      have hvalue := h.append (h.space hw'') (h.append ih (h.space hend))
      have hrest := h.append (h.space hw') (h.cons (c := 0x3a) (by decide) hvalue)
      have hmember := h.append (h.space hw) (h.append (h.quoted hkey) hrest)
      simpa using hmember
  | moreMembers hw hkey hw' hw'' _ hend _ ih ihmore =>
      have hmore := h.append (h.space hend) (h.cons (c := 0x2c) (by decide) ihmore)
      have hvalue := h.append (h.space hw'') (h.append ih hmore)
      have hrest := h.append (h.space hw') (h.cons (c := 0x3a) (by decide) hvalue)
      have hmember := h.append (h.space hw) (h.append (h.quoted hkey) hrest)
      simpa using hmember

end ScanClosed

/-- A scanner that passes over the units of a string and over the unit behind a backslash comes to
the closing quote, whatever is escaped. -/
theorem scan_body {scan : JsString → Option (JsString × JsString)}
    {left : JsString → Option (JsString × JsString)}
    (hunit : ∀ c text, c ≠ 0x22 ∧ c ≠ 0x5c →
      scan (c :: text) = (scan text).map fun cut => (c :: cut.1, cut.2))
    (hescape : ∀ letter text, scan (0x5c :: letter :: text) =
      (scan text).map fun cut => (0x5c :: letter :: cut.1, cut.2))
    (hquote : ∀ text, scan (0x22 :: text) = (left text).map fun cut => (0x22 :: cut.1, cut.2))
    {s body : JsString} (h : StringBody s body) (rest : JsString) :
    scan (body ++ 0x22 :: rest) = (left rest).map fun cut => (body ++ 0x22 :: cut.1, cut.2) := by
  induction h with
  | nil => exact hquote rest
  | @unit c s body hc _ ih =>
      rw [List.cons_append, hunit c _ hc.2, ih, Option.map_map]
      rfl
  | @escape letter c s body hc _ ih =>
      rw [List.cons_append, List.cons_append, hescape, ih, Option.map_map]
      rfl
  | @unicode first second third fourth c s body hc _ ih =>
      have hne := hexCode_ne hc
      simp only [List.forall_mem_cons] at hne
      obtain ⟨hfirst, hsecond, hthird, hfourth, _⟩ := hne
      simp only [List.cons_append]
      rw [hescape, hunit _ _ hfirst, hunit _ _ hsecond, hunit _ _ hthird, hunit _ _ hfourth, ih]
      simp only [Option.map_map]
      rfl

end JsonGrammar

end Foundation
