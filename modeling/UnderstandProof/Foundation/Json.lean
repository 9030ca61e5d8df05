import UnderstandProof.Foundation.Text

/-!
# JSON values and their text

A JSON value whose numbers are natural, and the text that `JSON.stringify`
prints for it: object fields in their order, strings with the escapes of the
language, lone surrogates as `\uXXXX`. The stable text does not depend on the order of the
fields: the keys are in the order of their code units.
-/

namespace Foundation

inductive Json where
  | null
  | bool (b : Bool)
  | num (n : ℕ)
  | str (s : JsString)
  | arr (items : List Json)
  | obj (fields : List (JsString × Json))

namespace Json

def hexDigit (n : ℕ) : UInt16 :=
  if n < 10 then UInt16.ofNat (0x30 + n) else UInt16.ofNat (0x57 + n)

/-- The escape `\uXXXX` of a code unit. -/
def unicodeEscape (c : UInt16) : JsString :=
  [0x5c, 0x75, hexDigit (c.toNat / 4096), hexDigit (c.toNat / 256 % 16),
    hexDigit (c.toNat / 16 % 16), hexDigit (c.toNat % 16)]

/-- A code unit of a string that is not part of a surrogate pair. -/
def escapeUnit (c : UInt16) : JsString :=
  if c == 0x22 || c == 0x5c then [0x5c, c]
  else if c == 0x08 then [0x5c, 0x62]
  else if c == 0x09 then [0x5c, 0x74]
  else if c == 0x0a then [0x5c, 0x6e]
  else if c == 0x0c then [0x5c, 0x66]
  else if c == 0x0d then [0x5c, 0x72]
  else if c < 0x20 || JsString.isHighSurrogate c || JsString.isLowSurrogate c then
    unicodeEscape c
  else [c]

def escape : JsString → JsString
  | [] => []
  | [c] => escapeUnit c
  | c :: d :: rest =>
      if JsString.isHighSurrogate c && JsString.isLowSurrogate d then
        c :: d :: escape rest
      else escapeUnit c ++ escape (d :: rest)

def quote (s : JsString) : JsString := 0x22 :: escape s ++ [0x22]

mutual

/-- `JSON.stringify`. -/
def stringify : Json → JsString
  | null => js "null"
  | bool true => js "true"
  | bool false => js "false"
  | num n => JsString.decimal n
  | str s => quote s
  | arr items => 0x5b :: stringifyItems items ++ [0x5d]
  | obj fields => 0x7b :: stringifyFields fields ++ [0x7d]

/-- The items of an array, separated by commas. -/
def stringifyItems : List Json → JsString
  | [] => []
  | [item] => stringify item
  | item :: next :: items => stringify item ++ 0x2c :: stringifyItems (next :: items)

/-- The fields of an object, separated by commas. -/
def stringifyFields : List (JsString × Json) → JsString
  | [] => []
  | [(key, value)] => quote key ++ 0x3a :: stringify value
  | (key, value) :: next :: fields =>
      quote key ++ 0x3a :: stringify value ++ 0x2c :: stringifyFields (next :: fields)

end

/-! ## Sorted keys -/

/-- `Object.keys(value).sort()` on the fields of an object. -/
def sortByKey (fields : List (JsString × Json)) : List (JsString × Json) :=
  fields.insertionSort fun a b => JsString.notAfter a.1 b.1

mutual

/-- The value with the fields of every object sorted. -/
def sortKeys : Json → Json
  | arr items => arr (sortKeysItems items)
  | obj fields => obj (sortByKey (sortKeysFields fields))
  | json => json

def sortKeysItems : List Json → List Json
  | [] => []
  | item :: items => sortKeys item :: sortKeysItems items

def sortKeysFields : List (JsString × Json) → List (JsString × Json)
  | [] => []
  | (key, value) :: fields => (key, sortKeys value) :: sortKeysFields fields

end

/-- `stableJson` -/
def stableJson (json : Json) : JsString := stringify (sortKeys json)

end Json

end Foundation
